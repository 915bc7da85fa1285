import Descent.CharClass

/-! How elements are named in a message. Texts and characters are quoted, so
that every character shows: what has no glyph of its own stands as an escape,
and a reader of the message can tell it from nothing. -/

namespace Descent.Text

/-- The letter that follows the backslash where a control character, or the
backslash, has a short escape. -/
def shortEscape? : Char → Option Char
  | '\x00' => some '0'
  | '\t' => some 't'
  | '\n' => some 'n'
  | '\r' => some 'r'
  | '\\' => some '\\'
  | _ => none

/-- The halfwidth marks of voicing extend the sign before them, but they take a
place of their own and can be seen there. -/
def isHalfwidthSoundMark (char : Char) : Bool :=
  char == '\uff9e' || char == '\uff9f'

/-- The character would be drawn onto the one before it. -/
def isOverlaid (char : Char) : Bool :=
  graphemeExtend.contains char && !isHalfwidthSoundMark char

/-- The character can stand for itself between quotes. -/
def isPlain (char : Char) : Bool :=
  if char.toNat < 0x7f then
    decide (0x20 ≤ char.toNat)
  else
    !unprintable.contains char && !defaultIgnorable.contains char &&
      !isOverlaid char

def codePointEscape (char : Char) : List Char :=
  "\\u\x7b".toList ++ Nat.toDigits 16 char.toNat ++ ['\x7d']

/-- One character between two `quote`s. Of the two kinds of quotes only the one
in use is escaped. -/
def escape (quote char : Char) : List Char :=
  match shortEscape? char with
  | some letter => ['\\', letter]
  | none =>
      if char = quote then ['\\', char]
      else if isPlain char then [char]
      else codePointEscape char

def quoted (quote : Char) (text : List Char) : String :=
  String.ofList (quote :: text.flatMap (escape quote) ++ [quote])

example : quoted '"' "it's".toList = "\"it's\"" := by decide +kernel
example : quoted '"' "a\tb\\".toList = "\"a\\tb\\\\\"" := by decide +kernel
example : quoted '"' "\u1100\u1160\u11a8".toList =
    "\"\u1100\\u\x7b1160\x7d\u11a8\"" := by decide +kernel
example : quoted '\'' ['\uff9e'] = "'\uff9e'" := by decide +kernel

end Descent.Text

namespace Descent

class Describe (ι : Type) where
  describe : ι → String

export Describe (describe)

instance : Describe Char where
  describe char := Text.quoted '\'' [char]

instance : Describe String where
  describe text := Text.quoted '"' text.toList

instance : Describe Int where
  describe value := toString value

instance : Describe Nat where
  describe value := toString value

instance : Describe UInt8 where
  describe value := toString value.toNat

example : describe '\'' = "'\\''" := by decide +kernel
example : describe "\"" = "\"\\\"\"" := by decide +kernel

end Descent
