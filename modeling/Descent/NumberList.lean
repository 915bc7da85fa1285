import Descent.Parser.Combinators

/-! A sample language: numbers in decimal digits, one or more, separated by
commas. Each number is a word; one that does not fit aborts the run as soon as
its digits exceed a word. -/

namespace Descent.NumberList

/-- The value of an ASCII digit, and zero for any other character. -/
def digitValue (char : Char) : Nat :=
  if char.isDigit then char.toNat - '0'.toNat else 0

/-- Append a digit to the decimal numeral read so far. -/
def appendDigit (total : Nat) (char : Char) : Except Fault Nat :=
  match Word.multiply total 10 with
  | .ok shifted => Word.add shifted (digitValue char)
  | .error fault => .error fault

def number : Parser Char Unit Nat :=
  (Parser.satisfy Char.isDigit "digit").foldChecked
    (fun total char _ => appendDigit total char) (fun _ => 0) (.atLeast 1)

def furtherNumbers : Parser Char Unit (List Nat) :=
  (Parser.element ',' *> number).many .any

/-- All numbers of an input that holds nothing else. -/
def numberList : Parser Char Unit (List Nat) :=
  (number + furtherNumbers).map (fun numbers _ => numbers.1 :: numbers.2)
    <* Parser.endOfInput

def render (numbers : List Nat) : String :=
  "[" ++ ", ".intercalate (numbers.map toString) ++ "]"

example : render [12, 34, 5] = "[12, 34, 5]" := by decide +kernel

end Descent.NumberList

/-! ## The command line

One text is parsed as a number list, and what was read is printed. -/

namespace Descent.Command

structure Report where
  exitCode : UInt32
  output : String
  diagnostics : String
deriving DecidableEq, Repr

/-- The text that is parsed when the command line names none. -/
def sample : String := "12,34,5"

/-- A list that was read is printed. A mismatch and a refused input are errors
of the user, a fault is one of the program. -/
def report (parsed : Except InvalidInput (Run (List Nat))) : Report :=
  match parsed with
  | .ok (.accept numbers _) =>
      { exitCode := 0
        output := NumberList.render numbers ++ "\n"
        diagnostics := "" }
  | .ok (.reject failure) =>
      { exitCode := 1
        output := ""
        diagnostics := "Error: " ++ failure.message ++ "\n" }
  | .ok (.abort fault) =>
      { exitCode := 101
        output := ""
        diagnostics := fault.message }
  | .error invalid =>
      { exitCode := 1
        output := ""
        diagnostics :=
          "Error: failed to run parser\n\nCaused by:\n    " ++
            invalid.message ++ "\n" }

def run (arguments : List String) : Report :=
  report (NumberList.numberList.parse (.ofText (arguments.headD sample)))

end Descent.Command
