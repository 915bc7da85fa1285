import Descent.Count
import Descent.Describe
import Descent.Input
import Descent.Outcome

/-! Parsers, how they are run over a whole input, and those that look at single
elements. A parser is nothing but the function that runs it: it is given the
place where it starts and what the whole run shares, and it has no memory, so a
parser that failed leaves nothing behind for the one tried after it. -/

namespace Descent

variable {ι κ α : Type}

/-- A parser of values of type `α` from elements of type `ι`, under a
configuration of type `κ`. -/
@[ext] structure Parser (ι κ α : Type) where
  run : Cursor → Context ι κ → Run α

/-! ## Whole inputs -/

/-- Why an input was refused before anything was read from it. -/
inductive InvalidInput where
  | tooLong (length most : Nat)
  | lengthMismatch (length : Nat)
deriving DecidableEq, Repr, Inhabited

def InvalidInput.message : InvalidInput → String
  | .tooLong length most =>
      "source has " ++ toString length ++
        " elements, more than the supported maximum of " ++ toString most
  | .lengthMismatch length =>
      "source reports length " ++ toString length ++
        " but indexed lookup disagrees"

/-- Refuse an input that is too long, that lacks the last element its length
promises, or that has one more. No other element is looked at. -/
def Input.check (input : Input ι) : Except InvalidInput Unit :=
  if sizeLimit < input.length then
    .error (.tooLong input.length sizeLimit)
  else if (0 < input.length ∧ (input.get? (input.length - 1)).isNone) ∨
      (input.get? input.length).isSome then
    .error (.lengthMismatch input.length)
  else
    .ok ()

namespace Parser

def parseWith (parser : Parser ι κ α) (input : Input ι) (config : κ) :
    Except InvalidInput (Run α) :=
  match input.check with
  | .ok () => .ok (parser.run .start { input := input, config := config })
  | .error invalid => .error invalid

theorem parseWith_eq_ok_iff {parser : Parser ι κ α} {input : Input ι}
    {config : κ} {run : Run α} :
    parser.parseWith input config = .ok run ↔
      input.check = .ok () ∧
        parser.run .start { input := input, config := config } = run := by
  rw [parseWith]
  cases input.check <;> simp

theorem parseWith_eq_error_iff {parser : Parser ι κ α} {input : Input ι}
    {config : κ} {invalid : InvalidInput} :
    parser.parseWith input config = .error invalid ↔
      input.check = .error invalid := by
  rw [parseWith]
  cases input.check <;> simp

def parse [Inhabited κ] (parser : Parser ι κ α) (input : Input ι) :
    Except InvalidInput (Run α) :=
  parser.parseWith input default

/-! ## Single elements

These parsers alone look at the input, and they alone move forward, by no more
than one element. -/

def satisfy (accepts : ι → Bool) (description : String) : Parser ι κ ι where
  run cursor context :=
    match context.at? cursor.position with
    | some item =>
        if accepts item then .consume item cursor 1
        else .reject (cursor.fail description)
    | none => .reject (cursor.fail description)

def element [DecidableEq ι] [Describe ι] (expected : ι) : Parser ι κ ι :=
  satisfy (fun item => decide (item = expected)) (describe expected)

def any : Parser ι κ ι :=
  satisfy (fun _ => true) "any element"

/-- Read nothing, where nothing is left to read. -/
def endOfInput : Parser ι κ Unit where
  run cursor context :=
    if context.length ≤ cursor.position then .accept () cursor
    else .reject (cursor.fail "end of input")

end Parser

end Descent
