import Descent.Grammar

/-! How each parser runs, case by case. Everything that is said of all grammars
goes through these equations and never opens a parser again. -/

namespace Descent

/-! ## Cursors -/

namespace Cursor

/-- How far the recorded failure lies, with none at the very start. -/
def depth (cursor : Cursor) : Nat :=
  cursor.furthest.elim 0 Failure.position

@[simp] theorem position_fail (cursor : Cursor) (description : String) :
    (cursor.fail description).position = max cursor.depth cursor.position := by
  rcases cursor with ⟨position, furthest⟩
  cases furthest <;> simp [fail, depth, Failure.expecting]

@[simp] theorem depth_record (cursor : Cursor) (failure : Failure) :
    (cursor.record failure).depth = max cursor.depth failure.position := by
  rcases cursor with ⟨position, furthest⟩
  cases furthest <;> simp [record, depth]

end Cursor

namespace Failure

/-- What a label makes of a failure of its body, which started at `start`. -/
def relabel (failure : Failure) (start : Nat) (name : String) : Failure :=
  if failure.position = start then expecting failure.position name else failure

theorem relabel_of_eq {failure : Failure} {start : Nat}
    (equal : failure.position = start) (name : String) :
    failure.relabel start name = expecting start name := by
  rw [relabel, if_pos equal, equal]

theorem relabel_of_ne {failure : Failure} {start : Nat}
    (different : failure.position ≠ start) (name : String) :
    failure.relabel start name = failure :=
  if_neg different

@[simp] theorem position_relabel (failure : Failure) (start : Nat)
    (name : String) :
    (failure.relabel start name).position = failure.position := by
  rw [relabel]
  split <;> rfl

end Failure

/-! ## Parsers -/

namespace Parser

variable {ι κ α β : Type} {context : Context ι κ} {cursor : Cursor}

def Fails (parser : Parser ι κ α) (cursor : Cursor) (context : Context ι κ) :
    Prop :=
  ∃ failure, parser.run cursor context = .reject failure

theorem admitted_or_missing (accepts : ι → Bool) (found : Option ι) :
    (∃ item, found = some item ∧ accepts item = true) ∨
      ∀ item, found = some item → accepts item = false := by
  cases found with
  | none => exact .inr fun _ present => nomatch present
  | some item =>
      cases admitted : accepts item with
      | true => exact .inl ⟨item, rfl, admitted⟩
      | false =>
          right
          intro other present
          cases present
          exact admitted

theorem satisfy_run_of_admitted {accepts : ι → Bool} {item : ι}
    (present : context.at? cursor.position = some item)
    (admitted : accepts item = true) (description : String) :
    (satisfy accepts description).run cursor context =
      .consume item cursor 1 := by
  simp [satisfy, present, admitted]

theorem satisfy_run_of_missing {accepts : ι → Bool}
    (missing : ∀ item, context.at? cursor.position = some item →
      accepts item = false) (description : String) :
    (satisfy accepts description).run cursor context =
      .reject (cursor.fail description) := by
  cases present : context.at? cursor.position with
  | none => simp [satisfy, present]
  | some item => simp [satisfy, present, missing item present]

theorem endOfInput_run_of_le (atEnd : context.length ≤ cursor.position) :
    (endOfInput : Parser ι κ Unit).run cursor context = .accept () cursor :=
  if_pos atEnd

theorem endOfInput_run_of_lt (before : cursor.position < context.length) :
    (endOfInput : Parser ι κ Unit).run cursor context =
      .reject (cursor.fail "end of input") :=
  if_neg (Nat.not_le.mpr before)

theorem optional_run (parser : Parser ι κ α) :
    parser.optional.run cursor context =
      ((parser.map fun value _ => some value).run cursor context).recover
        fun failure => .accept none (cursor.record failure) := by
  simp only [optional, map]
  cases parser.run cursor context with
  | error fault => rfl
  | ok outcome => cases outcome <;> rfl

theorem optional_run_of_reject {parser : Parser ι κ α} {failure : Failure}
    (rejected : parser.run cursor context = .reject failure) :
    parser.optional.run cursor context =
      .accept none (cursor.record failure) := by
  simp only [optional, rejected]

theorem orElse_run_of_reject {first : Parser ι κ α} {failure : Failure}
    (rejected : first.run cursor context = .reject failure)
    (second : Parser ι κ α) :
    (first.orElse second).run cursor context =
      (second.run cursor context).recover fun other =>
        .reject (failure.merge other) := by
  simp only [orElse, rejected, Run.recover_reject]

theorem label_run (parser : Parser ι κ α) (name : String) :
    (parser.label name).run cursor context =
      (parser.run cursor context).recover fun failure =>
        .reject (failure.relabel cursor.position name) := by
  simp only [label, Failure.relabel]
  congr
  funext failure
  split <;> rfl

/-! A repetition that may go on tries one match more, by one more run of its
body. -/

theorem repeatFrom_zero (parser : Parser ι κ α)
    (step : β → α → κ → Except Fault β) (required : Nat) (total : β) :
    repeatFrom parser step context required 0 total cursor =
      .accept total cursor := by
  rw [repeatFrom]

theorem repeatFrom_succ_of_accept {parser : Parser ι κ α} {value : α}
    {reached : Cursor}
    (matched : parser.run cursor context = .accept value reached)
    (step : β → α → κ → β) (required remaining : Nat) (total : β) :
    repeatFrom parser (fun total value config =>
        .ok (step total value config)) context required (remaining + 1) total
        cursor =
      repeatFrom parser (fun total value config =>
        .ok (step total value config)) context (required - 1) remaining
        (step total value context.config) reached := by
  rw [repeatFrom, matched]

theorem repeatFrom_succ_of_reject {parser : Parser ι κ α} {failure : Failure}
    (mismatched : parser.run cursor context = .reject failure)
    (step : β → α → κ → Except Fault β) (required remaining : Nat) (total : β) :
    repeatFrom parser step context required (remaining + 1) total cursor =
      if 0 < required then .reject failure else .accept total cursor := by
  rw [repeatFrom, mismatched]

theorem repeatFrom_succ_of_abort {parser : Parser ι κ α} {fault : Fault}
    (aborted : parser.run cursor context = .abort fault)
    (step : β → α → κ → Except Fault β) (required remaining : Nat) (total : β) :
    repeatFrom parser step context required (remaining + 1) total cursor =
      .abort fault := by
  rw [repeatFrom, aborted]

end Parser

end Descent
