import Descent.Proofs.Bounds
import Descent.Proofs.Simulation

/-! Inputs that cannot be told apart. Where two inputs have the same length and
the same elements at all positions that steps forward lead to, runs over them
take the same course. Over a checked input no step leads past its length, so
nothing that its lookup shows beyond is ever read. -/

namespace Descent

variable {ι κ α β : Type} {left right : Context ι κ} {within : Nat → Prop}

/-! ## Contexts that agree -/

/-- At these positions both contexts show the same input, and no step forward
leads away from them. -/
structure Context.AgreesOn (left right : Context ι κ) (within : Nat → Prop) :
    Prop where
  length : left.length = right.length
  lookup : ∀ position, within position → left.at? position = right.at? position
  step : ∀ position item, within position → left.at? position = some item →
    within (position + 1)

def agreeing (agrees : left.AgreesOn right within) : Simulation left right where
  cursor here there := within here.position ∧ here = there
  failure missed other := missed = other
  read := by
    intro here there start
    rcases start with ⟨inside, rfl⟩
    exact agrees.lookup here.position inside
  ended := by
    intro here there start
    rcases start with ⟨_, rfl⟩
    rw [agrees.length]
  move := by
    intro here there start item present
    rcases start with ⟨inside, rfl⟩
    apply Run.Corresponds.consume
    · exact .rfl
    · intro _
      exact ⟨agrees.step here.position item inside present, rfl⟩
  miss := by
    intro here there start description
    rw [start.2]
  record := by
    intro here there missed other start same
    rcases start with ⟨inside, rfl⟩
    rw [same]
    exact ⟨inside, rfl⟩
  merge := by
    intro first second otherFirst otherSecond same alike
    rw [same, alike]

theorem agreeing_passesLabels (agrees : left.AgreesOn right within) :
    (agreeing agrees).PassesLabels := by
  intro here there failure other name start same
  rw [start.2, same]
  rfl

theorem Run.eq_of_corresponds_agreeing {agrees : left.AgreesOn right within}
    {run other : Run α}
    (related : run.Corresponds (agreeing agrees).toCorrespondence Eq other) :
    run = other := by
  cases related with
  | accept same arrived => rw [same, arrived.2]
  | reject missed => rw [missed]
  | abort fault => rfl

theorem Grammar.run_eq_of_agreesOn (grammar : Grammar ι κ α)
    (agrees : left.AgreesOn right within)
    (sameConfig : left.config = right.config) {start : Cursor}
    (inside : within start.position) :
    grammar.parser.run start left = grammar.parser.run start right := by
  apply Run.eq_of_corresponds_agreeing
  apply grammar.simulated (agreeing agrees) sameConfig
    (.inr (agreeing_passesLabels agrees))
  exact ⟨inside, rfl⟩

/-! ## Checked inputs that agree -/

/-- Both inputs have the same length and the same elements below it. What they
show elsewhere may differ. -/
structure Input.Agrees (input other : Input ι) : Prop where
  length : input.length = other.length
  get? : ∀ index < input.length, input.get? index = other.get? index

theorem Input.Agrees.agreesOn {input other : Input ι}
    (agrees : input.Agrees other) (accepted : input.check = .ok ())
    (otherAccepted : other.check = .ok ()) (config : κ) :
    Context.AgreesOn ⟨input, config⟩ ⟨other, config⟩ (· ≤ input.length) where
  length := agrees.length
  lookup := by
    intro position inside
    change input.get? position = other.get? position
    rcases Nat.lt_or_eq_of_le inside with before | rfl
    · exact agrees.get? position before
    · have absent := (check_eq_ok_iff.mp accepted).2.2
      have otherAbsent := (check_eq_ok_iff.mp otherAccepted).2.2
      rw [absent, agrees.length, otherAbsent]
  step := by
    intro position item inside present
    apply Nat.lt_of_le_of_ne inside
    -- An element right at the length is what the check refuses.
    intro atLength
    have absent := (check_eq_ok_iff.mp accepted).2.2
    rw [← atLength] at absent
    cases present.symm.trans absent

/-- A parse depends on nothing but the length of the input and the elements
below it: over checked inputs that agree on these the outcome is the same. -/
theorem parses_of_agreeing_inputs_are_equal (grammar : Grammar ι κ α)
    (config : κ) {input other : Input ι} (accepted : input.check = .ok ())
    (otherAccepted : other.check = .ok ()) (agrees : input.Agrees other) :
    ∃ outcome : Outcome α,
      grammar.parser.parseWith input config = .ok (.ok outcome) ∧
      grammar.parser.parseWith other config = .ok (.ok outcome) := by
  have same : grammar.parser.run .start ⟨input, config⟩ =
      grammar.parser.run .start ⟨other, config⟩ :=
    grammar.run_eq_of_agreesOn (agrees.agreesOn accepted otherAccepted config)
      rfl (Nat.zero_le _)
  match ended : grammar.parser.run .start ⟨input, config⟩ with
  | .ok outcome =>
      refine ⟨outcome, ?_, ?_⟩
      · exact Parser.parseWith_eq_ok_iff.mpr ⟨accepted, ended⟩
      · exact Parser.parseWith_eq_ok_iff.mpr
          ⟨otherAccepted, same.symm.trans ended⟩
  | .error fault =>
      exact absurd ended (grammar.run_ne_abort accepted (Nat.zero_le _) fault)

/-- The check lets this input through: up to its length it reads like a text,
and it has more elements one further on. -/
def Input.overhanging : Input Char where
  length := 3
  get? index :=
    if index = 0 then some '2' else if index = 3 then none else some 'a'

theorem overhanging_input_is_read_as_its_text :
    let frame : Grammar Char Unit (List Char) :=
      .bind (.satisfy Char.isDigit "digit") fun size _ =>
        .many .any (.exactly (size.toNat - '0'.toNat))
    let followed : Grammar Char Unit (List Char) := .keepLeft frame .any
    Input.overhanging.check = .ok () ∧ (Input.ofText "2aa").check = .ok () ∧
      Input.overhanging.Agrees (.ofText "2aa") ∧
      followed.parser.parseWith .overhanging () =
        .ok (.reject (.expecting 3 "any element")) := by
  intro frame followed
  have accepted : Input.overhanging.check = .ok () := rfl
  have textAccepted : (Input.ofText "2aa").check = .ok () := rfl
  have agrees : Input.overhanging.Agrees (.ofText "2aa") := ⟨rfl, by decide⟩
  have missed : followed.parser.parseWith (.ofText "2aa") () =
      .ok (.reject (.expecting 3 "any element")) := rfl
  rcases parses_of_agreeing_inputs_are_equal followed () accepted
    textAccepted agrees with ⟨outcome, parsed, textParsed⟩
  exact ⟨accepted, textAccepted, agrees,
    parsed.trans (textParsed.symm.trans missed)⟩

end Descent
