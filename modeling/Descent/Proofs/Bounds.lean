import Descent.Parser.Basic
import Descent.Proofs.Invariant

/-! Where runs can get to. No run falls behind the cursor it starts from, over
any input; and none passes a position where the input has no element, so over an
input that was checked at its end no offset exceeds the length, whatever the
lookup does elsewhere. -/

namespace Descent

variable {ι κ α : Type} {context : Context ι κ}

/-! ## Behind the start -/

namespace Invariant

/-- Neither the position nor the recorded failure falls behind, and offsets that
are used up are the only fault. -/
def beyond (start : Cursor) : Invariant where
  cursor here := start.position ≤ here.position ∧ start.depth ≤ here.depth
  failure missed := max start.position start.depth ≤ missed.position
  fault fault := fault = .additionOverflow
  record := by
    intro here missed within behind
    rw [Cursor.position_record, Cursor.depth_record]
    omega
  merge := by
    intro first second firstBehind secondBehind
    rw [Failure.position_merge]
    omega

theorem beyond_self (start : Cursor) : (beyond start).cursor start :=
  ⟨Nat.le_refl _, Nat.le_refl _⟩

end Invariant

theorem Grammar.keeps_beyond (grammar : Grammar ι κ α) (context : Context ι κ)
    (start : Cursor) : grammar.parser.Keeps (.beyond start) context := by
  apply grammar.keeps
  · intro here item within _
    exact Run.consume_keeps item
      (fun _ => ⟨Nat.le_succ_of_le within.1, within.2⟩) fun _ => rfl
  · intro here description within
    change max start.position start.depth ≤ (here.fail description).position
    rw [Cursor.position_fail]
    have behind := within.1
    have deeper := within.2
    omega
  · intro here failure name _ behind
    change max start.position start.depth ≤
      (failure.relabel here.position name).position
    rw [Failure.position_relabel]
    exact behind

/-! ## Up to a position without an element -/

namespace Invariant

/-- The run stays before `wall` and reports nothing beyond `deepest`; nothing
aborts it. -/
def upTo (wall deepest : Nat) : Invariant where
  cursor here := here.position ≤ wall ∧ here.depth ≤ deepest
  failure missed := missed.position ≤ deepest
  fault _ := False
  record := by
    intro here missed within near
    rw [Cursor.position_record, Cursor.depth_record]
    exact ⟨within.1, Nat.max_le.mpr ⟨within.2, near⟩⟩
  merge := by
    intro first second firstNear secondNear
    rw [Failure.position_merge]
    exact Nat.max_le.mpr ⟨firstNear, secondNear⟩

end Invariant

theorem Grammar.keeps_upTo (grammar : Grammar ι κ α) {wall deepest : Nat}
    (absent : context.at? wall = none) (representable : wall < Word.limit)
    (order : wall ≤ deepest) :
    grammar.parser.Keeps (.upTo wall deepest) context := by
  apply grammar.keeps
  · intro here item within present
    have before : here.position < wall := by
      apply Nat.lt_of_le_of_ne within.1
      intro atWall
      rw [atWall, absent] at present
      cases present
    apply Run.consume_keeps
    · intro _
      exact ⟨before, within.2⟩
    · intro exceeds
      omega
  · intro here description within
    change (here.fail description).position ≤ deepest
    rw [Cursor.position_fail]
    exact Nat.max_le.mpr ⟨within.2, Nat.le_trans within.1 order⟩
  · intro here failure name _ near
    change (failure.relabel here.position name).position ≤ deepest
    rw [Failure.position_relabel]
    exact near

/-! ## Checked inputs -/

theorem Input.check_eq_ok_iff {input : Input ι} :
    input.check = .ok () ↔ input.length ≤ sizeLimit ∧
      (0 < input.length → (input.get? (input.length - 1)).isSome) ∧
        input.get? input.length = none := by
  rw [check]
  split
  case isTrue tooLong =>
    constructor
    · intro accepted
      cases accepted
    · intro checked
      exact absurd checked.1 (Nat.not_le.mpr tooLong)
  case isFalse fits =>
    have short : input.length ≤ sizeLimit := Nat.le_of_not_lt fits
    cases last : input.get? (input.length - 1) <;>
      cases next : input.get? input.length <;>
      simp [short]

theorem Input.Lawful.ends {input : Input ι} (lawful : input.Lawful) :
    (0 < input.length → (input.get? (input.length - 1)).isSome) ∧
      input.get? input.length = none := by
  constructor
  · intro nonempty
    exact (lawful _).mpr (Nat.sub_lt nonempty Nat.one_pos)
  · apply Option.not_isSome_iff_eq_none.mp
    intro present
    exact Nat.lt_irrefl _ ((lawful _).mp present)

theorem Input.Lawful.check_eq_ok {input : Input ι} (lawful : input.Lawful)
    (short : input.length ≤ sizeLimit) : input.check = .ok () :=
  check_eq_ok_iff.mpr ⟨short, lawful.ends⟩

theorem Input.succ_lt_wordLimit (accepted : context.input.check = .ok ())
    {position : Nat} (inside : position ≤ context.length) :
    position + 1 < Word.limit := by
  have short : context.length ≤ sizeLimit := (check_eq_ok_iff.mp accepted).1
  have room : sizeLimit + 1 < Word.limit := by decide
  omega

/-- A run from `start` over an input of `length` elements ends between the two,
and reports nothing before what was recorded at its start. -/
def Run.Within (start : Cursor) (length : Nat) : Run α → Prop
  | .accept _ reached =>
      start.position ≤ reached.position ∧ reached.position ≤ length ∧
        start.depth ≤ reached.depth ∧ reached.depth ≤ length
  | .reject failure =>
      max start.position start.depth ≤ failure.position ∧
        failure.position ≤ length
  | .abort _ => False

theorem Run.within_of_keeps {run : Run α} {start : Cursor} {length : Nat}
    (forward : run.Keeps (.beyond start))
    (inside : run.Keeps (.upTo length length)) :
    run.Within start length := by
  match run with
  | .accept _ _ => exact ⟨forward.1, inside.1, forward.2, inside.2⟩
  | .reject _ => exact ⟨forward, inside⟩
  | .abort _ => exact inside

theorem Grammar.keeps_upTo_length (grammar : Grammar ι κ α)
    (accepted : context.input.check = .ok ()) {deepest : Nat}
    (order : context.length ≤ deepest) :
    grammar.parser.Keeps (.upTo context.length deepest) context := by
  have absent := (Input.check_eq_ok_iff.mp accepted).2.2
  have representable :=
    Nat.lt_of_succ_lt (Input.succ_lt_wordLimit accepted (Nat.le_refl _))
  exact grammar.keeps_upTo absent representable order

theorem Grammar.run_within (grammar : Grammar ι κ α)
    (accepted : context.input.check = .ok ()) {start : Cursor}
    (inside : start.position ≤ context.length)
    (recorded : start.depth ≤ context.length) :
    (grammar.parser.run start context).Within start context.length := by
  apply Run.within_of_keeps
  · exact grammar.keeps_beyond context start start (Invariant.beyond_self start)
  · exact grammar.keeps_upTo_length accepted (Nat.le_refl _) start
      ⟨inside, recorded⟩

theorem Grammar.run_ne_abort (grammar : Grammar ι κ α)
    (accepted : context.input.check = .ok ()) {start : Cursor}
    (inside : start.position ≤ context.length) (fault : Fault) :
    grammar.parser.run start context ≠ .abort fault := by
  intro aborted
  have kept := grammar.keeps_upTo_length accepted
    (Nat.le_max_left _ start.depth) start ⟨inside, Nat.le_max_right _ _⟩
  rw [aborted] at kept
  exact kept

theorem Grammar.range_of_accept (grammar : Grammar ι κ α)
    (accepted : context.input.check = .ok ()) {start reached : Cursor}
    {value : α} (inside : start.position ≤ context.length)
    (matched : grammar.parser.run start context = .accept value reached) :
    start.position ≤ reached.position ∧ reached.position ≤ context.length := by
  have forward :=
    grammar.keeps_beyond context start start (Invariant.beyond_self start)
  have kept := grammar.keeps_upTo_length accepted
    (Nat.le_max_left _ start.depth) start ⟨inside, Nat.le_max_right _ _⟩
  rw [matched] at forward kept
  exact ⟨forward.1, kept.1⟩

/-- Over a checked input, however its lookup behaves elsewhere, no run is
aborted and every offset lies between the start and the end of the input. -/
theorem offsets_stay_in_range (grammar : Grammar ι κ α) (context : Context ι κ)
    (accepted : context.input.check = .ok ()) :
    (∀ start : Cursor, start.position ≤ context.length →
      start.depth ≤ context.length →
      (grammar.parser.run start context).Within start context.length) ∧
      ∃ run, grammar.parser.parseWith context.input context.config = .ok run ∧
        run.Within .start context.length := by
  constructor
  · intro start inside recorded
    exact grammar.run_within accepted inside recorded
  · refine ⟨grammar.parser.run .start context, ?_, ?_⟩
    · rw [Parser.parseWith, accepted]
    · exact grammar.run_within accepted (Nat.zero_le _) (Nat.zero_le _)

/-- The check lets this input through: an element is missing in the middle, and
there are others further on. -/
def Input.torn : Input Char where
  length := 3
  get? index := if index = 1 ∨ index = 3 then none else some 'x'

theorem offsets_stay_in_range_over_torn_input :
    let everything : Grammar Char Unit (List Char) := .many .any .any
    Input.torn.check = .ok () ∧
      (everything.parser.run ⟨2, some (.expecting 3 "more")⟩ ⟨.torn, ()⟩).Within
        ⟨2, some (.expecting 3 "more")⟩ 3 := by
  intro everything
  have accepted : Input.torn.check = .ok () := rfl
  refine ⟨accepted,
    (offsets_stay_in_range everything ⟨.torn, ()⟩ accepted).1 _ ?_ ?_⟩
  · decide
  · decide

end Descent
