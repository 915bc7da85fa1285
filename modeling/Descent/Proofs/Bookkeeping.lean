import Descent.Proofs.Bounds
import Descent.Proofs.Merging
import Descent.Proofs.Simulation

/-! The failure recorded at a cursor never decides how a run goes on. With an
earlier failure recorded at the start, a run of a grammar reads the same value
up to the same position, and every failure it leaves lies where it would lie
anyway or where the earlier one lies, whichever is further. Without labels the
earlier failure is merged in front of each, once. -/

namespace Descent

variable {ι κ α : Type}

/-! ## An earlier failure -/

def Cursor.after (earlier : Failure) (cursor : Cursor) : Cursor :=
  { cursor with furthest := some (cursor.furthest.elim earlier earlier.merge) }

namespace Run

def after (earlier : Failure) : Run α → Run α
  | .accept value reached => .accept value (reached.after earlier)
  | .reject failure => .reject (earlier.merge failure)
  | .abort fault => .abort fault

/-- The second run ends as the first, with `earlier` recorded as well: as far as
positions show, each of its failures lies at the further one of the two. -/
def Deepened (earlier : Failure) : Run α → Run α → Prop
  | .accept value reached, .accept other otherReached =>
      other = value ∧ otherReached.position = reached.position ∧
        otherReached.furthest.isSome ∧
        otherReached.depth = max earlier.position reached.depth
  | .reject failure, .reject other =>
      other.position = max earlier.position failure.position
  | .abort fault, .abort other =>
      fault = .additionOverflow ∧ other = .additionOverflow
  | _, _ => False

end Run

def deepening (earlier : Failure) (context : Context ι κ) :
    Simulation context context where
  cursor here there :=
    there.position = here.position ∧ there.furthest.isSome ∧
      there.depth = max earlier.position here.depth
  failure missed other := other.position = max earlier.position missed.position
  read := by
    intro here there start
    rw [start.1]
  ended := by
    intro here there start
    rw [start.1]
  move := by
    intro here there start item _
    apply Run.Corresponds.consume
    · rw [start.1]
    · intro _
      exact ⟨congrArg (· + 1) start.1, start.2⟩
  miss := by
    intro here there start description
    rw [Cursor.position_fail, Cursor.position_fail, start.1,
      start.2.2, Nat.max_assoc]
  record := by
    intro here there missed other start later
    refine ⟨start.1, rfl, ?_⟩
    rw [Cursor.depth_record, Cursor.depth_record]
    omega
  merge := by
    intro first second otherFirst otherSecond firstLater secondLater
    rw [Failure.position_merge, Failure.position_merge]
    omega

theorem Grammar.deepened (grammar : Grammar ι κ α) (earlier : Failure)
    (context : Context ι κ) :
    grammar.parser.Simulated (deepening earlier context) Eq grammar.parser := by
  apply grammar.simulated _ rfl
  right
  intro here there failure other name _ later
  change (other.relabel there.position name).position =
    max earlier.position (failure.relabel here.position name).position
  rw [Failure.position_relabel, Failure.position_relabel]
  exact later

def preceding (earlier : Failure) (context : Context ι κ) :
    Simulation context context where
  cursor here there := there = here.after earlier
  failure missed other := other = earlier.merge missed
  read := by
    intro here there start
    rw [start]
    rfl
  ended := by
    intro here there start
    rw [start]
    rfl
  move := by
    intro here there start item _
    rw [start]
    apply Run.Corresponds.consume
    · rfl
    · intro _
      rfl
  miss := by
    intro here there start description
    rw [start]
    cases here with
    | mk position furthest =>
        cases furthest with
        | none => rfl
        | some furthest => exact Failure.merge_assoc _ _ _
  record := by
    intro here there missed other start later
    rw [start, later]
    cases here with
    | mk position furthest =>
        cases furthest with
        | none => simp [Cursor.record, Cursor.after]
        | some furthest =>
            simp [Cursor.record, Cursor.after, Failure.merge_distrib]
  merge := by
    intro first second otherFirst otherSecond firstLater secondLater
    rw [firstLater, secondLater, Failure.merge_distrib]

theorem Grammar.preceded (grammar : Grammar ι κ α)
    (labelFree : grammar.LabelFree) (earlier : Failure)
    (context : Context ι κ) :
    grammar.parser.Simulated (preceding earlier context) Eq grammar.parser :=
  grammar.simulated _ rfl (.inl labelFree)

/-! ## What it changes -/

theorem Run.deepened_of_corresponds {earlier : Failure} {context : Context ι κ}
    {run other : Run α}
    (related :
      run.Corresponds (deepening earlier context).toCorrespondence Eq other)
    (overflows : ∀ fault, run = .abort fault → fault = .additionOverflow) :
    run.Deepened earlier other := by
  cases related with
  | accept same arrived => exact ⟨same.symm, arrived⟩
  | reject missed => exact missed
  | abort fault =>
      have overflow := overflows fault rfl
      exact ⟨overflow, overflow⟩

theorem Run.eq_after_of_corresponds {earlier : Failure} {context : Context ι κ}
    {run other : Run α}
    (related :
      run.Corresponds (preceding earlier context).toCorrespondence Eq other) :
    other = run.after earlier := by
  cases related with
  | accept same arrived =>
      rw [same, arrived]
      rfl
  | reject missed =>
      rw [missed]
      rfl
  | abort fault => rfl

theorem Grammar.run_deepened (grammar : Grammar ι κ α) (context : Context ι κ)
    (start : Cursor) (earlier : Failure) :
    (grammar.parser.run start context).Deepened earlier
      (grammar.parser.run (start.after earlier) context) := by
  apply Run.deepened_of_corresponds
  · apply grammar.deepened earlier context
    refine ⟨rfl, rfl, ?_⟩
    cases start with
    | mk position furthest =>
        cases furthest <;> simp [Cursor.after, Cursor.depth]
  · intro fault aborted
    have kept :=
      grammar.keeps_beyond context start start (Invariant.beyond_self start)
    rw [aborted] at kept
    exact kept

theorem Grammar.run_after (grammar : Grammar ι κ α)
    (labelFree : grammar.LabelFree) (context : Context ι κ) (start : Cursor)
    (earlier : Failure) :
    grammar.parser.run (start.after earlier) context =
      (grammar.parser.run start context).after earlier :=
  Run.eq_after_of_corresponds
    (grammar.preceded labelFree earlier context start _ rfl)

theorem Grammar.exists_missed_of_reject (grammar : Grammar ι κ α)
    (labelFree : grammar.LabelFree) {context : Context ι κ} {position : Nat}
    {earlier failure : Failure}
    (rejected : grammar.parser.run ⟨position, some earlier⟩ context =
      .reject failure) :
    ∃ missed, grammar.parser.run ⟨position, none⟩ context = .reject missed ∧
      failure = earlier.merge missed := by
  have recorded := grammar.run_after labelFree context ⟨position, none⟩ earlier
  change grammar.parser.run ⟨position, some earlier⟩ context = _ at recorded
  rw [rejected] at recorded
  match alone : grammar.parser.run ⟨position, none⟩ context with
  | .accept _ _ =>
      rw [alone] at recorded
      cases recorded
  | .reject missed =>
      rw [alone] at recorded
      cases recorded
      exact ⟨missed, rfl, rfl⟩
  | .abort _ =>
      rw [alone] at recorded
      cases recorded

theorem Grammar.last_present_of_abort (grammar : Grammar ι κ α)
    {context : Context ι κ} {start : Cursor} {fault : Fault}
    (representable : start.position < Word.limit)
    (aborted : grammar.parser.run start context = .abort fault) :
    (context.at? (Word.limit - 1)).isSome := by
  cases absent : context.at? (Word.limit - 1) with
  | some _ => rfl
  | none =>
      have last : Word.limit - 1 < Word.limit := by decide
      have kept := grammar.keeps_upTo absent last
        (Nat.le_max_left _ start.depth) start ⟨by omega, Nat.le_max_right _ _⟩
      rw [aborted] at kept
      exact kept.elim

/-- A failure that is recorded when a run starts never decides how it goes on.
It may only move the failures that the run leaves further on; without labels it
is merged in front of them. -/
theorem recorded_failure_is_bookkeeping (grammar : Grammar ι κ α)
    (context : Context ι κ) (position : Nat) (earlier : Failure) :
    (grammar.parser.run ⟨position, none⟩ context).Deepened earlier
        (grammar.parser.run ⟨position, some earlier⟩ context) ∧
      (∀ fault, grammar.parser.run ⟨position, none⟩ context = .abort fault →
        position < Word.limit → (context.at? (Word.limit - 1)).isSome) ∧
      (grammar.LabelFree → grammar.parser.run ⟨position, some earlier⟩ context =
        (grammar.parser.run ⟨position, none⟩ context).after earlier) := by
  refine ⟨?_, ?_, ?_⟩
  · exact grammar.run_deepened context ⟨position, none⟩ earlier
  · intro fault aborted representable
    exact grammar.last_present_of_abort representable aborted
  · intro labelFree
    exact grammar.run_after labelFree context ⟨position, none⟩ earlier

theorem earlier_sign_is_named_first :
    let number : Grammar Char Unit Unit :=
      .keepRight (.optional (.satisfy Char.isDigit "digit")) .endOfInput
    number.LabelFree ∧
      number.parser.run ⟨0, some (.expecting 0 "sign")⟩ ⟨.ofText "a", ()⟩ =
        .reject ⟨0, .ofList ["sign", "digit", "end of input"]⟩ := by
  intro number
  have labelFree : number.LabelFree := ⟨trivial, trivial⟩
  have related := recorded_failure_is_bookkeeping number
    ⟨.ofText "a", ()⟩ 0 (.expecting 0 "sign")
  exact ⟨labelFree, (related.2.2 labelFree).trans rfl⟩

end Descent
