import Descent.Outcome
import Descent.Proofs.Merging

/-! What a match has been through. A match comes from the start of a run by
operations that replace its value, move it on, or record failures, in any order.
Whatever the order, it stands as far on as all moves together lead, and of the
failures recorded it knows what they come to: those at the deepest place, joined
in the order in which they came, and nothing of the others. A failure that is
reported from there is merged into just that. -/

namespace Descent

variable {α β : Type}

/-! ## Operations and histories -/

/-- Something done to a match, by the types of its value before and after. -/
inductive Operation : Type → Type → Type 1 where
  | update {α β : Type} (value : β) (count : Nat) : Operation α β
  | map {α β : Type} (f : α → β) : Operation α β
  | take {α : Type} : Operation α Unit
  | record {α : Type} (failure : Failure) : Operation α α

namespace Operation

def apply : Operation α β → Match α → Except Fault (Match β)
  | update value count, found => found.update value count
  | map f, found => .ok (found.map f)
  | take, found => .ok found.take.2
  | record failure, found => .ok (found.record failure)

def distance : Operation α β → Nat
  | update _ count => count
  | map _ => 0
  | take => 0
  | record _ => 0

def recorded : Operation α β → List Failure
  | update _ _ => []
  | map _ => []
  | take => []
  | record failure => [failure]

end Operation

/-- Operations one after the other from the start, by the type of the value they
lead to. -/
inductive History : Type → Type 1 where
  | start : History Unit
  | next {α β : Type} (earlier : History α) (operation : Operation α β) :
      History β

namespace History

def run {α : Type} : History α → Except Fault (Match α)
  | start => .ok .start
  | next earlier operation => earlier.run.bind operation.apply

def distance {α : Type} : History α → Nat
  | start => 0
  | next earlier operation => earlier.distance + operation.distance

def recorded {α : Type} : History α → List Failure
  | start => []
  | next earlier operation => earlier.recorded ++ operation.recorded

end History

/-! ## What a cursor accounts for -/

variable {distance count : Nat} {recorded : List Failure}

namespace Cursor

/-- The cursor stands `distance` elements from the start, and holds what the
recorded failures come to. -/
structure Accounts (cursor : Cursor) (distance : Nat)
    (recorded : List Failure) : Prop where
  position : cursor.position = distance
  nothing : cursor.furthest = none ↔ recorded = []
  deepest : ∀ kept, cursor.furthest = some kept → kept.Joins recorded

namespace Accounts

variable {cursor : Cursor} {kept : Failure} {description : String}

theorem start : Cursor.start.Accounts 0 [] where
  position := rfl
  nothing := iff_of_true rfl rfl
  deepest _ held := nomatch held

theorem moved (accounts : cursor.Accounts distance recorded) :
    ({ cursor with position := cursor.position + count } : Cursor).Accounts
      (distance + count) recorded where
  position := congrArg (· + count) accounts.position
  nothing := accounts.nothing
  deepest := accounts.deepest

theorem record (accounts : cursor.Accounts distance recorded)
    (failure : Failure) :
    (cursor.record failure).Accounts distance (recorded ++ [failure]) where
  position := accounts.position
  nothing := by simp [Cursor.record]
  deepest := by
    intro kept held
    cases held
    cases earlier : cursor.furthest with
    | none =>
        rw [accounts.nothing.mp earlier]
        exact failure.joins_single
    | some deepest =>
        exact (accounts.deepest deepest earlier).merge failure.joins_single

/-! ### Failing from there -/

theorem fail_of_behind (accounts : cursor.Accounts distance recorded)
    (behind : ∀ failure ∈ recorded, failure.position < distance) :
    cursor.fail description = .expecting distance description := by
  rw [fail, accounts.position]
  cases held : cursor.furthest with
  | none => rfl
  | some kept =>
      rcases (accounts.deepest kept held).attained with ⟨failure, member, there⟩
      have before : kept.position < distance := there ▸ behind failure member
      exact Failure.merge_of_lt before

theorem fail_of_ahead (accounts : cursor.Accounts distance recorded)
    (held : cursor.furthest = some kept) (ahead : distance < kept.position) :
    cursor.fail description = kept := by
  rw [fail, accounts.position, held]
  exact Failure.merge_of_gt ahead

theorem fail_of_tie (accounts : cursor.Accounts distance recorded)
    (held : cursor.furthest = some kept) (tie : kept.position = distance) :
    cursor.fail description = ⟨distance, kept.expected.add description⟩ := by
  rw [fail, accounts.position, held, Failure.after_some,
    Failure.merge_of_eq tie, tie]
  rfl

end Accounts

end Cursor

/-! ## One operation -/

namespace Operation

variable {found : Match α}

theorem exists_apply (operation : Operation α β)
    (accounts : found.cursor.Accounts distance recorded)
    (fits : distance + operation.distance < Word.limit) :
    ∃ next, operation.apply found = .ok next ∧
      next.cursor.Accounts (distance + operation.distance)
        (recorded ++ operation.recorded) := by
  cases operation with
  | update value count =>
      refine ⟨_, Match.update_eq_ok value (accounts.position ▸ fits), ?_⟩
      rw [Operation.recorded, List.append_nil]
      exact accounts.moved
  | map f =>
      refine ⟨found.map f, rfl, ?_⟩
      rw [Operation.recorded, List.append_nil]
      exact accounts
  | take =>
      refine ⟨found.take.2, rfl, ?_⟩
      rw [Operation.recorded, List.append_nil]
      exact accounts
  | record failure => exact ⟨found.record failure, rfl, accounts.record failure⟩

theorem apply_eq_error (operation : Operation α β)
    (accounts : found.cursor.Accounts distance recorded)
    (inside : distance < Word.limit)
    (exceeds : Word.limit ≤ distance + operation.distance) :
    operation.apply found = .error .additionOverflow := by
  cases operation with
  | update value count =>
      exact Match.update_eq_error value (accounts.position ▸ exceeds)
  | map f => exact absurd inside (Nat.not_lt.mpr exceeds)
  | take => exact absurd inside (Nat.not_lt.mpr exceeds)
  | record failure => exact absurd inside (Nat.not_lt.mpr exceeds)

end Operation

/-! ## All operations -/

namespace History

theorem exists_run (history : History α)
    (fits : history.distance < Word.limit) :
    ∃ found, history.run = .ok found ∧
      found.cursor.Accounts history.distance history.recorded := by
  induction history with
  | start => exact ⟨.start, rfl, .start⟩
  | next earlier operation induction =>
      have earlierFits : earlier.distance < Word.limit :=
        Nat.lt_of_le_of_lt (Nat.le_add_right _ _) fits
      rcases induction earlierFits with ⟨found, reached, accounts⟩
      rcases operation.exists_apply accounts fits with ⟨last, applied, kept⟩
      refine ⟨last, ?_, kept⟩
      rw [run, reached]
      exact applied

theorem run_eq_error (history : History α)
    (exceeds : Word.limit ≤ history.distance) :
    history.run = .error .additionOverflow := by
  induction history with
  | start => exact absurd exceeds (by decide)
  | next earlier operation induction =>
      -- The operation that first leads too far aborts the run, and none is
      -- applied behind it.
      rcases Nat.lt_or_ge earlier.distance Word.limit with
        earlierFits | earlierExceeds
      · rcases earlier.exists_run earlierFits with ⟨found, reached, accounts⟩
        rw [run, reached]
        exact operation.apply_eq_error accounts earlierFits exceeds
      · rw [run, induction earlierExceeds]
        rfl

end History

/-- A history of operations comes to the deepest failures recorded in it. What
is recorded at its end names what those name, in order, and decides together
with the position what a failure from there names. -/
theorem histories_come_to_their_deepest_failures (history : History α) :
    (Word.limit ≤ history.distance → history.run = .error .additionOverflow) ∧
      (history.distance < Word.limit → ∃ found, history.run = .ok found ∧
        found.cursor.position = history.distance ∧
        (found.cursor.furthest = none ↔ history.recorded = []) ∧
        (∀ kept, found.cursor.furthest = some kept →
          kept.Joins history.recorded) ∧
        ∀ description,
          ((∀ failure ∈ history.recorded, failure.position < history.distance) →
            found.cursor.fail description =
              .expecting history.distance description) ∧
          ∀ kept, found.cursor.furthest = some kept →
            (history.distance < kept.position →
              found.cursor.fail description = kept) ∧
            (kept.position = history.distance →
              (found.cursor.fail description).position = history.distance ∧
              (found.cursor.fail description).expected.items =
                if description ∈ kept.expected.items then kept.expected.items
                else kept.expected.items ++ [description])) := by
  refine ⟨history.run_eq_error, ?_⟩
  intro fits
  rcases history.exists_run fits with ⟨found, reached, accounts⟩
  refine ⟨found, reached, accounts.position, accounts.nothing,
    accounts.deepest, ?_⟩
  intro description
  refine ⟨accounts.fail_of_behind, ?_⟩
  intro kept held
  refine ⟨accounts.fail_of_ahead held, ?_⟩
  intro tie
  rw [accounts.fail_of_tie held tie]
  exact ⟨rfl, kept.expected.items_add description⟩

theorem nearer_comma_is_forgotten :
    let missing (position : Nat) (descriptions : List String) : Failure :=
      ⟨position, .ofList descriptions⟩
    let pair : History Nat :=
      .next (.next (.next (.next (.next (.next (.next .start
        (.record (missing 4 ["digit"])))
        (.update 'a' 2))
        (.record (missing 2 ["','"])))
        .take)
        (.update ['b', 'c'] 2))
        (.record (missing 4 ["letter", "digit"])))
        (.map List.length)
    let passed : History Char :=
      .next (.next .start (.record (missing 2 ["','"]))) (.update 'a' 3)
    let ahead : History Unit := .next .start (.record (missing 7 ["')'"]))
    pair.distance < Word.limit ∧
      (∃ found, pair.run = .ok found ∧
        found.cursor.furthest = some (missing 4 ["digit", "letter"]) ∧
        (missing 4 ["digit", "letter"]).Joins pair.recorded ∧
        (found.cursor.fail "end of input").expected.items =
          ["digit", "letter", "end of input"] ∧
        (found.cursor.fail "letter").expected.items = ["digit", "letter"]) ∧
      (∃ found, passed.run = .ok found ∧
        found.cursor.fail "digit" = .expecting 3 "digit") ∧
      (∃ found, ahead.run = .ok found ∧
        found.cursor.fail "digit" = missing 7 ["')'"]) ∧
      (History.next pair (.update () 18446744073709551612)).run =
        .error .additionOverflow := by
  intro missing pair passed ahead
  have fits : pair.distance < Word.limit := by decide
  have passedFits : passed.distance < Word.limit := by decide
  have aheadFits : ahead.distance < Word.limit := by decide
  have behind : ∀ failure ∈ passed.recorded,
      failure.position < passed.distance := by decide
  have pairRun : pair.run = .ok ⟨2, 4, some (missing 4 ["digit", "letter"])⟩ :=
    rfl
  have aheadRun : ahead.run = .ok ⟨(), 0, some (missing 7 ["')'"])⟩ := rfl
  refine ⟨fits, ?_, ?_, ?_, ?_⟩
  · rcases (histories_come_to_their_deepest_failures pair).2 fits with
      ⟨found, reached, _, _, deepest, reported⟩
    cases reached.symm.trans pairRun
    refine ⟨_, pairRun, rfl, deepest _ rfl, ?_, ?_⟩
    · exact (((reported "end of input").2 _ rfl).2 rfl).2
    · exact (((reported "letter").2 _ rfl).2 rfl).2
  · rcases (histories_come_to_their_deepest_failures passed).2 passedFits with
      ⟨found, reached, _, _, _, reported⟩
    exact ⟨found, reached, (reported "digit").1 behind⟩
  · rcases (histories_come_to_their_deepest_failures ahead).2 aheadFits with
      ⟨found, reached, _, _, _, reported⟩
    cases reached.symm.trans aheadRun
    exact ⟨_, aheadRun, ((reported "digit").2 _ rfl).1 (by decide)⟩
  · exact (histories_come_to_their_deepest_failures _).1 (by decide)

end Descent
