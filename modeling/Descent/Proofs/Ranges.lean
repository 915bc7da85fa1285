import Descent.Fault
import Descent.Proofs.Counts
import Descent.Proofs.Repetition

/-! Ranges of counts as words. The bounds of a range may be any words, and none
of the steps that resolve it leads out of them. A range that lets in some count
within the limit resolves to just those of its counts, so a repetition over it
matches as often as the range allows. Any other range resolves to a single
count. -/

namespace Descent

/-! ## Resolving in words -/

/-- The word after `count`, or the greatest word if there is none after it. -/
def Word.next (count : Nat) : Nat :=
  min (count + 1) (limit - 1)

/-- Pull `count` between `low` and `high`. Two ends in the wrong order are
refused. -/
def Word.clamp? (count low high : Nat) : Option Nat :=
  if low ≤ high then some (max low (min count high)) else none

namespace Bound

def first (lower : Bound) : Nat :=
  match lower with
  | .included least => least
  | .excluded below => Word.next below
  | .unbounded => 0

def last (upper : Bound) : Nat :=
  match upper with
  | .included most => most
  | .excluded above => above - 1
  | .unbounded => sizeLimit

theorem first_le_iff {lower : Bound} {count : Nat}
    (reachable : count ≤ sizeLimit) :
    lower.first ≤ count ↔ lower.AdmitsAbove count := by
  have room : sizeLimit < Word.limit - 1 := by decide
  cases lower with
  | included least => exact Iff.rfl
  | excluded below =>
      change min (below + 1) (Word.limit - 1) ≤ count ↔ below < count
      omega
  | unbounded => exact iff_of_true (Nat.zero_le _) trivial

theorem last_le_of_not_admitsBelow {upper : Bound} {count : Nat}
    (beyond : ¬ upper.AdmitsBelow count) : upper.last ≤ count := by
  cases upper with
  | included most => exact Nat.le_of_not_le beyond
  | excluded above =>
      exact Nat.le_trans (Nat.sub_le above 1) (Nat.le_of_not_lt beyond)
  | unbounded => exact absurd trivial beyond

end Bound

namespace CountRange

variable {range : CountRange}

/-- The least and the greatest count of the range, resolved step by step in
words. -/
def resolve? (range : CountRange) : Option (Nat × Nat) :=
  let least := min range.lower.first sizeLimit
  (Word.clamp? range.upper.last least sizeLimit).map fun most => (least, most)

theorem least_limits (range : CountRange) :
    range.limits.least = min range.lower.first sizeLimit := by
  have room : sizeLimit ≤ Word.limit - 1 := by decide
  rcases range with ⟨lower, upper⟩
  cases lower with
  | included least => rfl
  | excluded below =>
      change min (below + 1) sizeLimit =
        min (min (below + 1) (Word.limit - 1)) sizeLimit
      omega
  | unbounded => rfl

theorem most_limits (range : CountRange) :
    range.limits.most =
      max (min range.lower.first sizeLimit)
        (min range.upper.last sizeLimit) := by
  rw [← least_limits]
  rcases range with ⟨lower, upper⟩
  cases upper <;> rfl

theorem resolve?_eq_some (range : CountRange) :
    range.resolve? = some (range.limits.least, range.limits.most) := by
  have order : min range.lower.first sizeLimit ≤ sizeLimit :=
    Nat.min_le_right _ _
  rw [least_limits, most_limits, resolve?, Word.clamp?, if_pos order,
    Option.map_some]

theorem between_limits_iff (attainable : range.Attainable) (count : Nat) :
    range.limits.least ≤ count ∧ count ≤ range.limits.most ↔
      range.Contains count ∧ count ≤ sizeLimit := by
  constructor
  · rintro ⟨above, below⟩
    have reachable := Nat.le_trans below range.limits.most_le_limit
    exact ⟨⟨(least_le_iff attainable count).mp above,
      (le_most_iff attainable reachable).mp below⟩, reachable⟩
  · rintro ⟨⟨above, below⟩, reachable⟩
    exact ⟨(least_le_iff attainable count).mpr above,
      (le_most_iff attainable reachable).mpr below⟩

theorem limits_of_not_attainable (unattainable : ¬ range.Attainable) :
    range.limits.least = min range.lower.first sizeLimit ∧
      range.limits.most = min range.lower.first sizeLimit := by
  refine ⟨least_limits range, ?_⟩
  have short : min range.upper.last sizeLimit ≤
      min range.lower.first sizeLimit := by
    rcases Nat.le_total range.lower.first sizeLimit with reachable | far
    · -- The first count is within the limit, so it is the upper end that keeps
      -- it out.
      have above := (Bound.first_le_iff reachable).mp (Nat.le_refl _)
      have beyond : ¬ range.upper.AdmitsBelow range.lower.first := fun below =>
        unattainable ⟨_, reachable, above, below⟩
      have ended := Bound.last_le_of_not_admitsBelow beyond
      omega
    · omega
  rw [most_limits, Nat.max_eq_left short]

end CountRange

/-! ## Repeating over a range -/

theorem Parser.length_of_many_accept {ι κ α : Type} {parser : Parser ι κ α}
    {range : CountRange} {start stop : Cursor} {context : Context ι κ}
    {values : List α}
    (matched : (parser.many range).run start context = .accept values stop) :
    range.limits.least ≤ values.length ∧ values.length ≤ range.limits.most := by
  rcases many_run_eq_accept_iff.mp matched with ⟨_, full | ⟨enough, room, _⟩⟩
  · exact ⟨full ▸ range.limits.least_le_most, Nat.le_of_eq full⟩
  · exact ⟨enough, Nat.le_of_lt room⟩

/-- A range keeps just the counts that it allows. Resolving it in words goes
through for all bounds; if it lets in no count within the limit, what is left is
the single count that it begins with. -/
theorem ranges_keep_the_counts_they_allow (range : CountRange) :
    range.resolve? = some (range.limits.least, range.limits.most) ∧
      range.limits.least ≤ range.limits.most ∧ range.limits.most ≤ sizeLimit ∧
      (range.Attainable →
        (∀ count, range.limits.least ≤ count ∧ count ≤ range.limits.most ↔
          range.Contains count ∧ count ≤ sizeLimit) ∧
        ∀ {ι κ α : Type} (parser : Parser ι κ α) (start stop : Cursor)
          (context : Context ι κ) (values : List α),
          (parser.many range).run start context = .accept values stop →
            range.Contains values.length) ∧
      (¬ range.Attainable →
        range.limits.least = min range.lower.first sizeLimit ∧
          range.limits.most = min range.lower.first sizeLimit) := by
  refine ⟨range.resolve?_eq_some, range.limits.least_le_most,
    range.limits.most_le_limit, ?_, CountRange.limits_of_not_attainable⟩
  intro attainable
  refine ⟨CountRange.between_limits_iff attainable, ?_⟩
  intro ι κ α parser start stop context values matched
  have counted := Parser.length_of_many_accept matched
  exact ((CountRange.between_limits_iff attainable _).mp counted).1

theorem excluded_ends_are_left_out :
    let few : CountRange := ⟨.excluded 1, .excluded 4⟩
    let beyond : CountRange := ⟨.excluded 18446744073709551615, .excluded 0⟩
    few.Attainable ∧
        (∀ count, few.limits.least ≤ count ∧ count ≤ few.limits.most ↔
          few.Contains count ∧ count ≤ sizeLimit) ∧
      (Parser.any.many few).run .start ⟨.ofText "abcd", ()⟩ =
        .accept ['a', 'b', 'c'] ⟨3, none⟩ ∧ few.Contains 3 ∧
      ¬ beyond.Attainable ∧
      beyond.resolve? = some (2147483647, 2147483647) := by
  intro few beyond
  have attainable : few.Attainable := ⟨2, by decide, by decide⟩
  have unattainable : ¬ beyond.Attainable := by
    rintro ⟨count, _, _, below⟩
    exact Nat.not_lt_zero count below
  have read : (Parser.any.many few).run .start ⟨.ofText "abcd", ()⟩ =
      .accept ['a', 'b', 'c'] ⟨3, none⟩ := rfl
  rcases ranges_keep_the_counts_they_allow few with ⟨_, _, _, kept, _⟩
  rcases ranges_keep_the_counts_they_allow beyond with
    ⟨resolved, _, _, _, single⟩
  have between := (kept attainable).1
  have counted :=
    (kept attainable).2 Parser.any .start ⟨3, none⟩ ⟨.ofText "abcd", ()⟩ _ read
  refine ⟨attainable, between, read, counted, unattainable, ?_⟩
  rw [resolved, (single unattainable).1, (single unattainable).2]
  rfl

end Descent
