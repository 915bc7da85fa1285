import Descent.Count

/-! What resolving a range of counts keeps of it. A range that lets in some
count within the limit resolves to just those of its counts that are within the
limit. -/

namespace Descent

namespace Bound

theorem AdmitsAbove.mono {lower : Bound} {fewer more : Nat}
    (admitted : lower.AdmitsAbove fewer) (order : fewer ≤ more) :
    lower.AdmitsAbove more := by
  cases lower with
  | included least => exact Nat.le_trans admitted order
  | excluded below => exact Nat.lt_of_lt_of_le admitted order
  | unbounded => trivial

theorem AdmitsBelow.mono {upper : Bound} {fewer more : Nat}
    (admitted : upper.AdmitsBelow more) (order : fewer ≤ more) :
    upper.AdmitsBelow fewer := by
  cases upper with
  | included most => exact Nat.le_trans order admitted
  | excluded above => exact Nat.lt_of_le_of_lt order admitted
  | unbounded => trivial

end Bound

namespace CountRange

/-- Some count that repetition can reach is in the range. -/
def Attainable (range : CountRange) : Prop :=
  ∃ count, count ≤ sizeLimit ∧ range.Contains count

/-- The range lets in more matches than repetition ever tries. -/
def Unlimited (range : CountRange) : Prop :=
  range.upper.AdmitsBelow (sizeLimit + 1)

theorem least_le_iff {range : CountRange} (attainable : range.Attainable)
    (count : Nat) :
    range.limits.least ≤ count ↔ range.lower.AdmitsAbove count := by
  rcases attainable with ⟨attained, fits, above, _⟩
  rcases range with ⟨lower, upper⟩
  cases lower <;>
    simp only [limits, CountLimits.clamp, least?, Bound.AdmitsAbove,
      Option.getD_some, Option.getD_none, iff_true] at above ⊢ <;>
    omega

theorem le_most_iff {range : CountRange} (attainable : range.Attainable)
    {count : Nat} (reachable : count ≤ sizeLimit) :
    count ≤ range.limits.most ↔ range.upper.AdmitsBelow count := by
  rcases attainable with ⟨attained, fits, above, below⟩
  rcases range with ⟨lower, upper⟩
  cases lower <;> cases upper <;>
    simp only [limits, CountLimits.clamp, least?, most?, Bound.AdmitsAbove,
      Bound.AdmitsBelow, Option.getD_some, Option.getD_none,
      iff_true] at above below ⊢ <;>
    omega

theorem most_of_unbounded (lower : Bound) :
    (limits { lower := lower, upper := .unbounded }).most = sizeLimit := by
  apply Nat.le_antisymm (CountLimits.most_le_limit _)
  exact Nat.le_trans (Nat.le_of_eq (Nat.min_self sizeLimit).symm)
    (Nat.le_max_right _ _)

theorem least_between {least most : Nat} (order : least ≤ most)
    (within : most ≤ sizeLimit) :
    (between least most).limits.least = least :=
  Nat.min_eq_left (Nat.le_trans order within)

theorem most_between {least most : Nat} (order : least ≤ most)
    (within : most ≤ sizeLimit) :
    (between least most).limits.most = most := by
  change max (min least sizeLimit) (min most sizeLimit) = most
  omega

theorem least_atMost (count : Nat) : (atMost count).limits.least = 0 :=
  Nat.zero_min sizeLimit

theorem most_atMost {count : Nat} (within : count ≤ sizeLimit) :
    (atMost count).limits.most = count := by
  change max (min 0 sizeLimit) (min count sizeLimit) = count
  omega

theorem most_le_of_not_admitsBelow {range : CountRange}
    (attainable : range.Attainable) {count : Nat}
    (noRoom : ¬ range.upper.AdmitsBelow (count + 1)) :
    range.limits.most ≤ count := by
  apply Nat.le_of_not_lt
  intro allowed
  have reachable := Nat.le_trans allowed range.limits.most_le_limit
  exact noRoom ((le_most_iff attainable reachable).mp allowed)

theorem admitsAbove_of_not_admitsBelow {range : CountRange}
    (attainable : range.Attainable) {count : Nat}
    (noRoom : ¬ range.upper.AdmitsBelow (count + 1)) :
    range.lower.AdmitsAbove count := by
  rcases attainable with ⟨attained, _, above, below⟩
  apply above.mono
  apply Nat.le_of_not_lt
  intro more
  exact noRoom (below.mono more)

theorem unlimited_of_admitsBelow {range : CountRange}
    (attainable : range.Attainable) {count : Nat}
    (beyond : range.limits.most < count)
    (admitted : range.upper.AdmitsBelow count) :
    range.limits.most = sizeLimit ∧ range.Unlimited := by
  have far : sizeLimit < count := by
    apply Nat.lt_of_not_le
    intro reachable
    have within := (le_most_iff attainable reachable).mpr admitted
    omega
  constructor
  · apply Nat.le_antisymm range.limits.most_le_limit
    exact (le_most_iff attainable (Nat.le_refl _)).mpr
      (admitted.mono (Nat.le_of_lt far))
  · exact admitted.mono far

end CountRange

end Descent
