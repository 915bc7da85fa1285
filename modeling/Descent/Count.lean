/-! How often a parser may be repeated. A range is written with two bounds
and then resolved to a least and a greatest count, which never exceed
`sizeLimit`. -/

namespace Descent

/-- The greatest number of repetitions and the greatest length of an input. -/
def sizeLimit : Nat := 2147483647

inductive Bound where
  | included (count : Nat)
  | excluded (count : Nat)
  | unbounded
deriving DecidableEq, Repr, Inhabited

namespace Bound

/-- As the lower end of a range, the bound lets `count` in. -/
def AdmitsAbove (lower : Bound) (count : Nat) : Prop :=
  match lower with
  | .included least => least ≤ count
  | .excluded below => below < count
  | .unbounded => True

/-- As the upper end of a range, the bound lets `count` in. -/
def AdmitsBelow (upper : Bound) (count : Nat) : Prop :=
  match upper with
  | .included most => count ≤ most
  | .excluded above => count < above
  | .unbounded => True

instance (lower : Bound) (count : Nat) : Decidable (lower.AdmitsAbove count) :=
  match lower with
  | .included least => inferInstanceAs (Decidable (least ≤ count))
  | .excluded below => inferInstanceAs (Decidable (below < count))
  | .unbounded => inferInstanceAs (Decidable True)

instance (upper : Bound) (count : Nat) : Decidable (upper.AdmitsBelow count) :=
  match upper with
  | .included most => inferInstanceAs (Decidable (count ≤ most))
  | .excluded above => inferInstanceAs (Decidable (count < above))
  | .unbounded => inferInstanceAs (Decidable True)

end Bound

structure CountRange where
  lower : Bound
  upper : Bound
deriving DecidableEq, Repr

namespace CountRange

def any : CountRange where
  lower := .unbounded
  upper := .unbounded

instance : Inhabited CountRange := ⟨any⟩

def atLeast (count : Nat) : CountRange where
  lower := .included count
  upper := .unbounded

def atMost (count : Nat) : CountRange where
  lower := .unbounded
  upper := .included count

def between (least most : Nat) : CountRange where
  lower := .included least
  upper := .included most

def exactly (count : Nat) : CountRange :=
  between count count

def Contains (range : CountRange) (count : Nat) : Prop :=
  range.lower.AdmitsAbove count ∧ range.upper.AdmitsBelow count

instance (range : CountRange) (count : Nat) :
    Decidable (range.Contains count) :=
  inferInstanceAs (Decidable (_ ∧ _))

def least? (range : CountRange) : Option Nat :=
  match range.lower with
  | .included count => some count
  | .excluded count => some (count + 1)
  | .unbounded => none

/-- The greatest count of the range, if its upper end is bounded. Below zero
there is no count, so an excluded zero gives zero. -/
def most? (range : CountRange) : Option Nat :=
  match range.upper with
  | .included count => some count
  | .excluded count => some (count - 1)
  | .unbounded => none

end CountRange

/-- The least and the greatest number of repetitions, both within
`sizeLimit`. -/
structure CountLimits where
  least : Nat
  most : Nat
  least_le_most : least ≤ most
  most_le_limit : most ≤ sizeLimit

namespace CountLimits

/-- Pull `least` down to `sizeLimit`, then `most` into what lies between the
two. Without a least count it is zero, without a greatest `sizeLimit`. -/
def clamp (least? most? : Option Nat) : CountLimits where
  least := min (least?.getD 0) sizeLimit
  most :=
    max (min (least?.getD 0) sizeLimit) (min (most?.getD sizeLimit) sizeLimit)
  least_le_most := Nat.le_max_left _ _
  most_le_limit :=
    Nat.max_le.mpr ⟨Nat.min_le_right _ _, Nat.min_le_right _ _⟩

def all : CountLimits :=
  clamp none none

instance : Inhabited CountLimits := ⟨all⟩

end CountLimits

/-- The counts that a repetition over this range works with. -/
def CountRange.limits (range : CountRange) : CountLimits :=
  .clamp range.least? range.most?

example :
    (CountRange.between 5 2).limits.least = 5 ∧
      (CountRange.between 5 2).limits.most = 5 := by
  decide

end Descent
