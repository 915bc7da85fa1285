import Mathlib.Data.List.Induction
import Descent.Outcome

/-! Joining expectations and merging failures. Both operations are associative,
and an operand that occurred before, further left, changes nothing when it
occurs again: what a run merges twice counts once, at its first place. -/

namespace Descent

/-! ## Expectations -/

namespace Expected

private theorem items_foldl_add {descriptions : List String}
    (nodup : descriptions.Nodup) (expected : Expected) :
    (descriptions.foldl add expected).items =
      expected.items ++ descriptions.filter (· ∉ expected.items) := by
  induction descriptions generalizing expected with
  | nil => simp
  | cons head tail induction =>
      have parts := List.nodup_cons.mp nodup
      rw [List.foldl_cons, induction parts.2]
      by_cases named : head ∈ expected
      · rw [add_of_mem named,
          List.filter_cons_of_neg (by simpa [mem_def] using named)]
      · have fresh : tail.filter (· ∉ expected.items ++ [head]) =
            tail.filter (· ∉ expected.items) := by
          apply List.filter_congr
          intro item member
          have different : item ≠ head := fun equal => parts.1 (equal ▸ member)
          simp [different]
        rw [items_add_of_not_mem named, fresh, List.append_assoc,
          List.filter_cons_of_pos (by simpa [mem_def] using named),
          List.singleton_append]

theorem items_union (left right : Expected) :
    (left.union right).items =
      left.items ++ right.items.filter (· ∉ left.items) :=
  items_foldl_add right.nodup left

theorem union_eq_left {left right : Expected}
    (contained : ∀ description, description ∈ right → description ∈ left) :
    left.union right = left := by
  apply ext
  rw [items_union, List.filter_eq_nil_iff.mpr, List.append_nil]
  intro description member
  simpa [mem_def] using contained description member

theorem union_assoc (first second third : Expected) :
    (first.union second).union third = first.union (second.union third) := by
  apply ext
  simp only [items_union, List.filter_append, List.filter_filter,
    List.append_assoc]
  congr 2
  apply List.filter_congr
  intro description _
  by_cases description ∈ first.items <;>
    by_cases description ∈ second.items <;>
    simp [*]

@[simp] theorem union_self (expected : Expected) :
    expected.union expected = expected :=
  union_eq_left fun _ named => named

@[simp] theorem union_union_left (left right : Expected) :
    (left.union right).union left = left.union right :=
  union_eq_left fun _ named => mem_union.mpr (.inl named)

theorem union_add (left right : Expected) (description : String) :
    left.union (right.add description) =
      (left.union right).add description := by
  by_cases named : description ∈ right
  · rw [add_of_mem named, add_of_mem (mem_union.mpr (.inr named))]
  · rw [union, items_add_of_not_mem named, List.foldl_append]
    rfl

theorem ofList_append_single (descriptions : List String)
    (description : String) :
    ofList (descriptions ++ [description]) =
      (ofList descriptions).add description :=
  List.foldl_append

theorem ofList_append (first second : List String) :
    ofList (first ++ second) = (ofList first).union (ofList second) := by
  induction second using List.reverseRecOn with
  | nil =>
      rw [List.append_nil]
      rfl
  | append_singleton second description induction =>
      rw [← List.append_assoc, ofList_append_single, ofList_append_single,
        induction, union_add]

theorem items_ofList (descriptions : List String) :
    (ofList descriptions).items = descriptions.eraseDups := by
  induction descriptions using List.reverseRecOn with
  | nil => rfl
  | append_singleton descriptions description induction =>
      rw [ofList_append_single, List.eraseDups_append, ← induction]
      by_cases named : description ∈ descriptions
      · rw [add_of_mem (mem_ofList.mpr named)]
        simp [List.removeAll, named]
      · rw [items_add_of_not_mem (mt mem_ofList.mp named)]
        simp [List.removeAll, named, List.eraseDups_cons]

@[simp] theorem ofList_items (expected : Expected) :
    ofList expected.items = expected := by
  apply ext
  change (empty.union expected).items = expected.items
  rw [items_union, show empty.items = [] from rfl, List.nil_append]
  exact List.filter_eq_self.mpr fun _ _ => by simp

end Expected

/-! ## Failures -/

namespace Failure

theorem merge_assoc (first second third : Failure) :
    (first.merge second).merge third = first.merge (second.merge third) := by
  rcases Nat.lt_trichotomy first.position second.position with lt | equal | gt
  · have behind : first.position < (second.merge third).position := by
      rw [position_merge]
      omega
    rw [merge_of_lt lt, merge_of_lt behind]
  · rcases Nat.lt_trichotomy second.position third.position with
      lt' | equal' | gt'
    · have behind : (first.merge second).position < third.position := by
        rw [position_merge]
        omega
      rw [merge_of_lt behind, merge_of_lt lt', merge_of_lt (equal ▸ lt')]
    · have sameLeft : (first.merge second).position = third.position := by
        rw [position_merge]
        omega
      have sameRight : first.position = (second.merge third).position := by
        rw [position_merge]
        omega
      rw [merge_of_eq sameLeft, merge_of_eq sameRight, merge_of_eq equal,
        merge_of_eq equal', Expected.union_assoc]
    · have ahead : third.position < (first.merge second).position := by
        rw [position_merge]
        omega
      rw [merge_of_gt ahead, merge_of_gt gt']
  · rw [merge_of_gt gt]
    rcases Nat.lt_or_ge second.position third.position with lt' | ge
    · rw [merge_of_lt lt']
    · have ahead : third.position < first.position := by omega
      have aheadOfBoth : (second.merge third).position < first.position := by
        rw [position_merge]
        omega
      rw [merge_of_gt ahead, merge_of_gt aheadOfBoth]

@[simp] theorem merge_self (failure : Failure) :
    failure.merge failure = failure := by
  rw [merge_of_eq rfl, Expected.union_self]

@[simp] theorem merge_merge_left (left right : Failure) :
    (left.merge right).merge left = left.merge right := by
  rcases Nat.lt_trichotomy left.position right.position with lt | equal | gt
  · rw [merge_of_lt lt, merge_of_gt lt]
  · have same : (left.merge right).position = left.position := by
      rw [position_merge]
      omega
    rw [merge_of_eq same, merge_of_eq equal, Expected.union_union_left]
  · rw [merge_of_gt gt, merge_self]

@[simp] theorem merge_left_idem (left right : Failure) :
    left.merge (left.merge right) = left.merge right := by
  rw [← merge_assoc, merge_self]

/-- A failure that both sides begin with may be merged once, in front. -/
theorem merge_distrib (earlier left right : Failure) :
    (earlier.merge left).merge (earlier.merge right) =
      earlier.merge (left.merge right) := by
  rw [← merge_assoc, merge_merge_left, merge_assoc]

theorem mem_expected_merge {left right : Failure} {description : String} :
    description ∈ (left.merge right).expected ↔
      (left.position = (left.merge right).position ∧
          description ∈ left.expected) ∨
        (right.position = (left.merge right).position ∧
          description ∈ right.expected) := by
  rcases Nat.lt_trichotomy left.position right.position with lt | equal | gt
  · rw [merge_of_lt lt]
    simp [Nat.ne_of_lt lt]
  · rw [merge_of_eq equal]
    simp [equal]
  · rw [merge_of_gt gt]
    simp [Nat.ne_of_lt gt]

theorem items_merge_ne_nil {left right : Failure}
    (leftNames : left.expected.items ≠ [])
    (rightNames : right.expected.items ≠ []) :
    (left.merge right).expected.items ≠ [] := by
  rcases Nat.lt_trichotomy left.position right.position with lt | equal | gt
  · rw [merge_of_lt lt]
    exact rightNames
  · rw [merge_of_eq equal, Expected.items_union]
    exact List.append_ne_nil_of_left_ne_nil leftNames _
  · rw [merge_of_gt gt]
    exact leftNames

/-! ### Several failures

A failure that others come to by merging lies where the deepest of them lie, and
names what those at that place name, in order and each once. -/

/-- The descriptions that failures at `position` name, in order. -/
def namedAt (position : Nat) (parts : List Failure) : List String :=
  (parts.filter fun part => part.position = position).flatMap fun part =>
    part.expected.items

structure Joins (failure : Failure) (parts : List Failure) : Prop where
  attained : ∃ part ∈ parts, part.position = failure.position
  greatest : ∀ part ∈ parts, part.position ≤ failure.position
  names : failure.expected.items = (namedAt failure.position parts).eraseDups

theorem namedAt_append (position : Nat) (parts others : List Failure) :
    namedAt position (parts ++ others) =
      namedAt position parts ++ namedAt position others := by
  rw [namedAt, List.filter_append, List.flatMap_append]
  rfl

theorem namedAt_of_lt {position : Nat} {parts : List Failure}
    (behind : ∀ part ∈ parts, part.position < position) :
    namedAt position parts = [] := by
  rw [namedAt, List.filter_eq_nil_iff.mpr, List.flatMap_nil]
  intro part member
  simpa using Nat.ne_of_lt (behind part member)

theorem joins_single (failure : Failure) : failure.Joins [failure] where
  attained := ⟨failure, List.mem_singleton_self failure, rfl⟩
  greatest := by simp
  names := by simp [namedAt, ← Expected.items_ofList]

variable {left right : Failure} {parts others : List Failure}

theorem Joins.expected_eq (joined : left.Joins parts) :
    left.expected = .ofList (namedAt left.position parts) := by
  apply Expected.ext
  rw [joined.names, Expected.items_ofList]

theorem Joins.mem_expected (joined : left.Joins parts) {description : String} :
    description ∈ left.expected ↔
      ∃ part ∈ parts,
        part.position = left.position ∧ description ∈ part.expected := by
  rw [joined.expected_eq, Expected.mem_ofList, namedAt, List.mem_flatMap]
  simp only [List.mem_filter, decide_eq_true_eq, and_assoc, Expected.mem_def]

theorem Joins.position_eq (joined : left.Joins parts)
    (other : right.Joins others) (same : ∀ part, part ∈ parts ↔ part ∈ others) :
    left.position = right.position := by
  rcases joined.attained with ⟨part, member, atLeft⟩
  rcases other.attained with ⟨otherPart, otherMember, atRight⟩
  have notBeyond := other.greatest part ((same part).mp member)
  have notBefore := joined.greatest otherPart ((same otherPart).mpr otherMember)
  omega

theorem Joins.items_perm (joined : left.Joins parts)
    (other : right.Joins others) (same : ∀ part, part ∈ parts ↔ part ∈ others) :
    left.expected.items.Perm right.expected.items := by
  apply (List.perm_ext_iff_of_nodup left.expected.nodup
    right.expected.nodup).mpr
  intro description
  rw [← Expected.mem_def, ← Expected.mem_def, joined.mem_expected,
    other.mem_expected, joined.position_eq other same]
  simp only [same]

theorem Joins.unique (joined : left.Joins parts) (other : right.Joins parts) :
    left = right := by
  have samePosition : left.position = right.position :=
    joined.position_eq other fun _ => .rfl
  have sameExpected : left.expected = right.expected := by
    rw [joined.expected_eq, other.expected_eq, samePosition]
  cases left
  cases right
  cases samePosition
  cases sameExpected
  rfl

theorem Joins.merge (first : left.Joins parts) (second : right.Joins others) :
    (left.merge right).Joins (parts ++ others) := by
  refine ⟨?_, ?_, ?_⟩
  · rcases first.attained with ⟨part, member, atLeft⟩
    rcases second.attained with ⟨other, otherMember, atRight⟩
    rcases Nat.le_total left.position right.position with le | ge
    · exact ⟨other, List.mem_append_right _ otherMember,
        by rw [position_merge]; omega⟩
    · exact ⟨part, List.mem_append_left _ member, by rw [position_merge]; omega⟩
  · intro part member
    rw [position_merge]
    rcases List.mem_append.mp member with inFirst | inSecond
    · exact Nat.le_trans (first.greatest part inFirst) (Nat.le_max_left _ _)
    · exact Nat.le_trans (second.greatest part inSecond) (Nat.le_max_right _ _)
  · rw [← Expected.items_ofList, namedAt_append]
    congr 1
    rcases Nat.lt_trichotomy left.position right.position with lt | equal | gt
    · have behind : ∀ part ∈ parts, part.position < right.position :=
        fun part member => Nat.lt_of_le_of_lt (first.greatest part member) lt
      rw [merge_of_lt lt, namedAt_of_lt behind, List.nil_append,
        second.expected_eq]
    · rw [merge_of_eq equal, Expected.ofList_append, ← first.expected_eq, equal,
        ← second.expected_eq]
    · have behind : ∀ part ∈ others, part.position < left.position :=
        fun part member => Nat.lt_of_le_of_lt (second.greatest part member) gt
      rw [merge_of_gt gt, namedAt_of_lt behind, List.append_nil,
        first.expected_eq]

theorem joins_replicate (failure : Failure) (count : Nat) :
    failure.Joins (.replicate (count + 1) failure) := by
  induction count with
  | zero => exact failure.joins_single
  | succ count induction =>
      have again := failure.joins_single.merge induction
      rwa [merge_self] at again

end Failure

end Descent
