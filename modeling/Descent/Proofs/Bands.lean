import Descent.Proofs.Merging

/-! Joining expectations and merging failures as operations on all of their
values. In a product of any length an operand may be repeated, once it has
occurred, without effect: what counts is the order in which operands occur
first. Where the order of two operands is changed, a merged failure lies where
it lay and names what it named, in another order. -/

namespace Descent

/-! ## Left regular bands -/

/-- An associative operation for which an operand that occurred before, further
left, changes nothing when it occurs again. -/
structure LeftRegularBand {α : Type} (join : α → α → α) : Prop where
  assoc : ∀ first second third,
    join (join first second) third = join first (join second third)
  idem : ∀ operand, join operand operand = operand
  repeated : ∀ left right, join (join left right) left = join left right

namespace LeftRegularBand

variable {α : Type} {join : α → α → α}

theorem foldl_repeated (band : LeftRegularBand join) (first : α)
    (rest : List α) :
    ∀ operand ∈ first :: rest,
      join (rest.foldl join first) operand = rest.foldl join first := by
  induction rest using List.reverseRecOn with
  | nil =>
      intro operand member
      rw [List.mem_singleton.mp member]
      exact band.idem first
  | append_singleton rest last induction =>
      intro operand member
      rw [List.foldl_append, List.foldl_cons, List.foldl_nil]
      rw [← List.cons_append] at member
      rcases List.mem_append.mp member with earlier | atLast
      · -- Written once more in front of the last operand, it takes in its own
        -- repetition.
        have absorbed := induction operand earlier
        calc join (join (rest.foldl join first) last) operand
            = join (join (join (rest.foldl join first) operand) last) operand :=
              by rw [absorbed]
          _ = join (rest.foldl join first)
                (join (join operand last) operand) := by
              simp only [band.assoc]
          _ = join (rest.foldl join first) (join operand last) := by
              rw [band.repeated]
          _ = join (join (rest.foldl join first) operand) last :=
              (band.assoc _ _ _).symm
          _ = join (rest.foldl join first) last := by rw [absorbed]
      · rw [List.mem_singleton.mp atLast, band.assoc, band.idem]

end LeftRegularBand

theorem Expected.union_leftRegularBand : LeftRegularBand union where
  assoc := union_assoc
  idem := union_self
  repeated := union_union_left

theorem Failure.merge_leftRegularBand : LeftRegularBand merge where
  assoc := merge_assoc
  idem := merge_self
  repeated := merge_merge_left

/-! ## All expectations -/

/-- What naming nothing, naming one thing, collecting and joining lead to. -/
inductive Expected.Obtainable : Expected → Prop
  | empty : Obtainable .empty
  | single (description : String) : Obtainable (.single description)
  | ofList (descriptions : List String) : Obtainable (.ofList descriptions)
  | union {left right : Expected} (first : Obtainable left)
      (second : Obtainable right) : Obtainable (left.union right)

theorem Expected.obtainable (expected : Expected) : expected.Obtainable := by
  rw [← ofList_items expected]
  exact .ofList expected.items

theorem Expected.ofList_eq_foldl_union (descriptions : List String) :
    ofList descriptions = (descriptions.map single).foldl union empty := by
  rw [List.foldl_map]
  rfl

/-- Merging is a left regular band, and so is joining what is expected. Changing
the order of two failures changes nothing but the order of what the merged one
names. -/
theorem merging_is_a_left_regular_band :
    (∀ expected : Expected, expected.Obtainable ∧ expected.items.Nodup) ∧
      (∀ descriptions,
        Expected.ofList descriptions =
            (descriptions.map .single).foldl .union .empty ∧
          (Expected.ofList descriptions).items = descriptions.eraseDups) ∧
      LeftRegularBand Expected.union ∧ LeftRegularBand Failure.merge ∧
      (∀ (first : Failure) (rest : List Failure), ∀ operand ∈ first :: rest,
        (rest.foldl .merge first).merge operand = rest.foldl .merge first) ∧
      ∀ left right : Failure,
        (left.merge right).position = max left.position right.position ∧
          (right.merge left).position = max left.position right.position ∧
          (left.merge right).expected.items.Perm
            (right.merge left).expected.items ∧
          ∀ description, description ∈ (left.merge right).expected ↔
            ∃ part ∈ [left, right],
              part.position = max left.position right.position ∧
                description ∈ part.expected := by
  refine ⟨fun expected => ⟨expected.obtainable, expected.nodup⟩, ?_,
    Expected.union_leftRegularBand, Failure.merge_leftRegularBand,
    Failure.merge_leftRegularBand.foldl_repeated, ?_⟩
  · intro descriptions
    exact ⟨Expected.ofList_eq_foldl_union descriptions,
      Expected.items_ofList descriptions⟩
  · intro left right
    have forward : (left.merge right).Joins [left, right] :=
      left.joins_single.merge right.joins_single
    have backward : (right.merge left).Joins [right, left] :=
      right.joins_single.merge left.joins_single
    have same : ∀ part, part ∈ [left, right] ↔ part ∈ [right, left] := by
      intro part
      exact (List.Perm.swap right left []).mem_iff
    refine ⟨Failure.position_merge left right, ?_,
      forward.items_perm backward same, ?_⟩
    · rw [← forward.position_eq backward same, Failure.position_merge]
    · intro description
      rw [forward.mem_expected, Failure.position_merge]

theorem repeated_digit_is_named_once :
    let digit := Failure.expecting 3 "digit"
    let sign := Failure.expecting 3 "sign"
    let space := Failure.expecting 1 "space"
    digit ∈ [space, digit, sign] ∧
      ([digit, sign].foldl .merge space).merge digit =
        ⟨3, .ofList ["digit", "sign"]⟩ ∧
      (digit.merge sign).expected.items.Perm (sign.merge digit).expected.items ∧
      (digit.merge sign).expected.items ≠
        (sign.merge digit).expected.items := by
  intro digit sign space
  have named : digit ∈ [space, digit, sign] := by decide
  rcases merging_is_a_left_regular_band with ⟨_, _, _, _, repeated, exchanged⟩
  refine ⟨named, ?_, (exchanged digit sign).2.2.1, by decide⟩
  rw [repeated space [digit, sign] digit named]
  rfl

end Descent
