/-! Mismatches: where one lies, and what would have matched there. Descriptions
are listed without repetition, in the order in which they were first named. Of
two mismatches the one that lies further into the input says more about what is
wrong with it, so merging keeps that one; two at the same place are joined. -/

namespace Descent

structure Expected where
  items : List String
  nodup : items.Nodup

namespace Expected

@[ext] theorem ext {left right : Expected} (equal : left.items = right.items) :
    left = right := by
  cases left
  cases right
  cases equal
  rfl

instance : DecidableEq Expected := fun left right =>
  decidable_of_iff (left.items = right.items) ⟨ext, fun equal => equal ▸ rfl⟩

instance : Membership String Expected where
  mem expected description := description ∈ expected.items

instance (description : String) (expected : Expected) :
    Decidable (description ∈ expected) :=
  inferInstanceAs (Decidable (description ∈ expected.items))

def empty : Expected where
  items := []
  nodup := .nil

instance : Inhabited Expected := ⟨empty⟩

def single (description : String) : Expected where
  items := [description]
  nodup := by simp

def length (expected : Expected) : Nat :=
  expected.items.length

def isEmpty (expected : Expected) : Bool :=
  expected.items.isEmpty

private theorem nodup_append_single {items : List String} {description : String}
    (nodup : items.Nodup) (absent : description ∉ items) :
    (items ++ [description]).Nodup := by
  rw [List.nodup_append]
  refine ⟨nodup, by simp, ?_⟩
  intro item member other otherMember equal
  rw [List.mem_singleton.mp otherMember] at equal
  exact absent (equal ▸ member)

def add (expected : Expected) (description : String) : Expected :=
  if named : description ∈ expected.items then
    expected
  else
    { items := expected.items ++ [description]
      nodup := nodup_append_single expected.nodup named }

/-- Name everything in `left`, then what only `right` names. -/
def union (left right : Expected) : Expected :=
  right.items.foldl add left

/-- The distinct descriptions of a list, each at its first occurrence. -/
def ofList (descriptions : List String) : Expected :=
  descriptions.foldl add empty

theorem mem_def {expected : Expected} {description : String} :
    description ∈ expected ↔ description ∈ expected.items :=
  .rfl

theorem add_of_mem {expected : Expected} {description : String}
    (named : description ∈ expected) : expected.add description = expected :=
  dif_pos named

theorem items_add (expected : Expected) (description : String) :
    (expected.add description).items =
      if description ∈ expected.items then expected.items
      else expected.items ++ [description] := by
  rw [add]
  split <;> rfl

theorem items_add_of_not_mem {expected : Expected} {description : String}
    (absent : description ∉ expected) :
    (expected.add description).items = expected.items ++ [description] := by
  rw [items_add, if_neg (show description ∉ expected.items from absent)]

@[simp] theorem mem_add {expected : Expected} {description other : String} :
    other ∈ expected.add description ↔
      other ∈ expected ∨ other = description := by
  by_cases named : description ∈ expected
  · rw [add_of_mem named]
    exact ⟨.inl, fun either => either.elim id fun equal => equal ▸ named⟩
  · rw [mem_def, items_add_of_not_mem named]
    simp [mem_def]

@[simp] theorem not_mem_empty (description : String) : description ∉ empty :=
  List.not_mem_nil

@[simp] theorem mem_single {description other : String} :
    other ∈ single description ↔ other = description :=
  List.mem_singleton

private theorem mem_foldl_add {descriptions : List String} {expected : Expected}
    {description : String} :
    description ∈ descriptions.foldl add expected ↔
      description ∈ expected ∨ description ∈ descriptions := by
  induction descriptions generalizing expected with
  | nil => simp
  | cons head tail induction => simp [induction, or_assoc]

@[simp] theorem mem_union {left right : Expected} {description : String} :
    description ∈ left.union right ↔ description ∈ left ∨ description ∈ right :=
  mem_foldl_add

@[simp] theorem mem_ofList {descriptions : List String} {description : String} :
    description ∈ ofList descriptions ↔ description ∈ descriptions := by
  simp [ofList, mem_foldl_add]

/-- The list as it stands in a message: `nothing`, `a`, or `a, b or c`. -/
def render (expected : Expected) : String :=
  match expected.items with
  | [] => "nothing"
  | [only] => only
  | first :: second :: rest =>
      let listed := ", ".intercalate ((first :: second :: rest).dropLast)
      let last := (second :: rest).getLast (List.cons_ne_nil second rest)
      listed ++ " or " ++ last

example : (ofList ["digit", "','", "digit", "end of input"]).render =
    "digit, ',' or end of input" := by decide

end Expected

structure Failure where
  position : Nat
  expected : Expected
deriving DecidableEq, Inhabited

namespace Failure

def expecting (position : Nat) (description : String) : Failure where
  position := position
  expected := .single description

/-- Keep the failure that got further; at a tie join what both expected,
`left` first. -/
def merge (left right : Failure) : Failure :=
  if right.position < left.position then
    left
  else if left.position < right.position then
    right
  else
    { position := left.position
      expected := left.expected.union right.expected }

/-- Merge `later` into the failure recorded before it, if there is one. -/
def after (earlier : Option Failure) (later : Failure) : Failure :=
  match earlier with
  | none => later
  | some earlier => earlier.merge later

theorem merge_of_lt {left right : Failure}
    (lt : left.position < right.position) :
    left.merge right = right := by
  simp [merge, lt, Nat.lt_asymm lt]

theorem merge_of_gt {left right : Failure}
    (gt : right.position < left.position) :
    left.merge right = left := by
  simp [merge, gt]

theorem merge_of_eq {left right : Failure}
    (equal : left.position = right.position) :
    left.merge right =
      { position := left.position
        expected := left.expected.union right.expected } := by
  simp [merge, equal]

@[simp] theorem position_merge (left right : Failure) :
    (left.merge right).position = max left.position right.position := by
  simp only [merge]
  split
  · omega
  · split
    · omega
    · exact (Nat.max_eq_left (Nat.le_of_not_lt ‹_›)).symm

@[simp] theorem after_none (later : Failure) : after none later = later := rfl

@[simp] theorem after_some (earlier later : Failure) :
    after (some earlier) later = earlier.merge later := rfl

def message (failure : Failure) : String :=
  "expected " ++ failure.expected.render ++ " at offset " ++
    toString failure.position

example :
    (Failure.expecting 3 "digit").message = "expected digit at offset 3" := by
  decide

end Failure

end Descent
