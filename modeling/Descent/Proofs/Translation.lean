import Descent.Count
import Descent.Proofs.Simulation

/-! Elements in front of the input. A grammar cannot tell at which offset it
starts: with other elements in front it runs as without them, and every offset
that it leaves lies further on by their number. -/

namespace Descent

variable {ι κ α : Type}

/-! ## Moving offsets -/

namespace Failure

def shift (failure : Failure) (distance : Nat) : Failure :=
  { failure with position := failure.position + distance }

theorem shift_merge (left right : Failure) (distance : Nat) :
    (left.merge right).shift distance =
      (left.shift distance).merge (right.shift distance) := by
  rcases Nat.lt_trichotomy left.position right.position with lt | equal | gt
  · rw [merge_of_lt lt, merge_of_lt (Nat.add_lt_add_right lt distance)]
  · rw [merge_of_eq equal, merge_of_eq (congrArg (· + distance) equal)]
    rfl
  · rw [merge_of_gt gt, merge_of_gt (Nat.add_lt_add_right gt distance)]

theorem shift_relabel (failure : Failure) (start : Nat) (name : String)
    (distance : Nat) :
    (failure.relabel start name).shift distance =
      (failure.shift distance).relabel (start + distance) name := by
  by_cases equal : failure.position = start
  · have moved : (failure.shift distance).position = start + distance :=
      congrArg (· + distance) equal
    rw [relabel_of_eq equal, relabel_of_eq moved]
    rfl
  · have apart : (failure.shift distance).position ≠ start + distance :=
      fun same => equal (Nat.add_right_cancel same)
    rw [relabel_of_ne equal, relabel_of_ne apart]

end Failure

namespace Cursor

def shift (cursor : Cursor) (distance : Nat) : Cursor where
  position := cursor.position + distance
  furthest := cursor.furthest.map (·.shift distance)

theorem shift_fail (cursor : Cursor) (description : String) (distance : Nat) :
    (cursor.fail description).shift distance =
      (cursor.shift distance).fail description := by
  rcases cursor with ⟨position, furthest⟩
  cases furthest with
  | none => rfl
  | some earlier => exact Failure.shift_merge earlier _ distance

theorem shift_record (cursor : Cursor) (failure : Failure) (distance : Nat) :
    (cursor.record failure).shift distance =
      (cursor.shift distance).record (failure.shift distance) := by
  rcases cursor with ⟨position, furthest⟩
  cases furthest with
  | none => rfl
  | some earlier => simp [record, shift, Failure.shift_merge]

end Cursor

def Run.shift (distance : Nat) : Run α → Run α
  | .accept value reached => .accept value (reached.shift distance)
  | .reject failure => .reject (failure.shift distance)
  | .abort fault => .abort fault

/-! ## Elements in front -/

/-- From anywhere in `items`, or from their end, the elements in front only move
offsets. -/
def shifting (front items : List ι) (config : κ)
    (short : front.length + items.length ≤ sizeLimit) :
    Simulation ⟨.ofList items, config⟩ ⟨.ofList (front ++ items), config⟩ where
  cursor here there :=
    here.position ≤ items.length ∧ there = here.shift front.length
  failure missed other := other = missed.shift front.length
  read := by
    rintro here _ ⟨_, rfl⟩
    simp [Context.at?, Cursor.shift, List.getElem?_append_right]
  ended := by
    rintro here _ ⟨_, rfl⟩
    simp only [Context.length, Input.length_ofList, Cursor.shift,
      List.length_append]
    omega
  move := by
    rintro here _ ⟨_, rfl⟩ item present
    have inside : here.position < items.length := by
      rw [Context.at?, Input.get?_ofList] at present
      exact (List.getElem?_eq_some_iff.mp present).1
    have room : sizeLimit < Word.limit := by decide
    apply Run.Corresponds.consume
    · simp only [Cursor.shift]
      omega
    · intro _
      refine ⟨inside, ?_⟩
      simp only [Cursor.shift]
      rw [Nat.add_right_comm]
  miss := by
    rintro here _ ⟨_, rfl⟩ description
    exact (here.shift_fail description _).symm
  record := by
    rintro here _ missed _ ⟨inside, rfl⟩ rfl
    exact ⟨inside, (here.shift_record missed _).symm⟩
  merge := by
    rintro first second _ _ rfl rfl
    exact (first.shift_merge second _).symm

theorem Grammar.shifted (grammar : Grammar ι κ α) {front items : List ι}
    (config : κ) (short : front.length + items.length ≤ sizeLimit) :
    grammar.parser.Simulated (shifting front items config short) Eq
      grammar.parser := by
  apply grammar.simulated (shifting front items config short) rfl
  right
  rintro here _ failure _ name ⟨_, rfl⟩ rfl
  exact (failure.shift_relabel here.position name _).symm

theorem Run.eq_shift_of_corresponds {front items : List ι} {config : κ}
    {short : front.length + items.length ≤ sizeLimit} {run other : Run α}
    (related : run.Corresponds
      (shifting front items config short).toCorrespondence Eq other) :
    other = run.shift front.length := by
  cases related with
  | accept same arrived =>
      rw [same, arrived.2]
      rfl
  | reject missed =>
      rw [missed]
      rfl
  | abort fault => rfl

/-- Parsing is the same everywhere in an input: with `front` before the
elements, each offset that a run leaves is as much further on, and nothing else
changes. -/
theorem runs_move_with_their_input (grammar : Grammar ι κ α)
    (front items : List ι) (config : κ)
    (short : front.length + items.length ≤ sizeLimit) (start : Cursor)
    (inside : start.position ≤ items.length) :
    grammar.parser.run (start.shift front.length)
        ⟨.ofList (front ++ items), config⟩ =
      (grammar.parser.run start ⟨.ofList items, config⟩).shift front.length :=
  Run.eq_shift_of_corresponds
    (grammar.shifted config short start _ ⟨inside, rfl⟩)

theorem cut_frame_moves_with_its_input :
    let frame : Grammar Char Unit (List Char) :=
      .bind (.satisfy Char.isDigit "digit") fun size _ =>
        .many (.label .any "content") (.exactly (size.toNat - '0'.toNat))
    let start : Cursor := ⟨0, some (.expecting 2 "sign")⟩
    ['a', 'b'].length + ['2', 'c'].length ≤ sizeLimit ∧
      start.position ≤ ['2', 'c'].length ∧
      frame.parser.run start ⟨.ofList ['2', 'c'], ()⟩ =
        .reject (.expecting 2 "content") ∧
      frame.parser.run (start.shift 2) ⟨.ofList ['a', 'b', '2', 'c'], ()⟩ =
        .reject (.expecting 4 "content") := by
  intro frame start
  have short : ['a', 'b'].length + ['2', 'c'].length ≤ sizeLimit := by decide
  have inside : start.position ≤ ['2', 'c'].length := by decide
  exact ⟨short, inside, rfl,
    runs_move_with_their_input frame ['a', 'b'] ['2', 'c'] () short start
      inside⟩

end Descent
