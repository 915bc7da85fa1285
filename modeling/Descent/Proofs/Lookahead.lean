import Descent.Count
import Descent.Proofs.Repetition

/-! What lies ahead. Where the elements from a cursor to the end of the input
are known, the parsers that look at the input can be followed element by
element. -/

namespace Descent

variable {ι κ α β : Type}

def Cursor.forward (cursor : Cursor) (count : Nat) : Cursor :=
  { cursor with position := cursor.position + count }

theorem Cursor.forward_forward (cursor : Cursor) (first second : Nat) :
    (cursor.forward first).forward second =
      cursor.forward (first + second) := by
  simp only [forward, Nat.add_assoc]

theorem Cursor.forward_start (count : Nat) :
    Cursor.start.forward count = ⟨count, none⟩ := by
  rw [forward, start, Nat.zero_add]

theorem length_le_length_flatMap {write : β → List ι}
    (nonempty : ∀ item, write item ≠ []) (items : List β) :
    items.length ≤ (items.flatMap write).length := by
  induction items with
  | nil => exact Nat.le_refl _
  | cons head tail induction =>
      have present := List.length_pos_iff.mpr (nonempty head)
      rw [List.flatMap_cons, List.length_append, List.length_cons]
      omega

namespace Context

/-- From the cursor on the input holds `rest` and nothing else. -/
structure Ahead (context : Context ι κ) (cursor : Cursor) (rest : List ι) :
    Prop where
  lookup : ∀ index, context.at? (cursor.position + index) = rest[index]?
  length : context.length = cursor.position + rest.length

theorem ahead_ofList (items : List ι) (config : κ) :
    Ahead ⟨.ofList items, config⟩ .start items where
  lookup := by simp [Context.at?, Cursor.start]
  length := by simp [Context.length, Cursor.start]

namespace Ahead

variable {context : Context ι κ} {cursor : Cursor} {item : ι}
  {front rest : List ι}

theorem head? (ahead : context.Ahead cursor rest) :
    context.at? cursor.position = rest.head? := by
  rw [← Nat.add_zero cursor.position, ahead.lookup, List.head?_eq_getElem?]

theorem length_le (ahead : context.Ahead cursor rest)
    (short : context.length ≤ sizeLimit) :
    rest.length ≤ sizeLimit := by
  have length := ahead.length
  omega

theorem forward (ahead : context.Ahead cursor (front ++ rest)) :
    context.Ahead (cursor.forward front.length) rest where
  lookup := by
    intro index
    rw [Cursor.forward, Nat.add_assoc, ahead.lookup,
      List.getElem?_append_right (Nat.le_add_right _ _),
      Nat.add_sub_cancel_left]
  length := by
    rw [ahead.length, List.length_append, Cursor.forward, Nat.add_assoc]

theorem step (ahead : context.Ahead cursor (item :: rest)) :
    context.Ahead (cursor.forward 1) rest :=
  @forward _ _ _ _ [item] _ ahead

end Ahead

end Context

namespace Parser

variable {context : Context ι κ} {start : Cursor}
  {accepts : ι → Bool} {item : ι} {front rest : List ι}

theorem satisfy_run_of_ahead (ahead : context.Ahead start (item :: rest))
    (short : context.length ≤ sizeLimit) (admitted : accepts item = true)
    (description : String) :
    (satisfy accepts description).run start context =
      .accept item (start.forward 1) := by
  have room : start.position + 1 < Word.limit := by
    have length := ahead.length
    have bound : sizeLimit < Word.limit := by decide
    rw [List.length_cons] at length
    omega
  rw [satisfy_run_of_admitted ahead.head? admitted,
    Run.consume_eq_accept item room, Cursor.forward]

theorem satisfy_run_of_not_ahead (ahead : context.Ahead start rest)
    (missing : ∀ item ∈ rest.head?, accepts item = false)
    (description : String) :
    (satisfy accepts description).run start context =
      .reject (start.fail description) := by
  apply satisfy_run_of_missing
  intro item present
  apply missing
  exact ahead.head?.symm.trans present

theorem endOfInput_run_of_ahead_nil (ahead : context.Ahead start []) :
    (endOfInput : Parser ι κ Unit).run start context = .accept () start :=
  endOfInput_run_of_le (Nat.le_of_eq ahead.length)

theorem endOfInput_run_of_ahead (ahead : context.Ahead start rest)
    (more : rest ≠ []) :
    (endOfInput : Parser ι κ Unit).run start context =
      .reject (start.fail "end of input") := by
  apply endOfInput_run_of_lt
  have present := List.length_pos_iff.mpr more
  rw [ahead.length]
  omega

/-- Items that are written one after another are read one after the other, if
each of them is read where others are written behind it. -/
theorem trail_of_written {parser : Parser ι κ α} {write : β → List ι}
    {value : β → α} {items : List β}
    (reads : ∀ item ∈ items, ∀ (others : List β) (start : Cursor),
      context.Ahead start (write item ++ (others.flatMap write ++ rest)) →
        parser.run start context =
          .accept (value item) (start.forward (write item).length)) :
    ∀ start, context.Ahead start (items.flatMap write ++ rest) →
      parser.Trail context start (items.map value)
        (start.forward (items.flatMap write).length) := by
  induction items with
  | nil =>
      intro start _
      exact .nil start
  | cons head tail induction =>
      intro start ahead
      rw [List.flatMap_cons, List.append_assoc] at ahead
      have each := List.forall_mem_cons.mp reads
      have others := induction each.2 _ ahead.forward
      rw [Cursor.forward_forward, ← List.length_append, ← List.flatMap_cons]
        at others
      exact .cons (each.1 tail start ahead) others

theorem satisfy_trail (short : context.length ≤ sizeLimit)
    (admitted : ∀ item ∈ front, accepts item = true) (description : String) :
    ∀ start, context.Ahead start (front ++ rest) →
      (satisfy accepts description).Trail context start front
        (start.forward front.length) := by
  have written : front.flatMap (fun item => [item]) = front :=
    List.flatMap_singleton' front
  have reads : ∀ item ∈ front, ∀ (others : List ι) (start : Cursor),
      context.Ahead start
          ([item] ++ (others.flatMap (fun item => [item]) ++ rest)) →
        (satisfy accepts description).run start context =
          .accept item (start.forward 1) :=
    fun item member _ _ ahead =>
      satisfy_run_of_ahead ahead short (admitted item member) description
  have trail := trail_of_written reads
  rwa [written, List.map_id'] at trail

end Parser

end Descent
