import Descent.Proofs.Lookahead
import Descent.Proofs.Recognition
import Descent.Proofs.Simulation

/-! When a repetition without an end of its own comes to one. A body that takes
an element with every match runs out of input before the count runs out, so the
repetition stops where the body does not match. A body that matches once without
moving matches so again, as often as the count admits. -/

namespace Descent

variable {ι κ α : Type} {context : Context ι κ}

/-! ## Bodies that advance -/

/-- Every match from within the input moves forward and ends within it. -/
structure Parser.Advances (parser : Parser ι κ α) (context : Context ι κ) :
    Prop where
  consumes : parser.Consumes context
  inside : ∀ start value reached, start.position ≤ context.length →
    parser.run start context = .accept value reached →
      reached.position ≤ context.length

theorem Grammar.advances_of_consumes (grammar : Grammar ι κ α)
    (accepted : context.input.check = .ok ())
    (consumes : grammar.parser.Consumes context) :
    grammar.parser.Advances context where
  consumes := consumes
  inside := by
    intro start value reached within matched
    exact (grammar.range_of_accept accepted within matched).2

namespace Parser.Advances

variable {parser : Parser ι κ α} {start stop : Cursor} {values : List α}

theorem range_of_trail (advances : parser.Advances context)
    (trail : parser.Trail context start values stop) :
    start.position ≤ context.length →
      start.position + values.length ≤ stop.position ∧
        stop.position ≤ context.length := by
  induction trail with
  | nil cursor =>
      intro within
      exact ⟨Nat.le_refl _, within⟩
  | @cons start reached stop value values matched _ induction =>
      intro within
      have moved := advances.consumes start value reached within matched
      have rest :=
        induction (advances.inside start value reached within matched)
      rw [List.length_cons]
      omega

theorem not_accept_at_end (advances : parser.Advances context)
    (atEnd : start.position = context.length) (value : α) (reached : Cursor) :
    parser.run start context ≠ .accept value reached := by
  intro matched
  have within := Nat.le_of_eq atEnd
  have moved := advances.consumes start value reached within matched
  have still := advances.inside start value reached within matched
  omega

end Parser.Advances

/-- Repetition without an upper end is maximal munch. Behind the last value the
body fails, unless it is aborted there: at the end of the input, where the limit
was reached and no further attempt was made. -/
theorem open_repetition_is_maximal_munch (parser : Parser ι κ α)
    (context : Context ι κ) (short : context.length ≤ sizeLimit)
    (advances : parser.Advances context) (lower : Bound) (start stop : Cursor)
    (inside : start.position ≤ context.length) (values : List α)
    (read : (parser.many { lower := lower, upper := .unbounded }).run start
      context = .accept values stop) :
    values.length ≤ context.length - start.position ∧
      ((∀ fault, parser.run stop context ≠ .abort fault) →
        parser.Fails stop context) ∧
      (parser.Fails stop context ∨
        values.length = sizeLimit ∧ stop.position = context.length ∧
          ∃ fault, parser.run stop context = .abort fault) := by
  rcases Parser.many_run_eq_accept_iff.mp read with ⟨trail, ended⟩
  have range := advances.range_of_trail trail inside
  have stopped : parser.Fails stop context ∨
      values.length = sizeLimit ∧ stop.position = context.length ∧
        ∃ fault, parser.run stop context = .abort fault := by
    rcases ended with full | ⟨_, _, failed⟩
    · rw [CountRange.most_of_unbounded] at full
      -- As many elements were taken as an input can have.
      have atEnd : stop.position = context.length := by omega
      match attempt : parser.run stop context with
      | .accept value reached =>
          exact absurd attempt
            (advances.not_accept_at_end atEnd value reached)
      | .reject failure => exact .inl ⟨failure, attempt⟩
      | .abort fault => exact .inr ⟨full, atEnd, fault, rfl⟩
    · exact .inl failed
  refine ⟨by omega, ?_, stopped⟩
  intro unaborted
  rcases stopped with failed | ⟨_, _, fault, aborted⟩
  · exact failed
  · exact absurd aborted (unaborted fault)

theorem longest_input_is_read_to_its_end :
    let letters := List.replicate sizeLimit 'x'
    (Parser.any.many (.atLeast 1)).run .start ⟨.ofList letters, ()⟩ =
        .accept letters ⟨sizeLimit, none⟩ ∧
      Parser.any.Fails ⟨sizeLimit, none⟩ ⟨.ofList letters, ()⟩ := by
  -- Only the length of the input matters, and nothing should write it out.
  have general : ∀ letters : List Char, letters.length = sizeLimit →
      (Parser.any.many (.atLeast 1)).run .start ⟨.ofList letters, ()⟩ =
          .accept letters ⟨sizeLimit, none⟩ ∧
        Parser.any.Fails ⟨sizeLimit, none⟩ ⟨.ofList letters, ()⟩ := by
    intro letters count
    let context : Context Char Unit := ⟨.ofList letters, ()⟩
    have length : context.length = sizeLimit :=
      (Input.length_ofList letters).trans count
    have short := Nat.le_of_eq length
    have accepted := (Input.ofList_lawful letters).check_eq_ok short
    have advances : Parser.any.Advances context :=
      Grammar.any.advances_of_consumes accepted (Parser.satisfy_consumes _ _)
    have ahead : context.Ahead .start (letters ++ []) := by
      rw [List.append_nil]
      exact Context.ahead_ofList letters ()
    have trail :=
      Parser.satisfy_trail short (fun _ _ => rfl) "any element" .start ahead
    rw [Cursor.forward_start, count] at trail
    have full := count.trans (CountRange.most_of_unbounded (.included 1)).symm
    have read := Parser.many_run_eq_accept_iff.mpr ⟨trail, .inl full⟩
    have munch := open_repetition_is_maximal_munch Parser.any context short
      advances (.included 1) .start ⟨sizeLimit, none⟩ (Nat.zero_le _) letters
      read
    refine ⟨read, munch.2.1 ?_⟩
    exact Grammar.any.run_ne_abort accepted (Nat.le_of_eq length.symm)
  exact general (List.replicate sizeLimit 'x') List.length_replicate

/-! ## Bodies that stall -/

def unrecorded (context : Context ι κ) : Simulation context context where
  cursor here there := here.position = there.position
  failure _ _ := True
  read := by
    intro here there same
    rw [same]
  ended := by
    intro here there same
    rw [same]
  move := by
    intro here there same item _
    apply Run.Corresponds.consume
    · rw [same]
    · intro _
      exact congrArg (· + 1) same
  miss := by
    intro here there _ description
    trivial
  record := by
    intro here there missed other same _
    exact same
  merge := by
    intro first second otherFirst otherSecond _ _
    trivial

namespace Grammar

variable {grammar : Grammar ι κ α} {start middle reached : Cursor} {value : α}

theorem run_eq_accept_of_position
    (matched : grammar.parser.run start context = .accept value reached)
    {other : Cursor} (same : start.position = other.position) :
    ∃ stop, grammar.parser.run other context = .accept value stop ∧
      stop.position = reached.position := by
  have related := grammar.simulated (unrecorded context) rfl
    (.inr fun _ _ _ _ _ _ _ => trivial) start other same
  rw [matched] at related
  generalize outcome : grammar.parser.run other context = run at related
  cases related with
  | accept alike arrived =>
      rw [alike]
      exact ⟨_, rfl, arrived.symm⟩

theorem stalled_trail
    (matched : grammar.parser.run start context = .accept value reached)
    (stalled : reached.position = start.position) (count : Nat) :
    ∀ other : Cursor, other.position = start.position →
      ∃ stop,
        grammar.parser.Trail context other (List.replicate count value) stop ∧
        stop.position = start.position := by
  induction count with
  | zero =>
      intro other same
      exact ⟨other, .nil other, same⟩
  | succ count induction =>
      intro other same
      rcases run_eq_accept_of_position matched same.symm with
        ⟨next, once, arrived⟩
      rcases induction next (arrived.trans stalled) with ⟨stop, trail, stays⟩
      exact ⟨stop, .cons once trail, stays⟩

end Grammar

/-- A repetition whose body stalls runs up to its greatest count: the value read
where it stalls comes over and over. Without an upper end, the count is the
limit. -/
theorem stalled_repetition_fills_its_count (grammar : Grammar ι κ α)
    (context : Context ι κ) (range : CountRange) (start middle reached : Cursor)
    (values : List α) (value : α)
    (trail : grammar.parser.Trail context start values middle)
    (room : values.length < range.limits.most)
    (matched : grammar.parser.run middle context = .accept value reached)
    (stalled : reached.position = middle.position) :
    ∃ all stop,
      (grammar.parser.many range).run start context = .accept all stop ∧
      stop.position = middle.position ∧ all.length = range.limits.most ∧
      all = values ++ List.replicate (range.limits.most - values.length) value ∧
      (range.upper = .unbounded → all.length = 2147483647) := by
  rcases Grammar.stalled_trail matched stalled
    (range.limits.most - values.length) middle rfl with ⟨stop, further, stays⟩
  have count : (values ++ List.replicate (range.limits.most - values.length)
      value).length = range.limits.most := by
    rw [List.length_append, List.length_replicate]
    omega
  refine ⟨_, stop, ?_, stays, count, rfl, ?_⟩
  · exact Parser.many_run_eq_accept_iff.mpr ⟨trail.append further, .inl count⟩
  · intro open_
    rw [count]
    rcases range with ⟨lower, upper⟩
    cases open_
    exact CountRange.most_of_unbounded lower

theorem missing_digit_is_read_up_to_the_limit :
    let digit : Grammar Char Unit (Option Char) :=
      .optional (.satisfy Char.isDigit "digit")
    ∃ all stop,
      (digit.parser.many .any).run .start ⟨.ofText "12a", ()⟩ =
        .accept all stop ∧
      stop.position = 2 ∧ all.length = 2147483647 ∧
      all = [some '1', some '2'] ++ List.replicate 2147483645 none := by
  intro digit
  have trail : digit.parser.Trail ⟨.ofText "12a", ()⟩ .start
      [some '1', some '2'] ⟨2, none⟩ :=
    .cons rfl (.cons rfl (.nil _))
  have missed : digit.parser.run ⟨2, none⟩ ⟨.ofText "12a", ()⟩ =
      .accept none ⟨2, some (.expecting 2 "digit")⟩ := rfl
  rcases stalled_repetition_fills_its_count digit _ .any _ _ _ _ _ trail
    (by decide) missed rfl with ⟨all, stop, read, ended, _, listed, count⟩
  exact ⟨all, stop, read, ended, count rfl, listed⟩

end Descent
