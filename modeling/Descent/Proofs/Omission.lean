import Descent.Proofs.Bookkeeping
import Descent.Proofs.Counts
import Descent.Proofs.Repetition

/-! Reading what may be missing. It can be optional, or be repeated once at the
most. Both read it where it is and go on where it is not; but only the first
remembers what was missed. Everything behind it then runs as if that had been
recorded from the start. -/

namespace Descent

variable {ι κ α β : Type} {context : Context ι κ} {start : Cursor}

theorem Parser.many_atMost_one_run (parser : Parser ι κ α) :
    (parser.many (.atMost 1)).run start context =
      ((parser.map fun value _ => [value]).run start context).recover fun _ =>
        .accept [] start := by
  have most : (CountRange.atMost 1).limits.most = 1 :=
    CountRange.most_atMost (by decide)
  have untried : ([] : List α).length < (CountRange.atMost 1).limits.most :=
    most ▸ Nat.one_pos
  have enough := Nat.le_of_eq (CountRange.least_atMost 1)
  match attempt : parser.run start context with
  | .accept value reached =>
      simp only [map, attempt, Run.andThen_accept, Run.recover_accept]
      exact many_run_eq_accept_iff.mpr
        ⟨.cons attempt (.nil reached), .inl most.symm⟩
  | .reject failure =>
      simp only [map, attempt, Run.andThen_reject, Run.recover_reject]
      exact many_run_of_fails (.nil start) (Nat.le_of_lt untried) enough
        ⟨failure, attempt⟩
  | .abort fault =>
      simp only [map, attempt, Run.andThen_abort, Run.recover_abort]
      exact many_run_of_abort (.nil start) untried attempt

theorem Grammar.record_eq_after_of_reject (grammar : Grammar ι κ α)
    (labelFree : grammar.LabelFree) {failure : Failure}
    (rejected : grammar.parser.run start context = .reject failure) :
    start.record failure = start.after failure := by
  rcases start with ⟨position, _ | earlier⟩
  · rfl
  · rcases grammar.exists_missed_of_reject labelFree rejected with
      ⟨missed, _, rfl⟩
    -- On either side `earlier` stays in front of `missed` and counts once.
    change Cursor.mk position (some (earlier.merge (earlier.merge missed))) =
      ⟨position, some ((earlier.merge missed).merge earlier)⟩
    rw [Failure.merge_left_idem, Failure.merge_merge_left]

/-- What is optional and what is read once at the most differ only in what is
remembered of a miss: behind the optional body it is merged in front of the
failure that comes later. -/
theorem optional_remembers_what_one_at_most_forgets (body : Grammar ι κ α)
    (rest : Grammar ι κ β) (bodyLabelFree : body.LabelFree)
    (restLabelFree : rest.LabelFree) (start : Cursor) (context : Context ι κ) :
    (¬ body.parser.Fails start context →
      (body.parser.optional.keepRight rest.parser).run start context =
        ((body.parser.many (.atMost 1)).keepRight rest.parser).run start
          context) ∧
      ∀ failure, body.parser.run start context = .reject failure →
        (body.parser.optional.keepRight rest.parser).run start context =
          (((body.parser.many (.atMost 1)).keepRight rest.parser).run start
            context).after failure := by
  constructor
  · intro notFailed
    match attempt : body.parser.run start context with
    | .accept _ _ =>
        simp only [Parser.keepRight, Parser.optional_run,
          Parser.many_atMost_one_run, Parser.map, attempt, Run.andThen_accept,
          Run.recover_accept]
    | .reject failure => exact absurd ⟨failure, attempt⟩ notFailed
    | .abort _ =>
        simp only [Parser.keepRight, Parser.optional_run,
          Parser.many_atMost_one_run, Parser.map, attempt, Run.andThen_abort,
          Run.recover_abort]
  · intro failure rejected
    simp only [Parser.keepRight, Parser.optional_run,
      Parser.many_atMost_one_run, Parser.map, rejected, Run.andThen_reject,
      Run.recover_reject, Run.andThen_accept]
    rw [body.record_eq_after_of_reject bodyLabelFree rejected]
    exact rest.run_after restLabelFree context start failure

theorem missed_pair_is_remembered :
    let letter (char : Char) : Grammar Char Unit Char :=
      .satisfy (· == char) char.toString
    let pair : Grammar Char Unit Char := .keepRight (letter 'a') (letter 'b')
    let start : Cursor := ⟨0, some (.expecting 1 "space")⟩
    pair.LabelFree ∧ (letter 'y').LabelFree ∧
      pair.parser.run start ⟨.ofText "ax", ()⟩ =
        .reject ⟨1, .ofList ["space", "b"]⟩ ∧
      (pair.parser.optional.keepRight (letter 'y').parser).run start
          ⟨.ofText "ax", ()⟩ =
        (((pair.parser.many (.atMost 1)).keepRight (letter 'y').parser).run
          start ⟨.ofText "ax", ()⟩).after ⟨1, .ofList ["space", "b"]⟩ ∧
      ((pair.parser.many (.atMost 1)).keepRight (letter 'y').parser).run start
        ⟨.ofText "ax", ()⟩ = .reject (.expecting 1 "space") ∧
      ¬ pair.parser.Fails start ⟨.ofText "aby", ()⟩ ∧
      (pair.parser.optional.keepRight (letter 'y').parser).run start
          ⟨.ofText "aby", ()⟩ =
        ((pair.parser.many (.atMost 1)).keepRight (letter 'y').parser).run start
          ⟨.ofText "aby", ()⟩ := by
  intro letter pair start
  have pairLabelFree : pair.LabelFree := ⟨trivial, trivial⟩
  have missed : pair.parser.run start ⟨.ofText "ax", ()⟩ =
      .reject ⟨1, .ofList ["space", "b"]⟩ := rfl
  have read : ¬ pair.parser.Fails start ⟨.ofText "aby", ()⟩ := by
    rintro ⟨failure, rejected⟩
    cases rejected
  have compared := optional_remembers_what_one_at_most_forgets pair
    (letter 'y') pairLabelFree trivial start
  exact ⟨pairLabelFree, trivial, missed,
    (compared ⟨.ofText "ax", ()⟩).2 _ missed, rfl, read,
    (compared ⟨.ofText "aby", ()⟩).1 read⟩

end Descent
