import Descent.Proofs.Bookkeeping

/-! What is remembered of an alternative that was given up. An optional parser
records the failure with which it falls back on reading nothing. A choice that
falls back on its second alternative does not: it matches just as that one does,
and how far the first one got is remembered only if something as far on was
recorded anyway, before the choice or by the alternative that matched. -/

namespace Descent

variable {ι κ α : Type} {context : Context ι κ}
  {start reached : Cursor} {value : α}

/-! ## What a cursor remembers -/

namespace Cursor

/-- A failure at `position` or further on is recorded. -/
def Remembers (cursor : Cursor) (position : Nat) : Prop :=
  ∃ kept, cursor.furthest = some kept ∧ position ≤ kept.position

theorem remembers_iff {cursor : Cursor} {position : Nat} :
    cursor.Remembers position ↔
      cursor.furthest.isSome ∧ position ≤ cursor.depth := by
  rcases cursor with ⟨here, _ | kept⟩
  · simp [Remembers]
  · simp [Remembers, depth]

theorem remembers_max_depth_iff {here there : Cursor} {position : Nat} :
    here.Remembers (max here.depth position) ∨
        there.Remembers (max here.depth position) ↔
      here.Remembers position ∨ there.Remembers position := by
  simp only [remembers_iff]
  rcases here with ⟨_, _ | earlier⟩ <;> rcases there with ⟨_, _ | kept⟩ <;>
    simp only [depth, Option.elim_some, Option.elim_none, Option.isSome_some,
      Option.isSome_none, Bool.false_eq_true, false_and, true_and, false_or,
      or_false, Nat.zero_max] <;>
    omega

theorem le_max_depth_iff_remembers {cursor : Cursor} {later position : Nat}
    (short : later < position) :
    position ≤ max cursor.depth later ↔ cursor.Remembers position := by
  rw [remembers_iff]
  rcases cursor with ⟨_, _ | kept⟩ <;>
    simp only [depth, Option.elim_some, Option.elim_none, Option.isSome_some,
      Option.isSome_none, Bool.false_eq_true, false_and, true_and, Nat.zero_max,
      iff_false] <;>
    omega

theorem not_remembers_of_none {cursor : Cursor}
    (nothing : cursor.furthest = none) (position : Nat) :
    ¬ cursor.Remembers position := by
  rintro ⟨kept, recorded, _⟩
  rw [nothing] at recorded
  cases recorded

end Cursor

/-- The second run, from `start`, beside the first, from there with nothing
recorded: what was recorded at the start changes only how far failures lie. -/
def Run.Beside (start : Cursor) : Run α → Run α → Prop
  | .accept value bare, .accept other reached =>
      other = value ∧ reached.position = bare.position ∧
        ∀ position, reached.Remembers position ↔
          start.Remembers position ∨ bare.Remembers position
  | .reject missed, .reject failure =>
      failure.position = max start.depth missed.position
  | .abort _, .abort _ => True
  | _, _ => False

theorem Grammar.run_beside (grammar : Grammar ι κ α) (start : Cursor)
    (context : Context ι κ) :
    (grammar.parser.run ⟨start.position, none⟩ context).Beside start
      (grammar.parser.run start context) := by
  rcases start with ⟨position, _ | earlier⟩
  · match grammar.parser.run ⟨position, none⟩ context with
    | .accept value bare =>
        refine ⟨rfl, rfl, fun far => ?_⟩
        rw [or_iff_right (Cursor.not_remembers_of_none rfl far)]
    | .reject missed => exact (Nat.zero_max missed.position).symm
    | .abort _ => trivial
  · have deepened := grammar.run_deepened context ⟨position, none⟩ earlier
    change Run.Deepened earlier _
      (grammar.parser.run ⟨position, some earlier⟩ context) at deepened
    match grammar.parser.run ⟨position, none⟩ context,
      grammar.parser.run ⟨position, some earlier⟩ context, deepened with
    | .accept value bare, .accept other reached, deepened =>
        rcases deepened with ⟨same, arrived, recorded, deeper⟩
        refine ⟨same, arrived, fun far => ?_⟩
        simp only [Cursor.remembers_iff, recorded, deeper, true_and,
          Option.isSome_some]
        rcases bare with ⟨_, _ | kept⟩
        · simp [Cursor.depth]
        · simp only [Cursor.depth, Option.elim_some, Option.isSome_some,
            true_and]
          omega
    | .reject missed, .reject failure, deepened => exact deepened
    | .abort _, .abort _, _ => trivial

theorem Grammar.exists_bare_reject {grammar : Grammar ι κ α} {failure : Failure}
    (rejected : grammar.parser.run start context = .reject failure) :
    ∃ missed,
      grammar.parser.run ⟨start.position, none⟩ context = .reject missed ∧
      failure.position = max start.depth missed.position := by
  have beside := grammar.run_beside start context
  rw [rejected] at beside
  match grammar.parser.run ⟨start.position, none⟩ context, beside with
  | .reject missed, deeper => exact ⟨missed, rfl, deeper⟩

theorem Grammar.exists_reject_of_bare {grammar : Grammar ι κ α}
    {missed : Failure}
    (bareRejected : grammar.parser.run ⟨start.position, none⟩ context =
      .reject missed) :
    ∃ failure, grammar.parser.run start context = .reject failure ∧
      failure.position = max start.depth missed.position := by
  have beside := grammar.run_beside start context
  rw [bareRejected] at beside
  match grammar.parser.run start context, beside with
  | .reject failure, deeper => exact ⟨failure, rfl, deeper⟩

theorem Grammar.exists_bare_accept {grammar : Grammar ι κ α}
    (matched : grammar.parser.run start context = .accept value reached) :
    ∃ bare,
      grammar.parser.run ⟨start.position, none⟩ context = .accept value bare ∧
      ∀ position, reached.Remembers position ↔
        start.Remembers position ∨ bare.Remembers position := by
  have beside := grammar.run_beside start context
  rw [matched] at beside
  match grammar.parser.run ⟨start.position, none⟩ context, beside with
  | .accept _ bare, ⟨same, _, remembered⟩ =>
      exact ⟨bare, by rw [same], remembered⟩

theorem Grammar.exists_accept_of_record (grammar : Grammar ι κ α)
    (matched : grammar.parser.run start context = .accept value reached)
    (failure : Failure) :
    ∃ kept,
      grammar.parser.run (start.record failure) context = .accept value kept ∧
      kept.position = reached.position ∧ kept.Remembers failure.position := by
  have recorded :
      (deepening failure context).cursor start (start.record failure) := by
    refine ⟨rfl, rfl, ?_⟩
    rw [Cursor.depth_record, Nat.max_comm]
  have related := grammar.deepened failure context start _ recorded
  rw [matched] at related
  generalize outcome :
    grammar.parser.run (start.record failure) context = run at related
  cases related with
  | @accept _ _ _ kept same arrived =>
      refine ⟨kept, by rw [same], arrived.1,
        Cursor.remembers_iff.mpr ⟨arrived.2.1, ?_⟩⟩
      rw [arrived.2.2]
      exact Nat.le_max_left _ _

/-! ## What a choice remembers -/

/-- A choice that falls back on its second alternative matches just as that one
does. How far the first one got is remembered only if a failure as far on was
recorded before the choice or is by the second alternative. -/
theorem fallback_forgets_what_was_given_up (first second : Grammar ι κ α)
    (context : Context ι κ) (start reached : Cursor) (failure : Failure)
    (value : α) (rejected : first.parser.run start context = .reject failure)
    (matched : second.parser.run start context = .accept value reached) :
    (first.parser.orElse second.parser).run start context =
        .accept value reached ∧
      (∃ missed bare,
        first.parser.run ⟨start.position, none⟩ context = .reject missed ∧
        second.parser.run ⟨start.position, none⟩ context = .accept value bare ∧
          (reached.Remembers failure.position ↔
            start.Remembers missed.position ∨ bare.Remembers missed.position)) ∧
      (∀ {β : Type} (rest : Grammar ι κ β) (later : Failure),
        rest.parser.run ⟨reached.position, none⟩ context = .reject later →
          later.position < failure.position →
            ∃ report,
              ((first.parser.orElse second.parser).keepRight rest.parser).run
                  start context = .reject report ∧
              (failure.position ≤ report.position ↔
                reached.Remembers failure.position)) ∧
      ∃ kept,
        (first.parser.optional.keepRight second.parser).run start context =
          .accept value kept ∧
        kept.position = reached.position ∧ kept.Remembers failure.position := by
  have chosen : (first.parser.orElse second.parser).run start context =
      .accept value reached := by
    rw [Parser.orElse_run_of_reject rejected, matched, Run.recover_accept]
  refine ⟨chosen, ?_, ?_, ?_⟩
  · rcases Grammar.exists_bare_reject rejected with
      ⟨missed, bareRejected, deeper⟩
    rcases Grammar.exists_bare_accept matched with
      ⟨bare, bareMatched, remembered⟩
    refine ⟨missed, bare, bareRejected, bareMatched, ?_⟩
    rw [remembered, deeper]
    exact Cursor.remembers_max_depth_iff
  · intro β rest later failed short
    rcases Grammar.exists_reject_of_bare failed with ⟨report, reported, deeper⟩
    refine ⟨report, ?_, ?_⟩
    · simp only [Parser.keepRight, chosen, Run.andThen_accept, reported]
    · rw [deeper]
      exact Cursor.le_max_depth_iff_remembers short
  · simp only [Parser.keepRight, Parser.optional_run_of_reject rejected,
      Run.andThen_accept]
    exact second.exists_accept_of_record matched failure

theorem space_missed_before_the_choice_is_remembered :
    let letter (char : Char) : Grammar Char Unit Char := .element char
    let word : Grammar Char Unit Char :=
      .keepRight (letter 'a') (.keepRight (letter 'b') (letter 'c'))
    let choice : Parser Char Unit Char := word.parser.orElse (letter 'a').parser
    let start : Cursor := ⟨0, some (.expecting 2 "space")⟩
    let failure : Failure := ⟨2, .ofList ["space", "'c'"]⟩
    word.parser.run start ⟨.ofText "abx", ()⟩ = .reject failure ∧
      (letter 'a').parser.run start ⟨.ofText "abx", ()⟩ =
        .accept 'a' ⟨1, start.furthest⟩ ∧
      choice.run start ⟨.ofText "abx", ()⟩ = .accept 'a' ⟨1, start.furthest⟩ ∧
      Cursor.Remembers ⟨1, start.furthest⟩ failure.position ∧
      (∃ report,
        (choice.keepRight (letter 'y').parser).run start ⟨.ofText "abx", ()⟩ =
          .reject report ∧ failure.position ≤ report.position) ∧
      ∃ kept, (word.parser.optional.keepRight (letter 'a').parser).run .start
          ⟨.ofText "abx", ()⟩ = .accept 'a' kept ∧ kept.Remembers 2 := by
  intro letter word choice start failure
  have rejected : word.parser.run start ⟨.ofText "abx", ()⟩ =
      .reject failure := rfl
  have matched : (letter 'a').parser.run start ⟨.ofText "abx", ()⟩ =
      .accept 'a' ⟨1, start.furthest⟩ := rfl
  have bareRejected : word.parser.run .start ⟨.ofText "abx", ()⟩ =
      .reject (.expecting 2 "'c'") := rfl
  have bareMatched : (letter 'a').parser.run .start ⟨.ofText "abx", ()⟩ =
      .accept 'a' ⟨1, none⟩ := rfl
  have later : (letter 'y').parser.run ⟨1, none⟩ ⟨.ofText "abx", ()⟩ =
      .reject (.expecting 1 "'y'") := rfl
  rcases fallback_forgets_what_was_given_up word (letter 'a')
    ⟨.ofText "abx", ()⟩ start ⟨1, start.furthest⟩ failure 'a' rejected
    matched with ⟨chosen, ⟨missed, bare, alone, _, remembered⟩, following, _⟩
  rcases fallback_forgets_what_was_given_up word (letter 'a')
    ⟨.ofText "abx", ()⟩ .start ⟨1, none⟩ (.expecting 2 "'c'") 'a' bareRejected
    bareMatched with ⟨_, _, _, kept, read, _, known⟩
  cases alone.symm.trans bareRejected
  have recorded : Cursor.Remembers ⟨1, start.furthest⟩ failure.position :=
    remembered.mpr (.inl ⟨.expecting 2 "space", rfl, Nat.le_refl 2⟩)
  rcases following (letter 'y') _ later (by decide) with
    ⟨report, reported, asFar⟩
  exact ⟨rejected, matched, chosen, recorded,
    ⟨report, reported, asFar.mpr recorded⟩, kept, read, known⟩

theorem word_given_up_is_forgotten :
    let letter (char : Char) : Grammar Char Unit Char := .element char
    let word : Grammar Char Unit Char :=
      .keepRight (letter 'a') (.keepRight (letter 'b') (letter 'c'))
    let choice : Grammar Char Unit Char := .orElse word (letter 'a')
    word.parser.run .start ⟨.ofText "abx", ()⟩ = .reject (.expecting 2 "'c'") ∧
      (letter 'a').parser.run .start ⟨.ofText "abx", ()⟩ =
        .accept 'a' ⟨1, none⟩ ∧
      choice.parser.run .start ⟨.ofText "abx", ()⟩ = .accept 'a' ⟨1, none⟩ ∧
      (¬ ∃ kept, Cursor.furthest ⟨1, none⟩ = some kept ∧ 2 ≤ kept.position) ∧
      (choice.keepRight (letter 'y')).parser.run .start ⟨.ofText "abx", ()⟩ =
        .reject (.expecting 1 "'y'") := by
  intro letter word choice
  exact ⟨rfl, rfl, rfl, Cursor.not_remembers_of_none rfl 2, rfl⟩

end Descent
