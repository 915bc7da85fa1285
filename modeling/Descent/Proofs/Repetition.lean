import Descent.Parser.Combinators
import Descent.Proofs.Runs

/-! What a repetition reads. Its matches form a trail: each starts where the one
before it stopped. The trail goes on until the greatest count is reached or the
repeated parser does not match again, and the repetition ends with the values
and the end of that trail, whatever the last attempt was. -/

namespace Descent

variable {ι κ α β : Type} {context : Context ι κ}

namespace Parser

/-! ## Trails -/

/-- From `start` the parser matches once for each of `values`, every match where
the one before it stopped, and the last one stops at `stop`. -/
inductive Trail (parser : Parser ι κ α) (context : Context ι κ) :
    Cursor → List α → Cursor → Prop
  | nil (cursor : Cursor) : Trail parser context cursor [] cursor
  | cons {start reached stop : Cursor} {value : α} {values : List α}
      (matched : parser.run start context = .accept value reached)
      (rest : Trail parser context reached values stop) :
      Trail parser context start (value :: values) stop

theorem Trail.append {parser : Parser ι κ α} {start middle stop : Cursor}
    {values others : List α} (trail : parser.Trail context start values middle)
    (further : parser.Trail context middle others stop) :
    parser.Trail context start (values ++ others) stop := by
  induction trail with
  | nil _ => exact further
  | cons matched _ induction => exact .cons matched (induction further)

theorem exists_trail (parser : Parser ι κ α) (context : Context ι κ)
    (most : Nat) :
    ∀ start, ∃ values stop, parser.Trail context start values stop ∧
      values.length ≤ most ∧
      (values.length < most →
        ∀ value reached, parser.run stop context ≠ .accept value reached) := by
  induction most with
  | zero =>
      intro start
      exact ⟨[], start, .nil start, Nat.le_refl _,
        fun room => absurd room (Nat.lt_irrefl _)⟩
  | succ most induction =>
      intro start
      by_cases again :
          ∃ value reached, parser.run start context = .accept value reached
      · rcases again with ⟨value, reached, matched⟩
        rcases induction reached with ⟨values, stop, trail, within, ended⟩
        exact ⟨value :: values, stop, .cons matched trail,
          Nat.succ_le_succ within,
          fun room => ended (Nat.lt_of_succ_lt_succ room)⟩
      · refine ⟨[], start, .nil start, Nat.zero_le _, ?_⟩
        intro _ value reached matched
        exact again ⟨value, reached, matched⟩

/-! ## Passing a trail

A repetition passes every trail that its greatest count has room for, unless a
step of its fold aborts the run on the way. -/

theorem repeatFrom_of_trail {parser : Parser ι κ α} {start stop : Cursor}
    {values : List α} (trail : parser.Trail context start values stop)
    (step : β → α → κ → Except Fault β) :
    ∀ required remaining total, values.length ≤ remaining →
      repeatFrom parser step context required remaining total start =
        match values.foldlM (fun total value =>
            step total value context.config) total with
        | .ok folded =>
            repeatFrom parser step context (required - values.length)
              (remaining - values.length) folded stop
        | .error fault => .abort fault := by
  induction trail with
  | nil cursor =>
      intro required remaining total _
      rfl
  | @cons start reached stop value values matched _ induction =>
      intro required remaining total room
      obtain ⟨remaining, rfl⟩ : ∃ less, remaining = less + 1 :=
        ⟨remaining - 1, by simp only [List.length_cons] at room; omega⟩
      rw [List.foldlM_cons, List.length_cons, Nat.add_sub_add_right]
      cases stepped : step total value context.config with
      | error fault =>
          have cut : repeatFrom parser step context required (remaining + 1)
              total start = .abort fault := by
            simp only [repeatFrom, matched, stepped]
          exact cut
      | ok next =>
          have once : repeatFrom parser step context required (remaining + 1)
                total start =
              repeatFrom parser step context (required - 1) remaining next
                reached := by
            simp only [repeatFrom, matched, stepped]
          have fewer : required - (values.length + 1) =
              required - 1 - values.length := by omega
          rw [once, fewer]
          exact induction (required - 1) remaining next
            (Nat.le_of_succ_le_succ room)

section Passing

variable {parser : Parser ι κ α} {start stop : Cursor} {values : List α}
  {step : β → α → κ → Except Fault β} {initial : κ → β} {range : CountRange}
  {folded : β} {failure : Failure} {fault : Fault}

theorem foldChecked_run_of_error
    (trail : parser.Trail context start values stop)
    (room : values.length ≤ range.limits.most)
    (stepped : values.foldlM (fun total value =>
      step total value context.config) (initial context.config) = .error fault) :
    (parser.foldChecked step initial range).run start context =
      .abort fault := by
  change repeatFrom _ _ _ _ _ _ _ = _
  rw [repeatFrom_of_trail trail step _ _ _ room, stepped]

theorem foldChecked_run_of_full (trail : parser.Trail context start values stop)
    (count : values.length = range.limits.most)
    (stepped : values.foldlM (fun total value =>
      step total value context.config) (initial context.config) = .ok folded) :
    (parser.foldChecked step initial range).run start context =
      .accept folded stop := by
  change repeatFrom _ _ _ _ _ _ _ = _
  rw [repeatFrom_of_trail trail step _ _ _ (Nat.le_of_eq count), stepped]
  simp only [count, Nat.sub_self, repeatFrom_zero]

theorem foldChecked_run_of_reject
    (trail : parser.Trail context start values stop)
    (room : values.length < range.limits.most)
    (stepped : values.foldlM (fun total value =>
      step total value context.config) (initial context.config) = .ok folded)
    (missed : parser.run stop context = .reject failure) :
    (parser.foldChecked step initial range).run start context =
      if values.length < range.limits.least then .reject failure
      else .accept folded stop := by
  obtain ⟨less, remaining⟩ :=
    Nat.exists_eq_succ_of_ne_zero (Nat.sub_ne_zero_of_lt room)
  change repeatFrom _ _ _ _ _ _ _ = _
  rw [repeatFrom_of_trail trail step _ _ _ (Nat.le_of_lt room), stepped]
  simp only [remaining, repeatFrom_succ_of_reject missed, Nat.sub_pos_iff_lt]

theorem foldChecked_run_of_abort
    (trail : parser.Trail context start values stop)
    (room : values.length < range.limits.most)
    (stepped : values.foldlM (fun total value =>
      step total value context.config) (initial context.config) = .ok folded)
    (cut : parser.run stop context = .abort fault) :
    (parser.foldChecked step initial range).run start context =
      .abort fault := by
  obtain ⟨less, remaining⟩ :=
    Nat.exists_eq_succ_of_ne_zero (Nat.sub_ne_zero_of_lt room)
  change repeatFrom _ _ _ _ _ _ _ = _
  rw [repeatFrom_of_trail trail step _ _ _ (Nat.le_of_lt room), stepped]
  simp only [remaining, repeatFrom_succ_of_abort cut]

end Passing

/-! ## How a repetition ends -/

/-- How a repetition within `limits` ends that folds its values into `total`:
with the greatest count of matches, with an attempt that fails after enough of
them or too early, or with one that is aborted. -/
inductive Repeats (parser : Parser ι κ α) (context : Context ι κ)
    (limits : CountLimits) (step : β → α → β) (total : β) (start : Cursor) :
    Run β → Prop
  | full {values : List α} {stop : Cursor}
      (trail : parser.Trail context start values stop)
      (count : values.length = limits.most) :
      Repeats parser context limits step total start
        (.accept (values.foldl step total) stop)
  | enough {values : List α} {stop : Cursor} {failure : Failure}
      (trail : parser.Trail context start values stop)
      (room : values.length < limits.most)
      (missed : parser.run stop context = .reject failure)
      (count : limits.least ≤ values.length) :
      Repeats parser context limits step total start
        (.accept (values.foldl step total) stop)
  | tooFew {values : List α} {stop : Cursor} {failure : Failure}
      (trail : parser.Trail context start values stop)
      (room : values.length < limits.most)
      (missed : parser.run stop context = .reject failure)
      (count : values.length < limits.least) :
      Repeats parser context limits step total start (.reject failure)
  | aborted {values : List α} {stop : Cursor} {fault : Fault}
      (trail : parser.Trail context start values stop)
      (room : values.length < limits.most)
      (cut : parser.run stop context = .abort fault) :
      Repeats parser context limits step total start (.abort fault)

private theorem foldlM_ok (step : β → α → β) (total : β) (values : List α) :
    values.foldlM (fun total value => Except.ok (step total value)) total =
      (.ok (values.foldl step total) : Except Fault β) :=
  List.foldlM_pure

theorem fold_run_iff (parser : Parser ι κ α) (step : β → α → κ → β)
    (initial : κ → β) (range : CountRange) (start : Cursor)
    (context : Context ι κ) (run : Run β) :
    (parser.fold step initial range).run start context = run ↔
      parser.Repeats context range.limits
        (fun total value => step total value context.config)
        (initial context.config) start run := by
  have stepped := foldlM_ok (fun total value => step total value context.config)
    (initial context.config)
  constructor
  · rintro rfl
    rcases parser.exists_trail context range.limits.most start with
      ⟨values, stop, trail, within, ended⟩
    rcases Nat.lt_or_eq_of_le within with room | count
    · match attempt : parser.run stop context with
      | .accept value reached => exact absurd attempt (ended room value reached)
      | .reject failure =>
          rw [fold, foldChecked_run_of_reject trail room (stepped values)
            attempt]
          split
          case isTrue required => exact .tooFew trail room attempt required
          case isFalse enough =>
            exact .enough trail room attempt (Nat.le_of_not_lt enough)
      | .abort fault =>
          rw [fold, foldChecked_run_of_abort trail room (stepped values)
            attempt]
          exact .aborted trail room attempt
    · rw [fold, foldChecked_run_of_full trail count (stepped values)]
      exact .full trail count
  · intro ends
    cases ends with
    | @full values _ trail count =>
        exact foldChecked_run_of_full trail count (stepped values)
    | @enough values _ _ trail room missed count =>
        rw [fold, foldChecked_run_of_reject trail room (stepped values) missed,
          if_neg (Nat.not_lt.mpr count)]
    | @tooFew values _ _ trail room missed count =>
        rw [fold, foldChecked_run_of_reject trail room (stepped values) missed,
          if_pos count]
    | @aborted values _ _ trail room cut =>
        exact foldChecked_run_of_abort trail room (stepped values) cut

/-! ## Collecting the values -/

theorem Repeats.regroup {parser : Parser ι κ α} {limits : CountLimits}
    {start : Cursor} {collected : Run (Array α)}
    (ends : parser.Repeats context limits Array.push #[] start collected)
    (step : β → α → β) (total : β) :
    parser.Repeats context limits step total start
      (collected.andThen fun values reached =>
        .accept (values.toList.foldl step total) reached) := by
  have pushed : ∀ values : List α,
      (values.foldl Array.push #[]).toList = values := by
    intro values
    simp
  cases ends with
  | full trail count =>
      rw [Run.andThen_accept, pushed]
      exact .full trail count
  | enough trail room missed count =>
      rw [Run.andThen_accept, pushed]
      exact .enough trail room missed count
  | tooFew trail room missed count => exact .tooFew trail room missed count
  | aborted trail room cut => exact .aborted trail room cut

theorem fold_eq_map_many (parser : Parser ι κ α) (step : β → α → κ → β)
    (initial : κ → β) (range : CountRange) :
    parser.fold step initial range =
      (parser.many range).map fun values config =>
        values.foldl (fun total value => step total value config)
          (initial config) := by
  ext start context
  rw [fold_run_iff]
  have collected := (parser.fold_run_iff
    (fun values value _ => values.push value) (fun _ => #[]) range start context
    _).mp rfl
  have regrouped := collected.regroup
    (fun total value => step total value context.config)
    (initial context.config)
  simpa only [many, map, Run.andThen_assoc, Run.andThen_accept] using regrouped

/-! ### The list of all values -/

theorem foldl_concat (first values : List α) :
    values.foldl (fun values value => values ++ [value]) first =
      first ++ values := by
  rw [List.foldl_append_eq_append, ← List.flatMap_def, List.flatMap_singleton']

theorem many_eq_fold (parser : Parser ι κ α) (range : CountRange) :
    parser.many range =
      parser.fold (fun values value _ => values ++ [value])
        (fun _ => []) range := by
  rw [fold_eq_map_many]
  ext start context
  simp only [map, foldl_concat, List.nil_append, Run.andThen_accept_right]

section Listing

variable {parser : Parser ι κ α} {start stop : Cursor} {values : List α}
  {range : CountRange}

theorem many_run_iff (parser : Parser ι κ α) (range : CountRange)
    (start : Cursor) (context : Context ι κ) (run : Run (List α)) :
    (parser.many range).run start context = run ↔
      parser.Repeats context range.limits
        (fun values value => values ++ [value]) [] start run := by
  rw [many_eq_fold, fold_run_iff]

theorem many_run_eq_accept_iff :
    (parser.many range).run start context = .accept values stop ↔
      parser.Trail context start values stop ∧
        (values.length = range.limits.most ∨
          range.limits.least ≤ values.length ∧
            values.length < range.limits.most ∧
            parser.Fails stop context) := by
  rw [many_run_iff]
  constructor
  · intro ends
    generalize outcome : Run.accept values stop = run at ends
    cases ends with
    | full trail count =>
        cases outcome
        rw [foldl_concat, List.nil_append]
        exact ⟨trail, .inl count⟩
    | enough trail room missed count =>
        cases outcome
        rw [foldl_concat, List.nil_append]
        exact ⟨trail, .inr ⟨count, room, _, missed⟩⟩
    | tooFew => cases outcome
    | aborted => cases outcome
  · rintro ⟨trail, count | ⟨count, room, _, missed⟩⟩
    · have ends : parser.Repeats context range.limits
          (fun values value => values ++ [value]) [] start _ :=
        .full trail count
      rwa [foldl_concat, List.nil_append] at ends
    · have ends : parser.Repeats context range.limits
          (fun values value => values ++ [value]) [] start _ :=
        .enough trail room missed count
      rwa [foldl_concat, List.nil_append] at ends

theorem many_run_of_fails (trail : parser.Trail context start values stop)
    (within : values.length ≤ range.limits.most)
    (enough : range.limits.least ≤ values.length)
    (ended : parser.Fails stop context) :
    (parser.many range).run start context = .accept values stop := by
  rw [many_run_eq_accept_iff]
  rcases Nat.lt_or_eq_of_le within with room | count
  · exact ⟨trail, .inr ⟨enough, room, ended⟩⟩
  · exact ⟨trail, .inl count⟩

theorem many_run_of_reject (trail : parser.Trail context start values stop)
    (few : values.length < range.limits.least) {failure : Failure}
    (missed : parser.run stop context = .reject failure) :
    (parser.many range).run start context = .reject failure := by
  have room := Nat.lt_of_lt_of_le few range.limits.least_le_most
  rw [many_run_iff]
  exact .tooFew trail room missed few

theorem many_run_of_abort (trail : parser.Trail context start values stop)
    (room : values.length < range.limits.most) {fault : Fault}
    (cut : parser.run stop context = .abort fault) :
    (parser.many range).run start context = .abort fault := by
  rw [many_run_iff]
  exact .aborted trail room cut

end Listing

end Parser

/-- What a repetition does is told by its trail, and by how the attempt ends
that comes after it. So folding while values are read is folding the list of all
of them. -/
theorem repetition_follows_its_trail (parser : Parser ι κ α)
    (step : β → α → κ → β) (initial : κ → β) (range : CountRange) :
    (∀ start context run,
      (parser.fold step initial range).run start context = run ↔
        parser.Repeats context range.limits
          (fun total value => step total value context.config)
          (initial context.config) start run) ∧
      parser.fold step initial range =
        (parser.many range).map fun values config =>
          values.foldl (fun total value => step total value config)
            (initial config) :=
  ⟨parser.fold_run_iff step initial range,
    parser.fold_eq_map_many step initial range⟩

example :
    (Parser.many (.element 'a' *> .element 'b') .any : Parser Char Unit _).run
        .start ⟨.ofText "ababac", ()⟩ =
      .accept ['b', 'b'] ⟨4, none⟩ := rfl

end Descent
