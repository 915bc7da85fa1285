import Descent.Proofs.Bounds
import Descent.Proofs.Counts
import Descent.Proofs.Derivation

/-! Runs recognise what the rules derive. A run counts repetitions up to a
limit and the rules do not, but an input is no longer than the limit: a body
that takes an element each time has nothing left to match when the limit is
reached. -/

namespace Descent

variable {ι κ α β : Type} {context : Context ι κ}

/-! ## Grammars whose repetitions come to an end -/

/-- The parser never matches without moving forward. -/
def Parser.Consumes (parser : Parser ι κ α) (context : Context ι κ) : Prop :=
  ∀ start value reached, start.position ≤ context.length →
    parser.run start context = .accept value reached →
      start.position < reached.position

theorem Parser.satisfy_consumes (accepts : ι → Bool) (description : String) :
    (satisfy accepts description : Parser ι κ ι).Consumes context := by
  intro start value reached _ matched
  rcases admitted_or_missing accepts (context.at? start.position) with
    ⟨item, present, admitted⟩ | missing
  · rw [satisfy_run_of_admitted present admitted] at matched
    rcases Nat.lt_or_ge (start.position + 1) Word.limit with fits | exceeds
    · rw [Run.consume_eq_accept item fits] at matched
      cases matched
      exact Nat.lt_succ_self start.position
    · rw [Run.consume_eq_abort item exceeds] at matched
      cases matched
  · rw [satisfy_run_of_missing missing] at matched
    cases matched

/-- Each range lets in a count within the limit, and what is repeated without
one consumes. -/
def Grammar.Regular (context : Context ι κ) {α : Type} : Grammar ι κ α → Prop
  | satisfy _ _ => True
  | endOfInput => True
  | map _ body => body.Regular context
  | bind first next =>
      first.Regular context ∧
        ∀ value, (next value context.config).Regular context
  | keepRight first second => first.Regular context ∧ second.Regular context
  | keepLeft first second => first.Regular context ∧ second.Regular context
  | pair first second => first.Regular context ∧ second.Regular context
  | orElse first second => first.Regular context ∧ second.Regular context
  | optional body => body.Regular context
  | label body _ => body.Regular context
  | fold body _ _ range =>
      body.Regular context ∧ range.Attainable ∧
        (range.Unlimited → body.parser.Consumes context)

/-! ## What a run reads -/

namespace Run

/-- The run without what it learnt about failures. -/
def reading? : Run α → Option (Reading α)
  | .accept value reached => some (.matched value reached.position)
  | .reject _ => some .failed
  | .abort _ => none

theorem reading?_eq_matched {run : Run α} {value : α} {stop : Nat} :
    run.reading? = some (.matched value stop) ↔
      ∃ furthest, run = .accept value ⟨stop, furthest⟩ := by
  match run with
  | .accept found ⟨position, furthest⟩ =>
      constructor
      · intro same
        cases same
        exact ⟨furthest, rfl⟩
      · rintro ⟨_, ⟨⟩⟩
        rfl
  | .reject _ => simp [reading?]
  | .abort _ => simp [reading?]

theorem reading?_eq_failed {run : Run α} :
    run.reading? = some .failed ↔ ∃ failure, run = .reject failure := by
  match run with
  | .accept _ _ => simp [reading?]
  | .reject failure => simp [reading?]
  | .abort _ => simp [reading?]

theorem reading?_map {run : Run α} {reading : Reading α}
    (read : run.reading? = some reading) (f : α → β) :
    (run.andThen fun value reached => .accept (f value) reached).reading? =
      some (reading.map f) := by
  match run with
  | .accept _ _ =>
      cases read
      rfl
  | .reject _ =>
      cases read
      rfl
  | .abort _ => cases read

theorem reading?_andThen_of_failed {run : Run α} {next : α → Cursor → Run β}
    (failed : run.reading? = some .failed) :
    (run.andThen next).reading? = some .failed := by
  rcases reading?_eq_failed.mp failed with ⟨failure, rfl⟩
  rfl

theorem reading?_recover_reject (run : Run α) (change : Failure → Failure) :
    (run.recover fun failure => .reject (change failure)).reading? =
      run.reading? := by
  match run with
  | .accept _ _ => rfl
  | .reject _ => rfl
  | .abort _ => rfl

theorem reading?_recover_of_matched {run : Run α} {next : Failure → Run α}
    {value : α} {stop : Nat}
    (matched : run.reading? = some (.matched value stop)) :
    (run.recover next).reading? = some (.matched value stop) := by
  rcases reading?_eq_matched.mp matched with ⟨furthest, rfl⟩
  rfl

end Run

/-! ## Running a task -/

namespace Task

/-- The run that carries out the task; the rest of a repetition counts what is
still required and what is still allowed. -/
def run (context : Context ι κ) : Task ι κ α → Cursor → Run α
  | .whole grammar, cursor => grammar.parser.run cursor context
  | .rest body step range count total, cursor =>
      Parser.repeatFrom body.parser
        (fun total value config => .ok (step total value config))
        context (range.limits.least - count) (range.limits.most - count)
        total cursor

/-- The grammars of the task are regular. The rest of a repetition stays within
its limit, and without a limit every match so far has moved forward. -/
def Regular (context : Context ι κ) (position : Nat) : Task ι κ α → Prop
  | .whole grammar => grammar.Regular context
  | .rest body _ range count _ =>
      body.Regular context ∧ range.Attainable ∧ count ≤ range.limits.most ∧
        (range.Unlimited → body.parser.Consumes context ∧ count ≤ position)

variable {body : Grammar ι κ α} {step : β → α → κ → β} {range : CountRange}
  {count : Nat} {total : β} {cursor reached : Cursor} {value : α}
  {failure : Failure}

theorem run_rest_of_accept (room : count < range.limits.most)
    (matched : body.parser.run cursor context = .accept value reached) :
    (rest body step range count total).run context cursor =
      (rest body step range (count + 1) (step total value context.config)).run
        context reached := by
  have remaining : range.limits.most - count =
      range.limits.most - (count + 1) + 1 := by omega
  rw [run, remaining, Parser.repeatFrom_succ_of_accept matched, Nat.sub_sub]
  rfl

theorem run_rest_of_reject (room : count < range.limits.most)
    (rejected : body.parser.run cursor context = .reject failure) :
    (rest body step range count total).run context cursor =
      if count < range.limits.least then .reject failure
      else .accept total cursor := by
  have remaining : range.limits.most - count =
      range.limits.most - (count + 1) + 1 := by omega
  rw [run, remaining, Parser.repeatFrom_succ_of_reject rejected]
  simp only [Nat.sub_pos_iff_lt]

theorem run_rest_of_full (full : range.limits.most ≤ count) :
    (rest body step range count total).run context cursor =
      .accept total cursor := by
  rw [run, Nat.sub_eq_zero_of_le full, Parser.repeatFrom_zero]

end Task

/-! ## Runs read what is derived -/

theorem Task.Regular.lt_most {body : Grammar ι κ α} {step : β → α → κ → β}
    {range : CountRange} {count position : Nat} {total : β}
    (accepted : context.input.check = .ok ())
    (regular : (rest body step range count total).Regular context position)
    (room : range.upper.AdmitsBelow (count + 1))
    (inside : position ≤ context.length) {value : α} {furthest : Option Failure}
    {reached : Cursor}
    (matched : body.parser.run ⟨position, furthest⟩ context =
      .accept value reached) :
    count < range.limits.most := by
  rcases regular with ⟨_, attainable, within, unlimited⟩
  apply Nat.lt_of_le_of_ne within
  intro atLimit
  -- The range lets in one more than the limit allows, so it has no limit of its
  -- own and every match, this one too, has taken an element: more than there
  -- are.
  have beyond : range.limits.most < count + 1 := by omega
  rcases range.unlimited_of_admitsBelow attainable beyond room with ⟨cap, open_⟩
  rcases unlimited open_ with ⟨consumes, taken⟩
  have moved : position < reached.position :=
    consumes _ value reached inside matched
  have ended := (body.range_of_accept accepted inside matched).2
  have short : context.length ≤ sizeLimit :=
    (Input.check_eq_ok_iff.mp accepted).1
  omega

theorem Grammar.reading?_andThen (accepted : context.input.check = .ok ())
    {first : Grammar ι κ α} {next : α → Cursor → Run β} {position middle : Nat}
    {furthest : Option Failure} {value : α} {reading : Reading β}
    (inside : position ≤ context.length)
    (matched : (first.parser.run ⟨position, furthest⟩ context).reading? =
      some (.matched value middle))
    (following : middle ≤ context.length → ∀ recorded,
      (next value ⟨middle, recorded⟩).reading? = some reading) :
    ((first.parser.run ⟨position, furthest⟩ context).andThen next).reading? =
      some reading := by
  rcases Run.reading?_eq_matched.mp matched with ⟨recorded, run⟩
  have stillInside := (first.range_of_accept accepted inside run).2
  rw [run]
  exact following stillInside recorded

theorem Derives.reading?_run (accepted : context.input.check = .ok ())
    {task : Task ι κ α} {position : Nat} {reading : Reading α}
    (derivation : Derives context task position reading) :
    position ≤ context.length → task.Regular context position → ∀ furthest,
      (task.run context ⟨position, furthest⟩).reading? = some reading := by
  induction derivation with
  | satisfy present admitted =>
      intro inside _ furthest
      change ((Parser.satisfy _ _).run _ context).reading? = _
      have room := Input.succ_lt_wordLimit accepted inside
      rw [Parser.satisfy_run_of_admitted present admitted,
        Run.consume_eq_accept _ room]
      rfl
  | satisfyFails missing =>
      intro _ _ furthest
      change ((Parser.satisfy _ _).run _ context).reading? = _
      rw [Parser.satisfy_run_of_missing missing]
      rfl
  | endOfInput atEnd =>
      intro _ _ furthest
      change (Parser.endOfInput.run _ context).reading? = _
      rw [Parser.endOfInput_run_of_le atEnd]
      rfl
  | endOfInputFails before =>
      intro _ _ furthest
      change (Parser.endOfInput.run _ context).reading? = _
      rw [Parser.endOfInput_run_of_lt before]
      rfl
  | map _ inner =>
      intro inside regular furthest
      exact Run.reading?_map (inner inside regular furthest) _
  | bind _ _ before after =>
      intro inside regular furthest
      apply Grammar.reading?_andThen accepted inside
        (before inside regular.1 furthest)
      intro stillInside
      exact after stillInside (regular.2 _)
  | bindFails _ before =>
      intro inside regular furthest
      exact Run.reading?_andThen_of_failed (before inside regular.1 furthest)
  | keepRight _ _ before after =>
      intro inside regular furthest
      apply Grammar.reading?_andThen accepted inside
        (before inside regular.1 furthest)
      intro stillInside
      exact after stillInside regular.2
  | keepRightFails _ before =>
      intro inside regular furthest
      exact Run.reading?_andThen_of_failed (before inside regular.1 furthest)
  | keepLeft _ _ before after =>
      intro inside regular furthest
      apply Grammar.reading?_andThen accepted inside
        (before inside regular.1 furthest)
      intro stillInside recorded
      exact Run.reading?_map (after stillInside regular.2 recorded) _
  | keepLeftFails _ before =>
      intro inside regular furthest
      exact Run.reading?_andThen_of_failed (before inside regular.1 furthest)
  | pair _ _ before after =>
      intro inside regular furthest
      apply Grammar.reading?_andThen accepted inside
        (before inside regular.1 furthest)
      intro stillInside recorded
      exact Run.reading?_map (after stillInside regular.2 recorded) _
  | pairFails _ before =>
      intro inside regular furthest
      exact Run.reading?_andThen_of_failed (before inside regular.1 furthest)
  | orElseFirst _ taken =>
      intro inside regular furthest
      exact Run.reading?_recover_of_matched (taken inside regular.1 furthest)
  | orElseSecond _ _ givenUp taken =>
      intro inside regular furthest
      rcases Run.reading?_eq_failed.mp (givenUp inside regular.1 furthest) with
        ⟨failure, missed⟩
      change (Run.reading? (Parser.run (Parser.orElse _ _) _ context)) = _
      rw [Parser.orElse_run_of_reject missed, Run.reading?_recover_reject]
      exact taken inside regular.2 furthest
  | optional _ inner =>
      intro inside regular furthest
      change (Run.reading? (Parser.run (Parser.optional _) _ context)) = _
      rw [Parser.optional_run]
      apply Run.reading?_recover_of_matched
      exact Run.reading?_map (inner inside regular furthest) _
  | optionalNone _ inner =>
      intro inside regular furthest
      rcases Run.reading?_eq_failed.mp (inner inside regular furthest) with
        ⟨failure, missed⟩
      change (Run.reading? (Parser.run (Parser.optional _) _ context)) = _
      rw [Parser.optional_run_of_reject missed]
      rfl
  | label _ inner =>
      intro inside regular furthest
      change (Run.reading? (Parser.run (Parser.label _ _) _ context)) = _
      rw [Parser.label_run, Run.reading?_recover_reject]
      exact inner inside regular furthest
  | fold _ loop =>
      intro inside regular furthest
      exact loop inside ⟨regular.1, regular.2.1, Nat.zero_le _,
        fun unlimited => ⟨regular.2.2 unlimited, Nat.zero_le _⟩⟩ furthest
  | more room _ _ once loop =>
      intro inside regular furthest
      rcases Run.reading?_eq_matched.mp (once inside regular.1 furthest) with
        ⟨recorded, matched⟩
      have allowed := regular.lt_most accepted room inside matched
      have stillInside := (Grammar.range_of_accept _ accepted inside matched).2
      rw [Task.run_rest_of_accept allowed matched]
      refine loop stillInside ⟨regular.1, regular.2.1, allowed, ?_⟩ recorded
      intro unlimited
      rcases regular.2.2.2 unlimited with ⟨consumes, taken⟩
      have moved := consumes _ _ _ inside matched
      exact ⟨consumes, Nat.lt_of_le_of_lt taken moved⟩
  | enough _ _ admitted ended =>
      intro inside regular furthest
      rcases Run.reading?_eq_failed.mp (ended inside regular.1 furthest) with
        ⟨failure, missed⟩
      have satisfied := (CountRange.least_le_iff regular.2.1 _).mpr admitted
      rcases Nat.lt_or_ge _ (CountRange.limits _).most with allowed | atLimit
      · rw [Task.run_rest_of_reject allowed missed,
          if_neg (Nat.not_lt.mpr satisfied)]
        rfl
      · rw [Task.run_rest_of_full atLimit]
        rfl
  | tooFew _ _ short ended =>
      intro inside regular furthest
      rcases Run.reading?_eq_failed.mp (ended inside regular.1 furthest) with
        ⟨failure, missed⟩
      have required :=
        Nat.lt_of_not_le (mt (CountRange.least_le_iff regular.2.1 _).mp short)
      have allowed :=
        Nat.lt_of_lt_of_le required (CountRange.limits _).least_le_most
      rw [Task.run_rest_of_reject allowed missed, if_pos required]
      rfl
  | full noRoom _ =>
      intro inside regular furthest
      rw [Task.run_rest_of_full
        (CountRange.most_le_of_not_admitsBelow regular.2.1 noRoom)]
      rfl

/-! ## Something is always derived -/

theorem Derives.range_of_matched (accepted : context.input.check = .ok ())
    {grammar : Grammar ι κ α} (regular : grammar.Regular context)
    {position stop : Nat} {value : α}
    (derivation :
      Derives context (.whole grammar) position (.matched value stop))
    (inside : position ≤ context.length) :
    position ≤ stop ∧ stop ≤ context.length := by
  have read := derivation.reading?_run accepted inside regular none
  rcases Run.reading?_eq_matched.mp read with ⟨furthest, matched⟩
  exact grammar.range_of_accept accepted inside matched

theorem Derives.lt_of_consumes (accepted : context.input.check = .ok ())
    {grammar : Grammar ι κ α} (regular : grammar.Regular context)
    (consumes : grammar.parser.Consumes context) {position stop : Nat}
    {value : α}
    (derivation :
      Derives context (.whole grammar) position (.matched value stop))
    (inside : position ≤ context.length) : position < stop := by
  have read := derivation.reading?_run accepted inside regular none
  rcases Run.reading?_eq_matched.mp read with ⟨furthest, matched⟩
  exact consumes _ value _ inside matched

theorem Derives.exists_of_rest {body : Grammar ι κ α} {step : β → α → κ → β}
    {range : CountRange} (attainable : range.Attainable) {count position : Nat}
    {total : β}
    (bodyReads : ∃ reading, Derives context (.whole body) position reading)
    (goesOn : ∀ value middle, range.upper.AdmitsBelow (count + 1) →
      Derives context (.whole body) position (.matched value middle) →
      ∃ reading, Derives context
        (.rest body step range (count + 1) (step total value context.config))
        middle reading) :
    ∃ reading,
      Derives context (.rest body step range count total) position reading := by
  by_cases room : range.upper.AdmitsBelow (count + 1)
  · rcases bodyReads with ⟨_ | _, once⟩
    case matched value middle =>
      rcases goesOn value middle room once with ⟨reading, loop⟩
      exact ⟨reading, .more room once loop⟩
    case failed =>
      by_cases admitted : range.lower.AdmitsAbove count
      · exact ⟨_, .enough room once admitted⟩
      · exact ⟨_, .tooFew room once admitted⟩
  · exact ⟨_, .full room (range.admitsAbove_of_not_admitsBelow attainable room)⟩

/-- A repetition comes to an end. What bounds it is `fuel`: the matches that its
range still lets in or, without a limit, the elements that are left. -/
theorem Derives.exists_rest (accepted : context.input.check = .ok ())
    {body : Grammar ι κ α} (regular : body.Regular context)
    (bodyReads : ∀ position, position ≤ context.length →
      ∃ reading, Derives context (.whole body) position reading)
    {range : CountRange} (attainable : range.Attainable) (step : β → α → κ → β)
    (fuel : Nat) :
    ∀ count total position, position ≤ context.length →
      (range.upper.AdmitsBelow (count + fuel + 1) →
        body.parser.Consumes context ∧ context.length ≤ position + fuel) →
      ∃ reading, Derives context (.rest body step range count total) position
        reading := by
  induction fuel with
  | zero =>
      intro count total position inside bounded
      apply exists_of_rest attainable (bodyReads position inside)
      intro value middle room once
      rcases bounded room with ⟨consumes, atEnd⟩
      have moved := once.lt_of_consumes accepted regular consumes inside
      have stillInside := (once.range_of_matched accepted regular inside).2
      omega
  | succ fuel induction =>
      intro count total position inside bounded
      apply exists_of_rest attainable (bodyReads position inside)
      intro value middle room once
      have stillInside := (once.range_of_matched accepted regular inside).2
      apply induction _ _ _ stillInside
      intro far
      rcases bounded (Nat.add_right_comm count 1 fuel ▸ far) with
        ⟨consumes, left⟩
      have moved := once.lt_of_consumes accepted regular consumes inside
      exact ⟨consumes, by omega⟩

theorem Derives.failed_or_matched (accepted : context.input.check = .ok ())
    {grammar : Grammar ι κ α} (regular : grammar.Regular context)
    {position : Nat} (inside : position ≤ context.length)
    (reads : ∃ reading, Derives context (.whole grammar) position reading) :
    Derives context (.whole grammar) position .failed ∨
      ∃ value middle, middle ≤ context.length ∧
        Derives context (.whole grammar) position (.matched value middle) := by
  rcases reads with ⟨⟨value, middle⟩ | _, derivation⟩
  case matched =>
    have range := derivation.range_of_matched accepted regular inside
    exact .inr ⟨value, middle, range.2, derivation⟩
  case failed => exact .inl derivation

theorem Grammar.exists_reading (accepted : context.input.check = .ok ())
    (grammar : Grammar ι κ α) :
    grammar.Regular context → ∀ position, position ≤ context.length →
      ∃ reading, Derives context (.whole grammar) position reading := by
  induction grammar with
  | satisfy accepts description =>
      intro _ position _
      rcases Parser.admitted_or_missing accepts (context.at? position) with
        ⟨item, present, admitted⟩ | missing
      · exact ⟨_, .satisfy present admitted⟩
      · exact ⟨_, .satisfyFails missing⟩
  | endOfInput =>
      intro _ position _
      rcases Nat.lt_or_ge position context.length with before | atEnd
      · exact ⟨_, .endOfInputFails before⟩
      · exact ⟨_, .endOfInput atEnd⟩
  | map _ _ body =>
      intro regular position inside
      rcases body regular position inside with ⟨_, inner⟩
      exact ⟨_, .map inner⟩
  | bind _ _ first next =>
      intro regular position inside
      rcases Derives.failed_or_matched accepted regular.1 inside
        (first regular.1 position inside) with
        failed | ⟨value, middle, stillInside, before⟩
      · exact ⟨_, .bindFails failed⟩
      · rcases next value context.config (regular.2 value) middle
          stillInside with ⟨_, after⟩
        exact ⟨_, .bind before after⟩
  | keepRight _ _ first second =>
      intro regular position inside
      rcases Derives.failed_or_matched accepted regular.1 inside
        (first regular.1 position inside) with
        failed | ⟨value, middle, stillInside, before⟩
      · exact ⟨_, .keepRightFails failed⟩
      · rcases second regular.2 middle stillInside with ⟨_, after⟩
        exact ⟨_, .keepRight before after⟩
  | keepLeft _ _ first second =>
      intro regular position inside
      rcases Derives.failed_or_matched accepted regular.1 inside
        (first regular.1 position inside) with
        failed | ⟨value, middle, stillInside, before⟩
      · exact ⟨_, .keepLeftFails failed⟩
      · rcases second regular.2 middle stillInside with ⟨_, after⟩
        exact ⟨_, .keepLeft before after⟩
  | pair _ _ first second =>
      intro regular position inside
      rcases Derives.failed_or_matched accepted regular.1 inside
        (first regular.1 position inside) with
        failed | ⟨value, middle, stillInside, before⟩
      · exact ⟨_, .pairFails failed⟩
      · rcases second regular.2 middle stillInside with ⟨_, after⟩
        exact ⟨_, .pair before after⟩
  | orElse _ _ first second =>
      intro regular position inside
      rcases first regular.1 position inside with ⟨_ | _, before⟩
      · exact ⟨_, .orElseFirst before⟩
      · rcases second regular.2 position inside with ⟨_, taken⟩
        exact ⟨_, .orElseSecond before taken⟩
  | optional _ body =>
      intro regular position inside
      rcases body regular position inside with ⟨_ | _, inner⟩
      · exact ⟨_, .optional inner⟩
      · exact ⟨_, .optionalNone inner⟩
  | label _ _ body =>
      intro regular position inside
      rcases body regular position inside with ⟨_, inner⟩
      exact ⟨_, .label inner⟩
  | fold _ step start _ body =>
      intro regular position inside
      have short : context.length ≤ sizeLimit :=
        (Input.check_eq_ok_iff.mp accepted).1
      have loops := Derives.exists_rest accepted regular.1 (body regular.1)
        regular.2.1 step sizeLimit 0 (start context.config) position inside
      rw [Nat.zero_add] at loops
      rcases loops fun unlimited => ⟨regular.2.2 unlimited, by omega⟩ with
        ⟨_, loop⟩
      exact ⟨_, .fold loop⟩

/-! ## Runs and rules agree -/

theorem Grammar.reading?_run_iff (accepted : context.input.check = .ok ())
    {grammar : Grammar ι κ α} (regular : grammar.Regular context)
    {start : Cursor} (inside : start.position ≤ context.length)
    {reading : Reading α} :
    (grammar.parser.run start context).reading? = some reading ↔
      Derives context (.whole grammar) start.position reading := by
  constructor
  · intro read
    rcases grammar.exists_reading accepted regular start.position inside with
      ⟨other, derivation⟩
    have derived :=
      derivation.reading?_run accepted inside regular start.furthest
    have same : some reading = some other := read.symm.trans derived
    cases same
    exact derivation
  · intro derivation
    exact derivation.reading?_run accepted inside regular start.furthest

/-- Over a checked input, a run of a regular grammar matches just with what the
rules derive, fails just where they derive failure, and always does one of the
two. -/
theorem runs_recognise_what_is_derived (grammar : Grammar ι κ α)
    (context : Context ι κ) (accepted : context.input.check = .ok ())
    (regular : grammar.Regular context) (start : Cursor)
    (inside : start.position ≤ context.length) :
    (∀ value stop,
      (∃ furthest,
          grammar.parser.run start context = .accept value ⟨stop, furthest⟩) ↔
        Derives context (.whole grammar) start.position (.matched value stop)) ∧
      ((∃ failure, grammar.parser.run start context = .reject failure) ↔
        Derives context (.whole grammar) start.position .failed) ∧
      ∀ fault, grammar.parser.run start context ≠ .abort fault := by
  refine ⟨?_, ?_, ?_⟩
  · intro value stop
    rw [← Run.reading?_eq_matched]
    exact grammar.reading?_run_iff accepted regular inside
  · rw [← Run.reading?_eq_failed]
    exact grammar.reading?_run_iff accepted regular inside
  · exact grammar.run_ne_abort accepted inside

theorem derives_two_digits :
    let digits : Grammar Char Unit (List Char) :=
      .many (.satisfy Char.isDigit "digit") .any
    let context : Context Char Unit := ⟨.ofText "12a", ()⟩
    context.input.check = .ok () ∧ digits.Regular context ∧
      Derives context (.whole digits) 0 (.matched ['1', '2'] 2) := by
  intro digits context
  have accepted : context.input.check = .ok () := rfl
  have attainable : CountRange.any.Attainable :=
    ⟨0, Nat.zero_le _, trivial, trivial⟩
  have regular : digits.Regular context :=
    ⟨trivial, attainable, fun _ => Parser.satisfy_consumes Char.isDigit "digit"⟩
  have agree := runs_recognise_what_is_derived digits context accepted regular
    .start (Nat.zero_le _)
  exact ⟨accepted, regular, (agree.1 ['1', '2'] 2).mp ⟨none, rfl⟩⟩

end Descent
