import Descent.Proofs.Runs

/-! Two runs side by side. A simulation says which cursors and which failures of
one run stand for those of the other; it lets both read the same elements and
goes on through every combinator. So two parsers that are put together alike
from related parts match together, miss together and are aborted together. -/

namespace Descent

variable {ι κ α α' β β' : Type} {left right : Context ι κ}

/-- Which cursors, and which failures, stand for one another. -/
structure Correspondence where
  cursor : Cursor → Cursor → Prop
  failure : Failure → Failure → Prop

namespace Run

inductive Corresponds (pairing : Correspondence) (values : α → β → Prop) :
    Run α → Run β → Prop
  | accept {value : α} {other : β} {reached otherReached : Cursor}
      (same : values value other)
      (arrived : pairing.cursor reached otherReached) :
      Corresponds pairing values (.accept value reached)
        (.accept other otherReached)
  | reject {failure otherFailure : Failure}
      (missed : pairing.failure failure otherFailure) :
      Corresponds pairing values (.reject failure) (.reject otherFailure)
  | abort (fault : Fault) :
      Corresponds pairing values (.abort fault) (.abort fault)

namespace Corresponds

variable {pairing : Correspondence} {values : α → α' → Prop}
  {results : β → β' → Prop}

theorem andThen {run : Run α} {other : Run α'} {next : α → Cursor → Run β}
    {otherNext : α' → Cursor → Run β'}
    (related : run.Corresponds pairing values other)
    (following : ∀ value otherValue reached otherReached,
      values value otherValue → pairing.cursor reached otherReached →
        (next value reached).Corresponds pairing results
          (otherNext otherValue otherReached)) :
    (run.andThen next).Corresponds pairing results
      (other.andThen otherNext) := by
  cases related with
  | accept same arrived => exact following _ _ _ _ same arrived
  | reject missed => exact .reject missed
  | abort fault => exact .abort fault

theorem recover {run : Run α} {other : Run α'} {next : Failure → Run α}
    {otherNext : Failure → Run α'}
    (related : run.Corresponds pairing values other)
    (instead : ∀ failure otherFailure, pairing.failure failure otherFailure →
      (next failure).Corresponds pairing values (otherNext otherFailure)) :
    (run.recover next).Corresponds pairing values
      (other.recover otherNext) := by
  cases related with
  | accept same arrived => exact .accept same arrived
  | reject missed => exact instead _ _ missed
  | abort fault => exact .abort fault

theorem mono {run : Run α} {other : Run α'} {weaker : α → α' → Prop}
    (related : run.Corresponds pairing values other)
    (implied : ∀ value otherValue, values value otherValue →
      weaker value otherValue) :
    run.Corresponds pairing weaker other := by
  cases related with
  | accept same arrived => exact .accept (implied _ _ same) arrived
  | reject missed => exact .reject missed
  | abort fault => exact .abort fault

theorem consume {here there : Cursor} (value : α)
    (room : here.position + 1 < Word.limit ↔ there.position + 1 < Word.limit)
    (moved : here.position + 1 < Word.limit →
      pairing.cursor { here with position := here.position + 1 }
        { there with position := there.position + 1 }) :
    (Run.consume value here 1).Corresponds pairing Eq
      (Run.consume value there 1) := by
  rcases Nat.lt_or_ge (here.position + 1) Word.limit with fits | exceeds
  · rw [consume_eq_accept value fits, consume_eq_accept value (room.mp fits)]
    exact .accept rfl (moved fits)
  · have otherExceeds : Word.limit ≤ there.position + 1 := by omega
    rw [consume_eq_abort value exceeds, consume_eq_abort value otherExceeds]
    exact .abort .additionOverflow

end Corresponds

end Run

/-- A correspondence between runs over two inputs: related cursors look at the
same element and move on together, and what becomes of failures is related. -/
structure Simulation (left right : Context ι κ) extends Correspondence where
  read : ∀ {here there : Cursor}, cursor here there →
    left.at? here.position = right.at? there.position
  ended : ∀ {here there : Cursor}, cursor here there →
    (left.length ≤ here.position ↔ right.length ≤ there.position)
  move : ∀ {here there : Cursor}, cursor here there →
    ∀ item, left.at? here.position = some item →
      (Run.consume item here 1).Corresponds toCorrespondence Eq
        (Run.consume item there 1)
  miss : ∀ {here there : Cursor}, cursor here there →
    ∀ description, failure (here.fail description) (there.fail description)
  record : ∀ {here there : Cursor} {missed other : Failure}, cursor here there →
    failure missed other → cursor (here.record missed) (there.record other)
  merge : ∀ {first second otherFirst otherSecond : Failure},
    failure first otherFirst → failure second otherSecond →
      failure (first.merge second) (otherFirst.merge otherSecond)

def Simulation.PassesLabels (simulation : Simulation left right) : Prop :=
  ∀ here there failure otherFailure name, simulation.cursor here there →
    simulation.failure failure otherFailure →
      simulation.failure (failure.relabel here.position name)
        (otherFailure.relabel there.position name)

namespace Parser

def Simulated (simulation : Simulation left right) (values : α → β → Prop)
    (parser : Parser ι κ α) (other : Parser ι κ β) : Prop :=
  ∀ here there, simulation.cursor here there →
    (parser.run here left).Corresponds simulation.toCorrespondence values
      (other.run there right)

namespace Simulated

variable {simulation : Simulation left right} {values : α → α' → Prop}
  {results : β → β' → Prop}

theorem satisfy (accepts : ι → Bool) (description : String) :
    Simulated simulation Eq (.satisfy accepts description)
      (.satisfy accepts description) := by
  intro here there start
  have same := simulation.read start
  rcases admitted_or_missing accepts (left.at? here.position) with
    ⟨item, present, admitted⟩ | missing
  · rw [satisfy_run_of_admitted present admitted,
      satisfy_run_of_admitted (same.symm.trans present) admitted]
    exact simulation.move start item present
  · rw [satisfy_run_of_missing missing, satisfy_run_of_missing (same ▸ missing)]
    exact .reject (simulation.miss start description)

theorem endOfInput : Simulated simulation Eq .endOfInput .endOfInput := by
  intro here there start
  rcases Nat.lt_or_ge here.position left.length with before | atEnd
  · have otherBefore : there.position < right.length := by
      have ended := simulation.ended start
      omega
    rw [endOfInput_run_of_lt before, endOfInput_run_of_lt otherBefore]
    exact .reject (simulation.miss start "end of input")
  · rw [endOfInput_run_of_le atEnd,
      endOfInput_run_of_le ((simulation.ended start).mp atEnd)]
    exact .accept rfl start

theorem mono {parser : Parser ι κ α} {other : Parser ι κ α'}
    {weaker : α → α' → Prop}
    (related : Simulated simulation values parser other)
    (implied : ∀ value otherValue, values value otherValue →
      weaker value otherValue) :
    Simulated simulation weaker parser other := by
  intro here there start
  exact (related here there start).mono implied

theorem map {parser : Parser ι κ α} {other : Parser ι κ α'}
    (related : Simulated simulation values parser other) {f : α → κ → β}
    {g : α' → κ → β'}
    (maps : ∀ value otherValue, values value otherValue →
      results (f value left.config) (g otherValue right.config)) :
    Simulated simulation results (parser.map f) (other.map g) := by
  intro here there start
  apply (related here there start).andThen
  intro value otherValue reached otherReached same arrived
  exact .accept (maps value otherValue same) arrived

theorem bind {first : Parser ι κ α} {other : Parser ι κ α'}
    {next : α → κ → Parser ι κ β} {otherNext : α' → κ → Parser ι κ β'}
    (firstRelated : Simulated simulation values first other)
    (nextRelated : ∀ value otherValue, values value otherValue →
      Simulated simulation results (next value left.config)
        (otherNext otherValue right.config)) :
    Simulated simulation results (first.bind next) (other.bind otherNext) := by
  intro here there start
  apply (firstRelated here there start).andThen
  intro value otherValue reached otherReached same arrived
  exact nextRelated value otherValue same reached otherReached arrived

theorem keepRight {first : Parser ι κ α} {second : Parser ι κ β}
    {otherFirst : Parser ι κ α'} {otherSecond : Parser ι κ β'}
    (firstRelated : Simulated simulation values first otherFirst)
    (secondRelated : Simulated simulation results second otherSecond) :
    Simulated simulation results (first.keepRight second)
      (otherFirst.keepRight otherSecond) := by
  rw [keepRight_eq_bind, keepRight_eq_bind]
  exact firstRelated.bind fun _ _ _ => secondRelated

theorem keepLeft {first : Parser ι κ α} {second : Parser ι κ β}
    {otherFirst : Parser ι κ α'} {otherSecond : Parser ι κ β'}
    (firstRelated : Simulated simulation values first otherFirst)
    (secondRelated : Simulated simulation results second otherSecond) :
    Simulated simulation values (first.keepLeft second)
      (otherFirst.keepLeft otherSecond) := by
  rw [keepLeft_eq_bind, keepLeft_eq_bind]
  exact firstRelated.bind fun _ _ same => secondRelated.map fun _ _ _ => same

theorem pair {first : Parser ι κ α} {second : Parser ι κ β}
    {otherFirst : Parser ι κ α'} {otherSecond : Parser ι κ β'}
    (firstRelated : Simulated simulation values first otherFirst)
    (secondRelated : Simulated simulation results second otherSecond)
    {pairs : α × β → α' × β' → Prop}
    (read : ∀ value otherValue result otherResult, values value otherValue →
      results result otherResult →
        pairs (value, result) (otherValue, otherResult)) :
    Simulated simulation pairs (first.pair second)
      (otherFirst.pair otherSecond) := by
  rw [pair_eq_bind, pair_eq_bind]
  exact firstRelated.bind fun _ _ same =>
    secondRelated.map fun _ _ alike => read _ _ _ _ same alike

theorem orElse {first second : Parser ι κ α}
    {otherFirst otherSecond : Parser ι κ α'}
    (firstRelated : Simulated simulation values first otherFirst)
    (secondRelated : Simulated simulation values second otherSecond) :
    Simulated simulation values (first.orElse second)
      (otherFirst.orElse otherSecond) := by
  intro here there start
  apply (firstRelated here there start).recover
  intro firstFailure otherFirstFailure firstMissed
  apply (secondRelated here there start).recover
  intro secondFailure otherSecondFailure secondMissed
  exact .reject (simulation.merge firstMissed secondMissed)

theorem optional {parser : Parser ι κ α} {other : Parser ι κ α'}
    (related : Simulated simulation values parser other)
    {options : Option α → Option α' → Prop}
    (read : ∀ value otherValue, values value otherValue →
      options (some value) (some otherValue))
    (missed : options none none) :
    Simulated simulation options parser.optional other.optional := by
  intro here there start
  rw [optional_run, optional_run]
  apply (related.map read here there start).recover
  intro failure otherFailure mismatched
  exact .accept missed (simulation.record start mismatched)

theorem label {parser : Parser ι κ α} {other : Parser ι κ α'}
    (related : Simulated simulation values parser other) (name : String)
    (relabelled : ∀ here there failure otherFailure,
      simulation.cursor here there → simulation.failure failure otherFailure →
        simulation.failure (failure.relabel here.position name)
          (otherFailure.relabel there.position name)) :
    Simulated simulation values (parser.label name) (other.label name) := by
  intro here there start
  rw [label_run, label_run]
  apply (related here there start).recover
  intro failure otherFailure missed
  exact .reject (relabelled here there failure otherFailure start missed)

/-- A label on one side alone makes no difference that the simulation sees, if
it may stand there for the failures of its body. -/
theorem label_left {parser : Parser ι κ α} {other : Parser ι κ α'}
    (related : Simulated simulation values parser other) (name : String)
    (relabelled : ∀ here there failure otherFailure,
      simulation.cursor here there → simulation.failure failure otherFailure →
        simulation.failure (failure.relabel here.position name)
          otherFailure) :
    Simulated simulation values (parser.label name) other := by
  intro here there start
  rw [label_run, ← Run.recover_reject_right (other.run there right)]
  apply (related here there start).recover
  intro failure otherFailure missed
  exact .reject (relabelled here there failure otherFailure start missed)

private theorem repeatFrom {parser : Parser ι κ α} {other : Parser ι κ α'}
    (related : Simulated simulation values parser other) {step : β → α → κ → β}
    {otherStep : β' → α' → κ → β'}
    (steps : ∀ total otherTotal value otherValue, results total otherTotal →
      values value otherValue →
        results (step total value left.config)
          (otherStep otherTotal otherValue right.config))
    (remaining : Nat) :
    ∀ required total otherTotal here there, results total otherTotal →
      simulation.cursor here there →
      (Parser.repeatFrom parser
          (fun total value config => .ok (step total value config)) left
          required remaining total here).Corresponds
        simulation.toCorrespondence results
        (Parser.repeatFrom other
          (fun total value config => .ok (otherStep total value config)) right
          required remaining otherTotal there) := by
  induction remaining with
  | zero =>
      intro required total otherTotal here there same start
      rw [repeatFrom_zero, repeatFrom_zero]
      exact .accept same start
  | succ remaining induction =>
      intro required total otherTotal here there same start
      have once := related here there start
      generalize matched : parser.run here left = run at once
      generalize otherMatched : other.run there right = otherRun at once
      cases once with
      | accept alike arrived =>
          rw [repeatFrom_succ_of_accept matched,
            repeatFrom_succ_of_accept otherMatched]
          exact induction _ _ _ _ _ (steps _ _ _ _ same alike) arrived
      | reject missed =>
          rw [repeatFrom_succ_of_reject matched,
            repeatFrom_succ_of_reject otherMatched]
          split
          · exact .reject missed
          · exact .accept same start
      | abort fault =>
          rw [repeatFrom_succ_of_abort matched,
            repeatFrom_succ_of_abort otherMatched]
          exact .abort fault

theorem fold {parser : Parser ι κ α} {other : Parser ι κ α'}
    (related : Simulated simulation values parser other) {step : β → α → κ → β}
    {otherStep : β' → α' → κ → β'} {start : κ → β} {otherStart : κ → β'}
    (steps : ∀ total otherTotal value otherValue, results total otherTotal →
      values value otherValue →
        results (step total value left.config)
          (otherStep otherTotal otherValue right.config))
    (starts : results (start left.config) (otherStart right.config))
    (range : CountRange) :
    Simulated simulation results (parser.fold step start range)
      (other.fold otherStep otherStart range) := by
  intro here there within
  exact repeatFrom related steps _ _ _ _ here there starts within

end Simulated

end Parser

/-- A simulation goes through every grammar without labels, and through all
grammars if it passes labels. -/
theorem Grammar.simulated (simulation : Simulation left right)
    (sameConfig : left.config = right.config) (grammar : Grammar ι κ α)
    (labels : grammar.LabelFree ∨ simulation.PassesLabels) :
    Parser.Simulated simulation Eq grammar.parser grammar.parser := by
  induction grammar with
  | satisfy accepts description => exact .satisfy accepts description
  | endOfInput => exact .endOfInput
  | map f _ body =>
      exact (body labels).map fun _ _ same => by rw [same, sameConfig]
  | bind _ next first following =>
      apply (first (labels.imp_left And.left)).bind
      intro value _ same
      rw [← same, ← sameConfig]
      exact following value left.config
        (labels.imp_left fun free => free.2 value left.config)
  | keepRight _ _ first second =>
      exact (first (labels.imp_left And.left)).keepRight
        (second (labels.imp_left And.right))
  | keepLeft _ _ first second =>
      exact (first (labels.imp_left And.left)).keepLeft
        (second (labels.imp_left And.right))
  | pair _ _ first second =>
      apply (first (labels.imp_left And.left)).pair
        (second (labels.imp_left And.right))
      intro value otherValue result otherResult same alike
      rw [same, alike]
  | orElse _ _ first second =>
      exact (first (labels.imp_left And.left)).orElse
        (second (labels.imp_left And.right))
  | optional _ body =>
      exact (body labels).optional (fun _ _ => congrArg some) rfl
  | label _ name body =>
      rcases labels with none | passed
      · exact none.elim
      · exact (body (.inr passed)).label name fun _ _ _ _ => passed _ _ _ _ name
  | fold _ step start range body =>
      apply (body labels).fold
      · intro total otherTotal value otherValue same alike
        rw [same, alike, sameConfig]
      · rw [sameConfig]

end Descent
