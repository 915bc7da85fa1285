import Descent.Proofs.Runs

/-! Properties that no run of a grammar can break. An invariant says at which
cursors a run may stand, which failures it may report and which faults may abort
it. Every combinator keeps an invariant that its parts keep, so only the parsers
that look at the input, and the labels, are left to check. -/

namespace Descent

/-- Where runs stand and how they end. Giving up an alternative, and merging the
failures of two, must not lead out of it. -/
structure Invariant where
  cursor : Cursor → Prop
  failure : Failure → Prop
  fault : Fault → Prop
  record : ∀ {here : Cursor} {missed : Failure},
    cursor here → failure missed → cursor (here.record missed)
  merge : ∀ {first second : Failure},
    failure first → failure second → failure (first.merge second)

variable {ι κ α β : Type} {invariant : Invariant} {context : Context ι κ}

namespace Run

def Keeps (invariant : Invariant) : Run α → Prop
  | .accept _ reached => invariant.cursor reached
  | .reject failure => invariant.failure failure
  | .abort fault => invariant.fault fault

theorem Keeps.andThen {run : Run α} {next : α → Cursor → Run β}
    (kept : run.Keeps invariant)
    (following : ∀ value reached, run = .accept value reached →
      invariant.cursor reached → (next value reached).Keeps invariant) :
    (run.andThen next).Keeps invariant := by
  match run with
  | .accept value reached => exact following value reached rfl kept
  | .reject _ => exact kept
  | .abort _ => exact kept

theorem Keeps.recover {run : Run α} {next : Failure → Run α}
    (kept : run.Keeps invariant)
    (instead : ∀ failure, run = .reject failure → invariant.failure failure →
      (next failure).Keeps invariant) :
    (run.recover next).Keeps invariant := by
  match run with
  | .accept _ _ => exact kept
  | .reject failure => exact instead failure rfl kept
  | .abort _ => exact kept

theorem consume_keeps {cursor : Cursor} (value : α)
    (moved : cursor.position + 1 < Word.limit →
      invariant.cursor { cursor with position := cursor.position + 1 })
    (stuck : Word.limit ≤ cursor.position + 1 →
      invariant.fault .additionOverflow) :
    (consume value cursor 1).Keeps invariant := by
  rcases Nat.lt_or_ge (cursor.position + 1) Word.limit with fits | exceeds
  · rw [consume_eq_accept value fits]
    exact moved fits
  · rw [consume_eq_abort value exceeds]
    exact stuck exceeds

end Run

namespace Parser

def Reads (parser : Parser ι κ α) (context : Context ι κ) (value : α) : Prop :=
  ∃ start reached, parser.run start context = .accept value reached

def Keeps (parser : Parser ι κ α) (invariant : Invariant)
    (context : Context ι κ) : Prop :=
  ∀ cursor, invariant.cursor cursor →
    (parser.run cursor context).Keeps invariant

namespace Keeps

theorem satisfy {accepts : ι → Bool} {description : String}
    (moves : ∀ cursor item, invariant.cursor cursor →
      context.at? cursor.position = some item →
        (Run.consume item cursor 1).Keeps invariant)
    (misses : ∀ cursor, invariant.cursor cursor →
      (∀ item, context.at? cursor.position = some item → accepts item = false) →
        invariant.failure (cursor.fail description)) :
    (Parser.satisfy accepts description : Parser ι κ ι).Keeps invariant
      context := by
  intro cursor start
  rcases admitted_or_missing accepts (context.at? cursor.position) with
    ⟨item, present, admitted⟩ | missing
  · rw [satisfy_run_of_admitted present admitted]
    exact moves cursor item start present
  · rw [satisfy_run_of_missing missing]
    exact misses cursor start missing

theorem endOfInput
    (misses : ∀ cursor, invariant.cursor cursor →
      cursor.position < context.length →
        invariant.failure (cursor.fail "end of input")) :
    (Parser.endOfInput : Parser ι κ Unit).Keeps invariant context := by
  intro cursor start
  rcases Nat.lt_or_ge cursor.position context.length with before | atEnd
  · rw [endOfInput_run_of_lt before]
    exact misses cursor start before
  · rw [endOfInput_run_of_le atEnd]
    exact start

theorem map {parser : Parser ι κ α} (kept : parser.Keeps invariant context)
    (f : α → κ → β) : (parser.map f).Keeps invariant context := by
  intro cursor start
  exact (kept cursor start).andThen fun _ _ _ arrived => arrived

theorem bind {first : Parser ι κ α} {next : α → κ → Parser ι κ β}
    (firstKept : first.Keeps invariant context)
    (nextKept : ∀ value, first.Reads context value →
      (next value context.config).Keeps invariant context) :
    (first.bind next).Keeps invariant context := by
  intro cursor start
  apply (firstKept cursor start).andThen
  intro value reached matched arrived
  exact nextKept value ⟨cursor, reached, matched⟩ reached arrived

theorem keepRight {first : Parser ι κ α} {second : Parser ι κ β}
    (firstKept : first.Keeps invariant context)
    (secondKept : second.Keeps invariant context) :
    (first.keepRight second).Keeps invariant context := by
  rw [keepRight_eq_bind]
  exact firstKept.bind fun _ _ => secondKept

theorem keepLeft {first : Parser ι κ α} {second : Parser ι κ β}
    (firstKept : first.Keeps invariant context)
    (secondKept : second.Keeps invariant context) :
    (first.keepLeft second).Keeps invariant context := by
  rw [keepLeft_eq_bind]
  exact firstKept.bind fun _ _ => secondKept.map _

theorem pair {first : Parser ι κ α} {second : Parser ι κ β}
    (firstKept : first.Keeps invariant context)
    (secondKept : second.Keeps invariant context) :
    (first.pair second).Keeps invariant context := by
  rw [pair_eq_bind]
  exact firstKept.bind fun _ _ => secondKept.map _

theorem orElse {first second : Parser ι κ α}
    (firstKept : first.Keeps invariant context)
    (secondKept : second.Keeps invariant context) :
    (first.orElse second).Keeps invariant context := by
  intro cursor start
  apply (firstKept cursor start).recover
  intro firstFailure _ firstMissed
  apply (secondKept cursor start).recover
  intro secondFailure _ secondMissed
  exact invariant.merge firstMissed secondMissed

theorem optional {parser : Parser ι κ α}
    (kept : parser.Keeps invariant context) :
    parser.optional.Keeps invariant context := by
  intro cursor start
  rw [optional_run]
  apply (kept.map _ cursor start).recover
  intro failure _ missed
  exact invariant.record start missed

theorem label {parser : Parser ι κ α} (kept : parser.Keeps invariant context)
    (name : String)
    (relabelled : ∀ cursor failure, invariant.cursor cursor →
      parser.run cursor context = .reject failure → invariant.failure failure →
        invariant.failure (failure.relabel cursor.position name)) :
    (parser.label name).Keeps invariant context := by
  intro cursor start
  rw [label_run]
  apply (kept cursor start).recover
  intro failure rejected missed
  exact relabelled cursor failure start rejected missed

private theorem repeatFrom {parser : Parser ι κ α}
    (kept : parser.Keeps invariant context) (step : β → α → κ → β)
    (remaining : Nat) :
    ∀ required total cursor, invariant.cursor cursor →
      (Parser.repeatFrom parser
        (fun total value config => .ok (step total value config))
        context required remaining total cursor).Keeps invariant := by
  induction remaining with
  | zero =>
      intro required total cursor start
      rw [repeatFrom_zero]
      exact start
  | succ remaining induction =>
      intro required total cursor start
      have once := kept cursor start
      match matched : parser.run cursor context with
      | .accept value reached =>
          rw [matched] at once
          rw [repeatFrom_succ_of_accept matched]
          exact induction _ _ reached once
      | .reject failure =>
          rw [matched] at once
          rw [repeatFrom_succ_of_reject matched]
          split
          · exact once
          · exact start
      | .abort fault =>
          rw [matched] at once
          rw [repeatFrom_succ_of_abort matched]
          exact once

theorem fold {parser : Parser ι κ α} (kept : parser.Keeps invariant context)
    (step : β → α → κ → β) (start : κ → β) (range : CountRange) :
    (parser.fold step start range).Keeps invariant context := by
  intro cursor within
  exact repeatFrom kept step _ _ _ cursor within

end Keeps

end Parser

/-- An invariant that is kept by a step forward, by a mismatch and by a label is
kept by every grammar. -/
theorem Grammar.keeps
    (moves : ∀ cursor item, invariant.cursor cursor →
      context.at? cursor.position = some item →
        (Run.consume item cursor 1).Keeps invariant)
    (misses : ∀ cursor description, invariant.cursor cursor →
      invariant.failure (cursor.fail description))
    (labels : ∀ cursor failure name, invariant.cursor cursor →
      invariant.failure failure →
        invariant.failure (failure.relabel cursor.position name))
    (grammar : Grammar ι κ α) : grammar.parser.Keeps invariant context := by
  induction grammar with
  | satisfy _ description =>
      exact .satisfy moves fun cursor start _ => misses cursor description start
  | endOfInput =>
      exact .endOfInput fun cursor start _ => misses cursor "end of input" start
  | map f _ body => exact body.map f
  | bind _ _ first next =>
      exact first.bind fun value _ => next value context.config
  | keepRight _ _ first second => exact first.keepRight second
  | keepLeft _ _ first second => exact first.keepLeft second
  | pair _ _ first second => exact first.pair second
  | orElse _ _ first second => exact first.orElse second
  | optional _ body => exact body.optional
  | label _ name body =>
      exact body.label name fun cursor failure start _ =>
        labels cursor failure name start
  | fold _ step start range body => exact body.fold step start range

end Descent
