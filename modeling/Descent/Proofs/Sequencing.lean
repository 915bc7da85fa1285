import Descent.Parser.Combinators
import Descent.Proofs.Shape

/-! Parsers one after another. There are several ways to put a second parser
behind a first one, and they differ in the value they keep and in nothing else.
However such sequences are nested, their parts run from left to right, each from
the cursor where the one before it stopped, and the first that does not match
ends the whole. -/

namespace Descent

variable {ι κ α β γ : Type} {context : Context ι κ}

/-! ## Parts and their values -/

structure Part (ι κ : Type) where
  Value : Type
  parser : Parser ι κ Value

/-- One value for each part, in order. -/
@[reducible] def Values : List (Part ι κ) → Type
  | [] => Unit
  | part :: parts => part.Value × Values parts

namespace Values

def append : {first second : List (Part ι κ)} →
    Values first → Values second → Values (first ++ second)
  | [], _, _, others => others
  | _ :: _, _, values, others => (values.1, append values.2 others)

def split : (first : List (Part ι κ)) → {second : List (Part ι κ)} →
    Values (first ++ second) → Values first × Values second
  | [], _, values => ((), values)
  | _ :: first, _, values =>
      ((values.1, (split first values.2).1), (split first values.2).2)

@[simp] theorem split_append {second : List (Part ι κ)} :
    ∀ {first : List (Part ι κ)} (values : Values first)
      (others : Values second),
      split first (append values others) = (values, others)
  | [], _, _ => rfl
  | _ :: _, values, others => by
      rw [append, split, split_append values.2 others]

end Values

/-! ## Running from left to right -/

def runInOrder : (parts : List (Part ι κ)) → Cursor → Context ι κ →
    Run (Values parts)
  | [], cursor, _ => .accept () cursor
  | part :: parts, cursor, context =>
      (part.parser.run cursor context).andThen fun value reached =>
        (runInOrder parts reached context).andThen fun values last =>
          .accept (value, values) last

theorem runInOrder_append (first second : List (Part ι κ))
    (context : Context ι κ) :
    ∀ start, runInOrder (first ++ second) start context =
      (runInOrder first start context).andThen fun values reached =>
        (runInOrder second reached context).andThen fun others last =>
          .accept (values.append others) last := by
  induction first with
  | nil =>
      intro start
      exact (Run.andThen_accept_right _).symm
  | cons part first induction =>
      intro start
      simp only [List.cons_append, runInOrder, induction, Run.andThen_assoc,
        Run.andThen_accept, Values.append]

/-- From `start` each part matches where the one before it stopped, with one of
the values, and the last one stops at `stop`. -/
inductive Chain (context : Context ι κ) :
    Cursor → (parts : List (Part ι κ)) → Values parts → Cursor → Prop
  | nil (cursor : Cursor) : Chain context cursor [] () cursor
  | cons {start reached stop : Cursor} {part : Part ι κ}
      {parts : List (Part ι κ)} {value : part.Value} {values : Values parts}
      (matched : part.parser.run start context = .accept value reached)
      (rest : Chain context reached parts values stop) :
      Chain context start (part :: parts) (value, values) stop

theorem Chain.runInOrder_eq {start stop : Cursor} {parts : List (Part ι κ)}
    {values : Values parts} (chain : Chain context start parts values stop) :
    runInOrder parts start context = .accept values stop := by
  induction chain with
  | nil _ => rfl
  | cons matched _ induction =>
      simp only [runInOrder, matched, induction, Run.andThen_accept]

/-- How parts that run one after the other from `start` end: all of them match,
with a value computed from theirs, or one that stands behind a chain of matches
does not. -/
inductive Threads (context : Context ι κ) (parts : List (Part ι κ))
    (value : Values parts → α) (start : Cursor) : Run α → Prop
  | matched {values : Values parts} {stop : Cursor}
      (chain : Chain context start parts values stop) :
      Threads context parts value start (.accept (value values) stop)
  | missed {earlier later : List (Part ι κ)} {decisive : Part ι κ}
      {values : Values earlier} {middle : Cursor} {failure : Failure}
      (split : parts = earlier ++ decisive :: later)
      (chain : Chain context start earlier values middle)
      (rejected : decisive.parser.run middle context = .reject failure) :
      Threads context parts value start (.reject failure)
  | cut {earlier later : List (Part ι κ)} {decisive : Part ι κ}
      {values : Values earlier} {middle : Cursor} {fault : Fault}
      (split : parts = earlier ++ decisive :: later)
      (chain : Chain context start earlier values middle)
      (aborted : decisive.parser.run middle context = .abort fault) :
      Threads context parts value start (.abort fault)

namespace Threads

variable {part : Part ι κ} {parts : List (Part ι κ)}
  {start reached : Cursor} {run : Run α}

theorem cons {first : part.Value} {value : Values (part :: parts) → α}
    (matched : part.parser.run start context = .accept first reached)
    (threads :
      Threads context parts (fun values => value (first, values)) reached run) :
    Threads context (part :: parts) value start run := by
  cases threads with
  | matched chain => exact .matched (.cons matched chain)
  | missed split chain rejected =>
      exact .missed (congrArg (part :: ·) split) (.cons matched chain) rejected
  | cut split chain aborted =>
      exact .cut (congrArg (part :: ·) split) (.cons matched chain) aborted

theorem of_runInOrder (parts : List (Part ι κ)) (context : Context ι κ) :
    ∀ (value : Values parts → α) start, Threads context parts value start
      ((runInOrder parts start context).andThen fun values last =>
        .accept (value values) last) := by
  induction parts with
  | nil =>
      intro value start
      exact .matched (.nil start)
  | cons part parts induction =>
      intro value start
      simp only [runInOrder, Run.andThen_assoc, Run.andThen_accept]
      have leading : part :: parts = [] ++ part :: parts := rfl
      match attempt : part.parser.run start context with
      | .accept first reached => exact .cons attempt (induction _ reached)
      | .reject failure => exact .missed leading (.nil start) attempt
      | .abort fault => exact .cut leading (.nil start) attempt

theorem runInOrder_eq {value : Values parts → α}
    (threads : Threads context parts value start run) :
    ((runInOrder parts start context).andThen fun values last =>
      .accept (value values) last) = run := by
  cases threads with
  | matched chain => rw [chain.runInOrder_eq, Run.andThen_accept]
  | missed split chain rejected =>
      subst split
      rw [runInOrder_append, chain.runInOrder_eq]
      simp only [runInOrder, rejected, Run.andThen_accept, Run.andThen_reject]
  | cut split chain aborted =>
      subst split
      rw [runInOrder_append, chain.runInOrder_eq]
      simp only [runInOrder, aborted, Run.andThen_accept, Run.andThen_abort]

end Threads

/-! ## Joining two parsers -/

/-- A way to put a parser behind another, by a combinator or by an operator. -/
inductive Joint (α β : Type) : Type → Type
  | keepRight : Joint α β β
  | keepLeft : Joint α β α
  | pair : Joint α β (α × β)
  | bind : Joint α β β
  | seqRight : Joint α β β
  | seqLeft : Joint α β α
  | plus : Joint α β (α × β)

namespace Joint

def parser : Joint α β γ → Parser ι κ α → Parser ι κ β → Parser ι κ γ
  | keepRight, first, second => first.keepRight second
  | keepLeft, first, second => first.keepLeft second
  | pair, first, second => first.pair second
  | bind, first, second => first.bind fun _ _ => second
  | seqRight, first, second => first *> second
  | seqLeft, first, second => first <* second
  | plus, first, second => first + second

def value : Joint α β γ → α → β → γ
  | keepRight, _, second => second
  | keepLeft, first, _ => first
  | pair, first, second => (first, second)
  | bind, _, second => second
  | seqRight, _, second => second
  | seqLeft, first, _ => first
  | plus, first, second => (first, second)

theorem parser_run (joint : Joint α β γ) (first : Parser ι κ α)
    (second : Parser ι κ β) (start : Cursor) (context : Context ι κ) :
    (joint.parser first second).run start context =
      (first.run start context).andThen fun left reached =>
        (second.run reached context).andThen fun right last =>
          .accept (joint.value left right) last := by
  cases joint with
  | keepLeft | pair | seqLeft | plus => rfl
  | keepRight | bind | seqRight =>
      -- Here the second run is the result as it is.
      simp only [value, Run.andThen_accept_right]
      rfl

end Joint

/-! ## Any nesting -/

/-- Parsers one after another, with the way they are nested and joined. -/
inductive SequenceTree (ι κ : Type) : Type → Type 1 where
  | part {α : Type} (parser : Parser ι κ α) : SequenceTree ι κ α
  | join {α β γ : Type} (joint : Joint α β γ) (first : SequenceTree ι κ α)
      (second : SequenceTree ι κ β) : SequenceTree ι κ γ

namespace SequenceTree

def parser {α : Type} : SequenceTree ι κ α → Parser ι κ α
  | part parser => parser
  | join joint first second => joint.parser first.parser second.parser

def parts {α : Type} : SequenceTree ι κ α → List (Part ι κ)
  | @part _ _ α parser => [{ Value := α, parser := parser }]
  | join _ first second => first.parts ++ second.parts

def value {α : Type} : (tree : SequenceTree ι κ α) → Values tree.parts → α
  | part _, values => values.1
  | join joint first second, values =>
      joint.value (first.value (values.split first.parts).1)
        (second.value (values.split first.parts).2)

theorem parser_run (tree : SequenceTree ι κ α) (context : Context ι κ) :
    ∀ start, tree.parser.run start context =
      (runInOrder tree.parts start context).andThen fun values last =>
        .accept (tree.value values) last := by
  induction tree with
  | part parser =>
      intro start
      simp only [SequenceTree.parser, parts, value, runInOrder,
        Run.andThen_assoc, Run.andThen_accept, Run.andThen_accept_right]
  | join joint first second firstInduction secondInduction =>
      intro start
      rw [SequenceTree.parser, joint.parser_run, firstInduction]
      simp only [secondInduction, parts, value, runInOrder_append,
        Run.andThen_assoc, Run.andThen_accept, Values.split_append]

end SequenceTree

/-- All ways of sequencing thread the cursor alike: each part starts where the
one before it stopped, and the first one that does not match ends the whole. Two
sequences of the same parts differ in their values at most. -/
theorem sequences_thread_their_parts (tree : SequenceTree ι κ α) :
    (∀ start context run, tree.parser.run start context = run ↔
      Threads context tree.parts tree.value start run) ∧
      ∀ {β : Type} (other : SequenceTree ι κ β), other.parts = tree.parts →
        ∀ start context, (other.parser.run start context).withoutValue =
          (tree.parser.run start context).withoutValue := by
  constructor
  · intro start context run
    rw [tree.parser_run context start]
    constructor
    · rintro rfl
      exact Threads.of_runInOrder tree.parts context tree.value start
    · exact Threads.runInOrder_eq
  · intro β other same start context
    simp only [Run.withoutValue, SequenceTree.parser_run, Run.andThen_assoc,
      Run.andThen_accept]
    rw [same]

theorem kept_and_listed_parts_run_alike :
    let letter (char : Char) : SequenceTree Char Unit Char :=
      .part (.element char)
    let digit : SequenceTree Char Unit Char :=
      .part (.satisfy Char.isDigit "digit")
    let kept :=
      SequenceTree.join .seqLeft (.join .bind (letter '(') digit) (letter ')')
    let listed :=
      SequenceTree.join .pair (letter '(') (.join .plus digit (letter ')'))
    listed.parts = kept.parts ∧
      kept.parser.run .start ⟨.ofText "(7)", ()⟩ = .accept '7' ⟨3, none⟩ ∧
      (listed.parser.run .start ⟨.ofText "(7)", ()⟩).withoutValue =
        .accept () ⟨3, none⟩ ∧
      kept.parser.run .start ⟨.ofText "(7", ()⟩ = .reject (.expecting 2 "')'") ∧
      (listed.parser.run .start ⟨.ofText "(7", ()⟩).withoutValue =
        .reject (.expecting 2 "')'") := by
  intro letter digit kept listed
  have same : listed.parts = kept.parts := rfl
  have alike := (sequences_thread_their_parts kept).2 listed same
  have read : kept.parser.run .start ⟨.ofText "(7)", ()⟩ =
      .accept '7' ⟨3, none⟩ := rfl
  have missed : kept.parser.run .start ⟨.ofText "(7", ()⟩ =
      .reject (.expecting 2 "')'") := rfl
  refine ⟨same, read, ?_, missed, ?_⟩
  · rw [alike, read]
    rfl
  · rw [alike, missed]
    rfl

end Descent
