import Descent.Parser.Combinators

/-! Grammars as data. A parser is a function and hides how it was put together;
a grammar is the tree of the combinators it is made of, and `parser` gives its
meaning. What holds of every parser that the combinators can build is said of
grammars and follows their structure. -/

namespace Descent

/-- A way to read values of the index type from elements of type `ι`, built
from looking at single elements and from the combinators. Functions that
compute values, and continuations, are given the configuration.

A grammar is a well-founded tree. A rule that refers to itself, through a
continuation that gives the same parser again, is a parser but no grammar, and
nothing that is said of all grammars is said of it. -/
inductive Grammar (ι κ : Type) : Type → Type 1 where
  | satisfy (accepts : ι → Bool) (description : String) : Grammar ι κ ι
  | endOfInput : Grammar ι κ Unit
  | map {α β : Type} (f : α → κ → β) (body : Grammar ι κ α) :
      Grammar ι κ β
  | bind {α β : Type} (first : Grammar ι κ α)
      (next : α → κ → Grammar ι κ β) : Grammar ι κ β
  | keepRight {α β : Type} (first : Grammar ι κ α)
      (second : Grammar ι κ β) : Grammar ι κ β
  | keepLeft {α β : Type} (first : Grammar ι κ α)
      (second : Grammar ι κ β) : Grammar ι κ α
  | pair {α β : Type} (first : Grammar ι κ α)
      (second : Grammar ι κ β) : Grammar ι κ (α × β)
  | orElse {α : Type} (first second : Grammar ι κ α) : Grammar ι κ α
  | optional {α : Type} (body : Grammar ι κ α) : Grammar ι κ (Option α)
  | label {α : Type} (body : Grammar ι κ α) (name : String) :
      Grammar ι κ α
  | fold {α β : Type} (body : Grammar ι κ α) (step : β → α → κ → β)
      (start : κ → β) (range : CountRange) : Grammar ι κ β

namespace Grammar

variable {ι κ : Type}

def parser {α : Type} : Grammar ι κ α → Parser ι κ α
  | satisfy accepts description => .satisfy accepts description
  | endOfInput => .endOfInput
  | map f body => body.parser.map f
  | bind first next =>
      first.parser.bind fun value config => (next value config).parser
  | keepRight first second => first.parser.keepRight second.parser
  | keepLeft first second => first.parser.keepLeft second.parser
  | pair first second => first.parser.pair second.parser
  | orElse first second => first.parser.orElse second.parser
  | optional body => body.parser.optional
  | label body name => body.parser.label name
  | fold body step start range => body.parser.fold step start range

def element [DecidableEq ι] [Describe ι] (expected : ι) : Grammar ι κ ι :=
  satisfy (fun item => decide (item = expected)) (describe expected)

def any : Grammar ι κ ι :=
  satisfy (fun _ => true) "any element"

def many {α : Type} (body : Grammar ι κ α) (range : CountRange) :
    Grammar ι κ (List α) :=
  map (fun values _ => values.toList)
    (fold body (fun values value _ => values.push value)
      (fun _ => (#[] : Array α)) range)

/-- The same grammar without its labels, those in continuations included. -/
def eraseLabels {α : Type} : Grammar ι κ α → Grammar ι κ α
  | satisfy accepts description => satisfy accepts description
  | endOfInput => endOfInput
  | map f body => map f body.eraseLabels
  | bind first next =>
      bind first.eraseLabels fun value config => (next value config).eraseLabels
  | keepRight first second => keepRight first.eraseLabels second.eraseLabels
  | keepLeft first second => keepLeft first.eraseLabels second.eraseLabels
  | pair first second => pair first.eraseLabels second.eraseLabels
  | orElse first second => orElse first.eraseLabels second.eraseLabels
  | optional body => optional body.eraseLabels
  | label body _ => body.eraseLabels
  | fold body step start range => fold body.eraseLabels step start range

/-- No label occurs, neither in the grammar nor in what a continuation gives. -/
def LabelFree {α : Type} : Grammar ι κ α → Prop
  | satisfy _ _ => True
  | endOfInput => True
  | map _ body => body.LabelFree
  | bind first next =>
      first.LabelFree ∧ ∀ value config, (next value config).LabelFree
  | keepRight first second => first.LabelFree ∧ second.LabelFree
  | keepLeft first second => first.LabelFree ∧ second.LabelFree
  | pair first second => first.LabelFree ∧ second.LabelFree
  | orElse first second => first.LabelFree ∧ second.LabelFree
  | optional body => body.LabelFree
  | label _ _ => False
  | fold body _ _ _ => body.LabelFree

theorem eraseLabels_labelFree {α : Type} (grammar : Grammar ι κ α) :
    grammar.eraseLabels.LabelFree := by
  induction grammar with
  | satisfy _ _ => trivial
  | endOfInput => trivial
  | map _ _ induction => exact induction
  | bind _ _ first next => exact ⟨first, next⟩
  | keepRight _ _ first second => exact ⟨first, second⟩
  | keepLeft _ _ first second => exact ⟨first, second⟩
  | pair _ _ first second => exact ⟨first, second⟩
  | orElse _ _ first second => exact ⟨first, second⟩
  | optional _ induction => exact induction
  | label _ _ induction => exact induction
  | fold _ _ _ _ induction => exact induction

end Grammar

end Descent
