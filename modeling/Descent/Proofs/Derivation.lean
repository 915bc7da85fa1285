import Descent.Grammar

/-! What grammars mean, without running anything: rules that derive what a
grammar reads from a position of the input. Alternatives are tried in order and
a repetition is greedy; it goes on as long as its range lets it, and a range
that is open above always does. No rule knows of failures that were recorded. -/

namespace Descent

variable {ι κ α β : Type}

/-- How reading ends: with a value and the position after it, or not at all. -/
inductive Reading (α : Type) where
  | matched (value : α) (stop : Nat)
  | failed

def Reading.map (f : α → β) : Reading α → Reading β
  | .matched value stop => .matched (f value) stop
  | .failed => .failed

/-- What is left to read: all of a grammar, or the rest of a repetition whose
first `count` matches came to `total`. -/
inductive Task (ι κ : Type) : Type → Type 1 where
  | whole {α : Type} (grammar : Grammar ι κ α) : Task ι κ α
  | rest {α β : Type} (body : Grammar ι κ α) (step : β → α → κ → β)
      (range : CountRange) (count : Nat) (total : β) : Task ι κ β

/-- From `position`, the task ends with this reading. -/
inductive Derives (context : Context ι κ) :
    {α : Type} → Task ι κ α → Nat → Reading α → Prop
  | satisfy (present : context.at? position = some item)
      (admitted : accepts item = true) :
      Derives context (.whole (.satisfy accepts description)) position
        (.matched item (position + 1))
  | satisfyFails
      (missing : ∀ item, context.at? position = some item →
        accepts item = false) :
      Derives context (.whole (.satisfy accepts description)) position .failed
  | endOfInput (atEnd : context.length ≤ position) :
      Derives context (.whole .endOfInput) position (.matched () position)
  | endOfInputFails (before : position < context.length) :
      Derives context (.whole .endOfInput) position .failed
  | map (inner : Derives context (.whole body) position reading) :
      Derives context (.whole (.map f body)) position
        (reading.map fun value => f value context.config)
  | bind
      (before : Derives context (.whole first) position (.matched value middle))
      (after : Derives context (.whole (next value context.config)) middle
        reading) :
      Derives context (.whole (.bind first next)) position reading
  | bindFails (before : Derives context (.whole first) position .failed) :
      Derives context (.whole (.bind first next)) position .failed
  | keepRight
      (before : Derives context (.whole first) position (.matched value middle))
      (after : Derives context (.whole second) middle reading) :
      Derives context (.whole (.keepRight first second)) position reading
  | keepRightFails (before : Derives context (.whole first) position .failed) :
      Derives context (.whole (.keepRight first second)) position .failed
  | keepLeft
      (before : Derives context (.whole first) position (.matched value middle))
      (after : Derives context (.whole second) middle reading) :
      Derives context (.whole (.keepLeft first second)) position
        (reading.map fun _ => value)
  | keepLeftFails (before : Derives context (.whole first) position .failed) :
      Derives context (.whole (.keepLeft first second)) position .failed
  | pair
      (before : Derives context (.whole first) position (.matched value middle))
      (after : Derives context (.whole second) middle reading) :
      Derives context (.whole (.pair first second)) position
        (reading.map (Prod.mk value))
  | pairFails (before : Derives context (.whole first) position .failed) :
      Derives context (.whole (.pair first second)) position .failed
  | orElseFirst
      (taken : Derives context (.whole first) position (.matched value stop)) :
      Derives context (.whole (.orElse first second)) position
        (.matched value stop)
  | orElseSecond (givenUp : Derives context (.whole first) position .failed)
      (taken : Derives context (.whole second) position reading) :
      Derives context (.whole (.orElse first second)) position reading
  | optional
      (inner : Derives context (.whole body) position (.matched value stop)) :
      Derives context (.whole (.optional body)) position
        (.matched (some value) stop)
  | optionalNone (inner : Derives context (.whole body) position .failed) :
      Derives context (.whole (.optional body)) position
        (.matched none position)
  | label (inner : Derives context (.whole body) position reading) :
      Derives context (.whole (.label body name)) position reading
  | fold
      (loop : Derives context (.rest body step range 0 (start context.config))
        position reading) :
      Derives context (.whole (.fold body step start range)) position reading
  | more (room : range.upper.AdmitsBelow (count + 1))
      (once : Derives context (.whole body) position (.matched value middle))
      (loop : Derives context
        (.rest body step range (count + 1) (step total value context.config))
        middle reading) :
      Derives context (.rest body step range count total) position reading
  | enough (room : range.upper.AdmitsBelow (count + 1))
      (ended : Derives context (.whole body) position .failed)
      (admitted : range.lower.AdmitsAbove count) :
      Derives context (.rest body step range count total) position
        (.matched total position)
  | tooFew (room : range.upper.AdmitsBelow (count + 1))
      (ended : Derives context (.whole body) position .failed)
      (short : ¬ range.lower.AdmitsAbove count) :
      Derives context (.rest body step range count total) position .failed
  | full (noRoom : ¬ range.upper.AdmitsBelow (count + 1))
      (admitted : range.lower.AdmitsAbove count) :
      Derives context (.rest body step range count total) position
        (.matched total position)

end Descent
