import Descent.Parser.Basic

/-! Parsers made from parsers: one after another, one in place of another, and
one many times over. -/

namespace Descent.Parser

variable {ι κ α β : Type}

/-! ## Sequences

The second parser starts where the first one stopped, and a failure of either is
that of both. -/

def map (f : α → κ → β) (parser : Parser ι κ α) : Parser ι κ β where
  run cursor context :=
    (parser.run cursor context).andThen fun value reached =>
      .accept (f value context.config) reached

/-- Choose the second parser by the value that the first one read. -/
def bind (parser : Parser ι κ α) (next : α → κ → Parser ι κ β) :
    Parser ι κ β where
  run cursor context :=
    (parser.run cursor context).andThen fun value reached =>
      (next value context.config).run reached context

def keepRight (first : Parser ι κ α) (second : Parser ι κ β) :
    Parser ι κ β where
  run cursor context :=
    (first.run cursor context).andThen fun _ reached =>
      second.run reached context

def keepLeft (first : Parser ι κ α) (second : Parser ι κ β) :
    Parser ι κ α where
  run cursor context :=
    (first.run cursor context).andThen fun value reached =>
      (second.run reached context).andThen fun _ last => .accept value last

def pair (first : Parser ι κ α) (second : Parser ι κ β) :
    Parser ι κ (α × β) where
  run cursor context :=
    (first.run cursor context).andThen fun left reached =>
      (second.run reached context).andThen fun right last =>
        .accept (left, right) last

theorem keepRight_eq_bind (first : Parser ι κ α) (second : Parser ι κ β) :
    first.keepRight second = first.bind fun _ _ => second := rfl

theorem keepLeft_eq_bind (first : Parser ι κ α) (second : Parser ι κ β) :
    first.keepLeft second =
      first.bind fun value _ => second.map fun _ _ => value := rfl

theorem pair_eq_bind (first : Parser ι κ α) (second : Parser ι κ β) :
    first.pair second =
      first.bind fun left _ => second.map fun right _ => (left, right) := rfl

/-! ## Alternatives

Each starts from the same place, whatever the others did. -/

/-- The first alternative that matches. If neither does, the failure is the one
that got further; at a tie it names what both expected. -/
def orElse (first second : Parser ι κ α) : Parser ι κ α where
  run cursor context :=
    (first.run cursor context).recover fun firstFailure =>
      (second.run cursor context).recover fun secondFailure =>
        .reject (firstFailure.merge secondFailure)

/-- Read a value if there is one. A miss ends where it started and is recorded
as given up. -/
def optional (parser : Parser ι κ α) : Parser ι κ (Option α) where
  run cursor context :=
    match parser.run cursor context with
    | .accept value reached => .accept (some value) reached
    | .reject failure => .accept none (cursor.record failure)
    | .abort fault => .abort fault

/-- Speak of `name` where the parser fails at its start. A failure further on
tells more and is kept. -/
def label (parser : Parser ι κ α) (name : String) : Parser ι κ α where
  run cursor context :=
    (parser.run cursor context).recover fun failure =>
      if failure.position = cursor.position then
        .reject (.expecting failure.position name)
      else
        .reject failure

/-! ## Repetition

It goes on as long as the repeated parser matches and the range of counts admits
one more; the attempt that ends it leaves no trace. -/

/-- Match `remaining` more times at the most, folding each value into `total`.
A mismatch is the end of it once no more matches are `required`. -/
def repeatFrom (parser : Parser ι κ α) (step : β → α → κ → Except Fault β)
    (context : Context ι κ) :
    (required remaining : Nat) → β → Cursor → Run β
  | _, 0, total, cursor => .accept total cursor
  | required, remaining + 1, total, cursor =>
      match parser.run cursor context with
      | .accept value reached =>
          match step total value context.config with
          | .ok next =>
              repeatFrom parser step context (required - 1) remaining next
                reached
          | .error fault => .abort fault
      | .reject failure =>
          if 0 < required then .reject failure else .accept total cursor
      | .abort fault => .abort fault

/-- Fold the values of all matches by a step that may abort the run. -/
def foldChecked (parser : Parser ι κ α) (step : β → α → κ → Except Fault β)
    (start : κ → β) (range : CountRange) : Parser ι κ β where
  run cursor context :=
    repeatFrom parser step context range.limits.least range.limits.most
      (start context.config) cursor

def fold (parser : Parser ι κ α) (step : β → α → κ → β) (start : κ → β)
    (range : CountRange) : Parser ι κ β :=
  parser.foldChecked
    (fun total value config => .ok (step total value config)) start range

/-- The values of all matches, in order. -/
def many (parser : Parser ι κ α) (range : CountRange) :
    Parser ι κ (List α) :=
  (parser.fold (fun values value _ => values.push value)
    (fun _ => (#[] : Array α)) range).map fun values _ => values.toList

/-! ## Operators

`f <$> p` computes from a value, `p + q` keeps both values, `p <* q` and
`p *> q` keep one, `p <|> q` chooses. -/

instance : Functor (Parser ι κ) where
  map f parser := parser.map fun value _ => f value

instance : HAdd (Parser ι κ α) (Parser ι κ β) (Parser ι κ (α × β)) where
  hAdd := pair

instance : SeqLeft (Parser ι κ) where
  seqLeft first second := first.keepLeft (second ())

instance : SeqRight (Parser ι κ) where
  seqRight first second := first.keepRight (second ())

instance : OrElse (Parser ι κ α) where
  orElse first second := first.orElse (second ())

theorem hAdd_eq (first : Parser ι κ α) (second : Parser ι κ β) :
    first + second = first.pair second := rfl

theorem seqLeft_eq (first : Parser ι κ α) (second : Parser ι κ β) :
    first <* second = first.keepLeft second := rfl

theorem seqRight_eq (first : Parser ι κ α) (second : Parser ι κ β) :
    first *> second = first.keepRight second := rfl

theorem orElse_eq (first second : Parser ι κ α) :
    (first <|> second) = first.orElse second := rfl

end Descent.Parser
