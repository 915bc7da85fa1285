import Descent.Failure
import Descent.Fault

/-! How a run of a parser ends. A mismatch is an ordinary outcome that other
parsers inspect and recover from; only a fault cuts a run short. -/

namespace Descent

variable {α β : Type}

/-- The offset of the next element to look at, together with the deepest
mismatch among the alternatives that were given up so far. The mismatch never
decides how a run goes on; a later failure is merged into it. -/
structure Cursor where
  position : Nat
  furthest : Option Failure
deriving DecidableEq

namespace Cursor

def start : Cursor where
  position := 0
  furthest := none

instance : Inhabited Cursor := ⟨start⟩

def advance (cursor : Cursor) (count : Nat) : Except Fault Cursor :=
  (Word.add cursor.position count).map fun position =>
    { cursor with position := position }

/-- The failure of a parser that wanted `description` here. -/
def fail (cursor : Cursor) (description : String) : Failure :=
  .after cursor.furthest (.expecting cursor.position description)

/-- Remember `failure` as that of an alternative given up here. -/
def record (cursor : Cursor) (failure : Failure) : Cursor :=
  { cursor with furthest := some (.after cursor.furthest failure) }

theorem advance_eq_ok {cursor : Cursor} {count : Nat}
    (fits : cursor.position + count < Word.limit) :
    cursor.advance count =
      .ok { cursor with position := cursor.position + count } := by
  simp [advance, Word.add_eq_ok fits, Except.map]

theorem advance_eq_error {cursor : Cursor} {count : Nat}
    (exceeds : Word.limit ≤ cursor.position + count) :
    cursor.advance count = .error .additionOverflow := by
  simp [advance, Word.add_eq_error exceeds, Except.map]

@[simp] theorem position_record (cursor : Cursor) (failure : Failure) :
    (cursor.record failure).position = cursor.position := rfl

end Cursor

/-- A value that was read, and where the parser stood afterwards. -/
structure Match (α : Type) where
  value : α
  cursor : Cursor
deriving DecidableEq

namespace Match

def start : Match Unit where
  value := ()
  cursor := .start

/-- Put `value` in place of the value read and move on by `count` elements. -/
def update (found : Match α) (value : β) (count : Nat) :
    Except Fault (Match β) :=
  (found.cursor.advance count).map (Match.mk value)

def map (f : α → β) (found : Match α) : Match β where
  value := f found.value
  cursor := found.cursor

def take (found : Match α) : α × Match Unit :=
  (found.value, { value := (), cursor := found.cursor })

def record (found : Match α) (failure : Failure) : Match α :=
  { found with cursor := found.cursor.record failure }

theorem update_eq_ok {found : Match α} {count : Nat} (value : β)
    (fits : found.cursor.position + count < Word.limit) :
    found.update value count =
      .ok ⟨value, { found.cursor with
        position := found.cursor.position + count }⟩ := by
  rw [update, Cursor.advance_eq_ok fits]
  rfl

theorem update_eq_error {found : Match α} {count : Nat} (value : β)
    (exceeds : Word.limit ≤ found.cursor.position + count) :
    found.update value count = .error .additionOverflow := by
  rw [update, Cursor.advance_eq_error exceeds]
  rfl

end Match

inductive Outcome (α : Type) where
  | accepted (found : Match α)
  | rejected (failure : Failure)
deriving DecidableEq

namespace Outcome

def isAccepted : Outcome α → Bool
  | .accepted _ => true
  | .rejected _ => false

def isRejected (outcome : Outcome α) : Bool :=
  !outcome.isAccepted

def position : Outcome α → Nat
  | .accepted found => found.cursor.position
  | .rejected failure => failure.position

def value? : Outcome α → Option α
  | .accepted found => some found.value
  | .rejected _ => none

def failure? : Outcome α → Option Failure
  | .accepted _ => none
  | .rejected failure => some failure

/-- The match with its bookkeeping, or the failure that stands in its way. -/
def toResult : Outcome α → Except Failure (Match α)
  | .accepted found => .ok found
  | .rejected failure => .error failure

/-- The value alone, or the failure that stands in its way. -/
def toExcept (outcome : Outcome α) : Except Failure α :=
  outcome.toResult.map Match.value

end Outcome

/-- A run ends in an outcome unless a fault aborts it. -/
abbrev Run (α : Type) := Except Fault (Outcome α)

namespace Run

@[match_pattern] abbrev accept (value : α) (cursor : Cursor) : Run α :=
  .ok (.accepted ⟨value, cursor⟩)

@[match_pattern] abbrev reject (failure : Failure) : Run α :=
  .ok (.rejected failure)

@[match_pattern] abbrev abort (fault : Fault) : Run α :=
  .error fault

def consume (value : α) (cursor : Cursor) (count : Nat) : Run α :=
  match cursor.advance count with
  | .ok next => accept value next
  | .error fault => abort fault

theorem consume_eq_accept {cursor : Cursor} {count : Nat} (value : α)
    (fits : cursor.position + count < Word.limit) :
    consume value cursor count =
      accept value { cursor with position := cursor.position + count } := by
  rw [consume, Cursor.advance_eq_ok fits]

theorem consume_eq_abort {cursor : Cursor} {count : Nat} (value : α)
    (exceeds : Word.limit ≤ cursor.position + count) :
    consume value cursor count = abort .additionOverflow := by
  rw [consume, Cursor.advance_eq_error exceeds]

/-- Continue after a match; a mismatch and a fault stay as they are. -/
def andThen (run : Run α) (next : α → Cursor → Run β) : Run β :=
  match run with
  | accept value cursor => next value cursor
  | reject failure => reject failure
  | abort fault => abort fault

/-- Continue after a mismatch; a match and a fault stay as they are. -/
def recover (run : Run α) (next : Failure → Run α) : Run α :=
  match run with
  | accept value cursor => accept value cursor
  | reject failure => next failure
  | abort fault => abort fault

section Laws

variable {γ : Type}

@[simp] theorem andThen_accept (value : α) (cursor : Cursor)
    (next : α → Cursor → Run β) :
    andThen (accept value cursor) next = next value cursor := rfl

@[simp] theorem andThen_reject (failure : Failure)
    (next : α → Cursor → Run β) :
    andThen (reject failure) next = reject failure := rfl

@[simp] theorem andThen_abort (fault : Fault) (next : α → Cursor → Run β) :
    andThen (abort fault) next = abort fault := rfl

@[simp] theorem recover_accept (value : α) (cursor : Cursor)
    (next : Failure → Run α) :
    recover (accept value cursor) next = accept value cursor := rfl

@[simp] theorem recover_reject (failure : Failure) (next : Failure → Run α) :
    recover (reject failure) next = next failure := rfl

@[simp] theorem recover_abort (fault : Fault) (next : Failure → Run α) :
    recover (abort fault) next = abort fault := rfl

theorem andThen_assoc (run : Run α) (next : α → Cursor → Run β)
    (last : β → Cursor → Run γ) :
    andThen (andThen run next) last =
      andThen run fun value cursor => andThen (next value cursor) last := by
  match run with
  | accept _ _ => rfl
  | reject _ => rfl
  | abort _ => rfl

theorem recover_assoc (run : Run α) (next last : Failure → Run α) :
    recover (recover run next) last =
      recover run fun failure => recover (next failure) last := by
  match run with
  | accept _ _ => rfl
  | reject _ => rfl
  | abort _ => rfl

theorem andThen_accept_right (run : Run α) : andThen run accept = run := by
  match run with
  | accept _ _ => rfl
  | reject _ => rfl
  | abort _ => rfl

theorem recover_reject_right (run : Run α) : recover run reject = run := by
  match run with
  | accept _ _ => rfl
  | reject _ => rfl
  | abort _ => rfl

end Laws

end Run

end Descent
