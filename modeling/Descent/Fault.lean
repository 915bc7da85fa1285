/-! Arithmetic on 64-bit words. Offsets and the numbers of the sample language
are words; a sum or product that does not fit aborts the whole run. -/

namespace Descent

/-- Why a run was aborted: the result of an operation does not fit in a word. -/
inductive Fault where
  | additionOverflow
  | multiplicationOverflow
deriving DecidableEq, Repr, Inhabited

def Fault.message : Fault → String
  | .additionOverflow => "attempt to add with overflow"
  | .multiplicationOverflow => "attempt to multiply with overflow"

namespace Word

/-- The number of words: a result fits when it is below this. -/
def limit : Nat := UInt64.size

def add (left right : Nat) : Except Fault Nat :=
  if left + right < limit then .ok (left + right) else .error .additionOverflow

def multiply (left right : Nat) : Except Fault Nat :=
  if left * right < limit then .ok (left * right)
  else .error .multiplicationOverflow

theorem add_eq_ok {left right : Nat} (fits : left + right < limit) :
    add left right = .ok (left + right) :=
  if_pos fits

theorem add_eq_error {left right : Nat} (exceeds : limit ≤ left + right) :
    add left right = .error .additionOverflow :=
  if_neg (Nat.not_lt.mpr exceeds)

theorem multiply_eq_ok {left right : Nat} (fits : left * right < limit) :
    multiply left right = .ok (left * right) :=
  if_pos fits

theorem multiply_eq_error {left right : Nat} (exceeds : limit ≤ left * right) :
    multiply left right = .error .multiplicationOverflow :=
  if_neg (Nat.not_lt.mpr exceeds)

example : add 18446744073709551614 1 = .ok 18446744073709551615 := rfl
example : add 18446744073709551615 1 = .error .additionOverflow := rfl
example : multiply 4294967296 4294967296 = .error .multiplicationOverflow := rfl

end Word

end Descent
