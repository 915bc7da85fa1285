import Descent.NumberList
import Descent.Proofs.Lookahead

/-! Numerals of the sample language. A parser of numbers reads all the digits
ahead; it ends with the value they denote, or is aborted where that is no word.
A number is written as the shortest numeral that denotes it. -/

namespace Descent.NumberList

/-- One or more decimal digits. -/
structure Numeral where
  digits : List Char
  nonempty : digits ≠ []
  decimal : ∀ char ∈ digits, char.isDigit = true

def Numeral.value (numeral : Numeral) : Nat :=
  Nat.ofDigitChars 10 numeral.digits 0

/-! ## Appending digits -/

theorem digitValue_eq {char : Char} (digit : char.isDigit = true) :
    digitValue char = char.toNat - '0'.toNat :=
  if_pos digit

theorem digitValue_lt {char : Char} (digit : char.isDigit = true) :
    digitValue char < 10 := by
  have bounds := Char.isDigit_iff_toNat.mp digit
  have nine : '9'.toNat = '0'.toNat + 9 := rfl
  rw [digitValue_eq digit]
  omega

theorem ofDigitChars_cons {head : Char} (digit : head.isDigit = true)
    (tail : List Char) (total : Nat) :
    Nat.ofDigitChars 10 (head :: tail) total =
      Nat.ofDigitChars 10 tail (10 * total + digitValue head) := by
  rw [digitValue_eq digit]
  exact Nat.ofDigitChars_cons

theorem appendDigit_eq_ok_iff {total value : Nat} {char : Char} :
    appendDigit total char = .ok value ↔
      value = 10 * total + digitValue char ∧ value < Word.limit := by
  rw [appendDigit]
  rcases Nat.lt_or_ge (total * 10) Word.limit with fits | exceeds
  · rw [Word.multiply_eq_ok fits]
    rcases Nat.lt_or_ge (total * 10 + digitValue char) Word.limit with
      sumFits | sumExceeds
    · simp only [Word.add_eq_ok sumFits, Except.ok.injEq]
      omega
    · simp only [Word.add_eq_error sumExceeds, reduceCtorEq, false_iff]
      omega
  · simp only [Word.multiply_eq_error exceeds, reduceCtorEq, false_iff]
    omega

theorem le_ofDigitChars (digits : List Char) (total : Nat) :
    total ≤ Nat.ofDigitChars 10 digits total := by
  have shifted : total ≤ 10 ^ digits.length * total :=
    Nat.le_mul_of_pos_left total (Nat.pow_pos (by decide))
  rw [Nat.ofDigitChars_eq_ofDigitChars_zero]
  omega

/-- Digits are appended without a fault just if the numeral they end up as fits
in a word: on the way there it only grows. -/
theorem foldlM_appendDigit_eq_ok_iff {digits : List Char} {total value : Nat}
    (decimal : ∀ char ∈ digits, char.isDigit = true)
    (fits : total < Word.limit) :
    digits.foldlM appendDigit total = .ok value ↔
      value = Nat.ofDigitChars 10 digits total ∧ value < Word.limit := by
  induction digits generalizing total with
  | nil =>
      change Except.ok total = .ok value ↔ _
      rw [Except.ok.injEq, Nat.ofDigitChars_nil]
      omega
  | cons head tail induction =>
      have each := List.forall_mem_cons.mp decimal
      rw [List.foldlM_cons, ofDigitChars_cons each.1]
      match appended : appendDigit total head with
      | .ok next =>
          rcases appendDigit_eq_ok_iff.mp appended with ⟨rfl, nextFits⟩
          exact induction each.2 nextFits
      | .error fault =>
          have grown := le_ofDigitChars tail (10 * total + digitValue head)
          have exceeds : ¬ 10 * total + digitValue head < Word.limit := by
            intro nextFits
            rw [appendDigit_eq_ok_iff.mpr ⟨rfl, nextFits⟩] at appended
            cases appended
          constructor
          · intro failed
            cases failed
          · rintro ⟨reached, valueFits⟩
            omega

namespace Numeral

variable {numeral : Numeral}

theorem foldlM_appendDigit_of_lt (fits : numeral.value < Word.limit) :
    numeral.digits.foldlM appendDigit 0 = .ok numeral.value :=
  (foldlM_appendDigit_eq_ok_iff numeral.decimal (by decide)).mpr ⟨rfl, fits⟩

theorem foldlM_appendDigit_of_le (exceeds : Word.limit ≤ numeral.value) :
    ∃ fault, numeral.digits.foldlM appendDigit 0 = .error fault := by
  match folded : numeral.digits.foldlM appendDigit 0 with
  | .ok value =>
      rcases (foldlM_appendDigit_eq_ok_iff numeral.decimal (by decide)).mp
        folded with ⟨rfl, fits⟩
      exact absurd fits (Nat.not_lt.mpr exceeds)
  | .error fault => exact ⟨fault, rfl⟩

end Numeral

/-! ## Writing a number -/

theorem length_toDigits_succ_le (total : Nat) {digit : Nat}
    (small : digit < 10) :
    (Nat.toDigits 10 (10 * total + digit)).length ≤
      (Nat.toDigits 10 total).length + 1 := by
  rcases Nat.lt_or_ge (10 * total + digit) 10 with alone | more
  · rw [Nat.toDigits_of_lt_base alone]
    exact Nat.le_add_left 1 _
  · have front : (10 * total + digit) / 10 = total := by omega
    rw [Nat.toDigits_of_base_le (by decide) more, front, List.length_append]
    exact Nat.le_refl _

theorem length_toDigits_ofDigitChars_le {digits : List Char}
    (decimal : ∀ char ∈ digits, char.isDigit = true) (total : Nat) :
    (Nat.toDigits 10 (Nat.ofDigitChars 10 digits total)).length ≤
      (Nat.toDigits 10 total).length + digits.length := by
  induction digits generalizing total with
  | nil => exact Nat.le_refl _
  | cons head tail induction =>
      have each := List.forall_mem_cons.mp decimal
      have next := length_toDigits_succ_le total (digitValue_lt each.1)
      have others := induction each.2 (10 * total + digitValue head)
      rw [ofDigitChars_cons each.1, List.length_cons]
      omega

namespace Numeral

def ofNat (number : Nat) : Numeral where
  digits := Nat.toDigits 10 number
  nonempty := Nat.toDigits_ne_nil
  decimal _ member := Nat.isDigit_of_mem_toDigits (by decide) (by decide) member

@[simp] theorem value_ofNat (number : Nat) : (ofNat number).value = number :=
  Nat.ofDigitChars_ten_toDigits

/-- No numeral of the same value has fewer digits than the written one. -/
theorem length_ofNat_value_le (numeral : Numeral) :
    (ofNat numeral.value).digits.length ≤ numeral.digits.length := by
  obtain ⟨head, tail, split⟩ := List.exists_cons_of_ne_nil numeral.nonempty
  have decimal := numeral.decimal
  rw [split] at decimal
  have each := List.forall_mem_cons.mp decimal
  -- The first digit is a number of one digit, so the bound does not count it
  -- twice.
  have alone : (Nat.toDigits 10 (digitValue head)).length = 1 := by
    rw [Nat.toDigits_of_lt_base (digitValue_lt each.1)]
    rfl
  have bound := length_toDigits_ofDigitChars_le each.2 (digitValue head)
  have value : numeral.value = Nat.ofDigitChars 10 tail (digitValue head) := by
    rw [Numeral.value, split, ofDigitChars_cons each.1, Nat.mul_zero,
      Nat.zero_add]
  change (Nat.toDigits 10 numeral.value).length ≤ numeral.digits.length
  rw [value, split, List.length_cons]
  omega

end Numeral

/-! ## Reading a number -/

section Reading

variable {context : Context Char Unit} {start : Cursor} {numeral : Numeral}
  {rest : List Char}

/-- No digit is in front that would go on with a numeral. -/
def Stops (rest : List Char) : Prop :=
  ∀ char ∈ rest.head?, char.isDigit = false

theorem number_run_of_stops (ahead : context.Ahead start rest)
    (stops : Stops rest) :
    number.run start context = .reject (start.fail "digit") := by
  have missed := Parser.satisfy_run_of_not_ahead ahead stops "digit"
  rw [number,
    Parser.foldChecked_run_of_reject (.nil start) (by decide) rfl missed]
  exact if_pos (by decide)

theorem digit_trail (ahead : context.Ahead start (numeral.digits ++ rest))
    (short : context.length ≤ sizeLimit) :
    (Parser.satisfy Char.isDigit "digit").Trail context start numeral.digits
        (start.forward numeral.digits.length) ∧
      numeral.digits.length ≤ (CountRange.atLeast 1).limits.most := by
  constructor
  · exact Parser.satisfy_trail short numeral.decimal "digit" start ahead
  · have length := ahead.length_le short
    have most : (CountRange.atLeast 1).limits.most = sizeLimit := by decide
    rw [List.length_append] at length
    omega

theorem number_run_of_lt (ahead : context.Ahead start (numeral.digits ++ rest))
    (short : context.length ≤ sizeLimit) (stops : Stops rest)
    (fits : numeral.value < Word.limit) :
    number.run start context =
      .accept numeral.value (start.forward numeral.digits.length) := by
  rcases digit_trail ahead short with ⟨trail, within⟩
  have folded := Numeral.foldlM_appendDigit_of_lt fits
  rcases Nat.lt_or_eq_of_le within with room | count
  · have missed := Parser.satisfy_run_of_not_ahead ahead.forward stops "digit"
    have enough : ¬ numeral.digits.length <
        (CountRange.atLeast 1).limits.least := by
      have present := List.length_pos_iff.mpr numeral.nonempty
      have least : (CountRange.atLeast 1).limits.least = 1 := by decide
      omega
    rw [number, Parser.foldChecked_run_of_reject trail room folded missed,
      if_neg enough]
  · rw [number, Parser.foldChecked_run_of_full trail count folded]

theorem number_run_of_le (ahead : context.Ahead start (numeral.digits ++ rest))
    (short : context.length ≤ sizeLimit)
    (exceeds : Word.limit ≤ numeral.value) :
    ∃ fault, number.run start context = .abort fault := by
  rcases digit_trail ahead short with ⟨trail, within⟩
  rcases Numeral.foldlM_appendDigit_of_le exceeds with ⟨fault, folded⟩
  exact ⟨fault, Parser.foldChecked_run_of_error trail within folded⟩

end Reading

end Descent.NumberList
