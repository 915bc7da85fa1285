import Mathlib.Data.List.Basic
import Mathlib.Data.List.TakeWhile
import Mathlib.Data.Nat.Find
import Descent.Proofs.Bounds
import Descent.Proofs.Numerals

/-! Where a number outgrows the words. The sample parser reads all the digits
that a text begins with, and the number is exact as long as it is a word. The
first digit with which it is none aborts the run, and how large it is then tells
which of the two operations has failed: where ten times the number without that
digit is a word, it is the addition. -/

namespace Descent.NumberList

/-! ## The digit that is too much -/

def denoted (digits : List Char) : Nat :=
  Nat.ofDigitChars 10 digits 0

theorem Numeral.value_eq_denoted (numeral : Numeral) :
    numeral.value = denoted numeral.digits :=
  rfl

theorem denoted_append_single (digits : List Char) {char : Char}
    (digit : char.isDigit = true) :
    denoted (digits ++ [char]) = 10 * denoted digits + digitValue char := by
  rw [denoted, Nat.ofDigitChars_append, ofDigitChars_cons digit,
    Nat.ofDigitChars_nil]
  rfl

theorem denoted_le_of_prefix {front digits : List Char}
    (begins : front <+: digits) :
    denoted front ≤ denoted digits := by
  rcases begins with ⟨rest, rfl⟩
  rw [denoted, denoted, Nat.ofDigitChars_append]
  exact le_ofDigitChars rest _

/-- The fault of a number that has grown to `value`. Up to three above the first
number that is no word, ten times its front digits is one, and its last digit
cannot be added. -/
def faultAt (value : Nat) : Fault :=
  if value ≤ Word.limit + 3 then .additionOverflow else .multiplicationOverflow

theorem message_faultAt (value : Nat) :
    (faultAt value).message =
      if value ≤ Word.limit + 3 then "attempt to add with overflow"
      else "attempt to multiply with overflow" :=
  apply_ite Fault.message _ _ _

theorem appendDigit_eq_error {total : Nat} {char : Char}
    (digit : char.isDigit = true)
    (exceeds : Word.limit ≤ 10 * total + digitValue char) :
    appendDigit total char =
      .error (faultAt (10 * total + digitValue char)) := by
  -- The greatest word ends in 5, so ten times a number is a word up to 6 below
  -- the limit.
  have limit : Word.limit = 18446744073709551616 := rfl
  have small := digitValue_lt digit
  rw [appendDigit]
  rcases Nat.lt_or_ge (total * 10) Word.limit with fits | shiftExceeds
  · have sumExceeds : Word.limit ≤ total * 10 + digitValue char := by omega
    have near : 10 * total + digitValue char ≤ Word.limit + 3 := by omega
    rw [Word.multiply_eq_ok fits, faultAt, if_pos near]
    exact Word.add_eq_error sumExceeds
  · have far : ¬ 10 * total + digitValue char ≤ Word.limit + 3 := by omega
    rw [Word.multiply_eq_error shiftExceeds, faultAt, if_neg far]

/-! ## The shortest beginning that is too much -/

/-- The shortest beginning of the digits that denotes no word. -/
structure Outgrows (front digits : List Char) : Prop where
  begins : front <+: digits
  exceeds : Word.limit ≤ denoted front
  shortest : ∀ other, other <+: digits → Word.limit ≤ denoted other →
    front.length ≤ other.length

theorem exists_outgrows {digits : List Char}
    (exceeds : Word.limit ≤ denoted digits) :
    ∃ front, Outgrows front digits := by
  have reached : ∃ count, Word.limit ≤ denoted (digits.take count) :=
    ⟨digits.length, by rwa [List.take_length]⟩
  refine ⟨digits.take (Nat.find reached), List.take_prefix _ _,
    Nat.find_spec reached, ?_⟩
  intro other begins otherExceeds
  rw [List.prefix_iff_eq_take.mp begins] at otherExceeds
  exact Nat.le_trans (List.length_take_le _ _)
    (Nat.find_min' reached otherExceeds)

theorem outgrows_of_lt (before : List Char) (last : Char) (rest : List Char)
    (fits : denoted before < Word.limit)
    (exceeds : Word.limit ≤ denoted (before ++ [last])) :
    Outgrows (before ++ [last]) (before ++ last :: rest) where
  begins := by simp
  exceeds := exceeds
  shortest := by
    intro other begins otherExceeds
    rw [List.length_append, List.length_singleton]
    apply Nat.lt_of_not_le
    intro shorter
    have within : other <+: before :=
      List.prefix_of_prefix_length_le begins
        (List.prefix_append before _) shorter
    have below := denoted_le_of_prefix within
    omega

namespace Outgrows

variable {front digits : List Char}

theorem exists_last (outgrows : Outgrows front digits) :
    ∃ before last rest, front = before ++ [last] ∧
      digits = before ++ last :: rest ∧ denoted before < Word.limit := by
  rcases outgrows.begins with ⟨rest, split⟩
  rcases List.eq_nil_or_concat' front with rfl | ⟨before, last, rfl⟩
  · have nothing : denoted [] < Word.limit := by decide
    exact absurd outgrows.exceeds (Nat.not_le.mpr nothing)
  · refine ⟨before, last, rest, rfl, ?_, ?_⟩
    · rw [← split, List.append_assoc, List.singleton_append]
    · apply Nat.lt_of_not_le
      intro early
      have begins : before <+: digits :=
        (List.prefix_append before [last]).trans outgrows.begins
      have shorter := outgrows.shortest before begins early
      rw [List.length_append, List.length_singleton] at shorter
      omega

theorem foldlM_appendDigit (outgrows : Outgrows front digits)
    (decimal : ∀ char ∈ digits, char.isDigit = true) :
    digits.foldlM appendDigit 0 = .error (faultAt (denoted front)) := by
  rcases outgrows.exists_last with ⟨before, last, rest, rfl, rfl, fits⟩
  rcases List.forall_mem_append.mp decimal with ⟨front, others⟩
  have digit := (List.forall_mem_cons.mp others).1
  have read : before.foldlM appendDigit 0 = .ok (denoted before) :=
    (foldlM_appendDigit_eq_ok_iff front (by decide)).mpr ⟨rfl, fits⟩
  have exceeds := outgrows.exceeds
  rw [denoted_append_single before digit] at exceeds
  rw [denoted_append_single before digit, List.foldlM_append, read]
  change (last :: rest).foldlM appendDigit (denoted before) = _
  rw [List.foldlM_cons, appendDigit_eq_error digit exceeds]
  rfl

theorem digits_ne_nil (outgrows : Outgrows front digits) : digits ≠ [] := by
  rcases outgrows.exists_last with ⟨before, last, rest, _, rfl, _⟩
  simp

end Outgrows

theorem number_run_of_outgrows {context : Context Char Unit} {start : Cursor}
    {numeral : Numeral} {front rest : List Char}
    (ahead : context.Ahead start (numeral.digits ++ rest))
    (short : context.length ≤ sizeLimit)
    (outgrows : Outgrows front numeral.digits) :
    number.run start context = .abort (faultAt (denoted front)) := by
  rcases digit_trail ahead short with ⟨trail, within⟩
  have folded := outgrows.foldlM_appendDigit numeral.decimal
  exact Parser.foldChecked_run_of_error trail within folded

/-! ## Numbers at the start of a text -/

def leadingDigits (text : String) : List Char :=
  text.toList.takeWhile Char.isDigit

theorem isDigit_of_mem_leadingDigits {text : String} :
    ∀ char ∈ leadingDigits text, char.isDigit = true :=
  fun _ member => List.mem_takeWhile_imp member

theorem exists_append_leadingDigits (text : String) :
    ∃ rest, text.toList = leadingDigits text ++ rest ∧ Stops rest := by
  refine ⟨text.toList.dropWhile Char.isDigit,
    List.takeWhile_append_dropWhile.symm, ?_⟩
  intro char member
  have first := List.head?_dropWhile_not Char.isDigit text.toList
  rwa [Option.mem_def.mp member] at first

/-- A number at the start of a text is exact as long as it is a word. If it is
none, the run is aborted with the last digit of the shortest beginning that
denotes none, and how large that is tells by which operation. -/
theorem numbers_are_exact_up_to_words (text : String)
    (short : text.length ≤ sizeLimit) :
    ∃ run, number.parse (.ofText text) = .ok run ∧
      (leadingDigits text = [] → run = .reject (.expecting 0 "digit")) ∧
      (leadingDigits text ≠ [] → denoted (leadingDigits text) < Word.limit →
        run = .accept (denoted (leadingDigits text))
          ⟨(leadingDigits text).length, none⟩) ∧
      (Word.limit ≤ denoted (leadingDigits text) →
        ∃ front, Outgrows front (leadingDigits text)) ∧
      ∀ front, Outgrows front (leadingDigits text) →
        ∃ fault, run = .abort fault ∧
          fault.message =
            if denoted front ≤ Word.limit + 3 then
              "attempt to add with overflow"
            else "attempt to multiply with overflow" := by
  have shortInput : (Input.ofText text).length ≤ sizeLimit := by
    rwa [Input.length_ofText]
  have accepted : (Input.ofText text).check = .ok () :=
    (Input.ofList_lawful text.toList).check_eq_ok shortInput
  rcases exists_append_leadingDigits text with ⟨rest, split, stops⟩
  have ahead :
      Context.Ahead ⟨.ofText text, ()⟩ .start (leadingDigits text ++ rest) :=
    split ▸ Context.ahead_ofList text.toList ()
  refine ⟨number.run .start ⟨.ofText text, ()⟩,
    Parser.parseWith_eq_ok_iff.mpr ⟨accepted, rfl⟩, ?_, ?_, exists_outgrows, ?_⟩
  · intro nothing
    rw [nothing, List.nil_append] at ahead
    exact number_run_of_stops ahead stops
  · intro nonempty fits
    let numeral : Numeral :=
      ⟨leadingDigits text, nonempty, isDigit_of_mem_leadingDigits⟩
    change Context.Ahead _ _ (numeral.digits ++ rest) at ahead
    rw [number_run_of_lt ahead shortInput stops fits, Cursor.forward_start,
      numeral.value_eq_denoted]
  · intro front outgrows
    let numeral : Numeral :=
      ⟨leadingDigits text, outgrows.digits_ne_nil, isDigit_of_mem_leadingDigits⟩
    change Context.Ahead _ _ (numeral.digits ++ rest) at ahead
    exact ⟨_, number_run_of_outgrows ahead shortInput outgrows,
      message_faultAt _⟩

theorem zeros_in_front_do_not_count :
    number.parse (.ofText "007x") = .ok (.accept 7 ⟨3, none⟩) ∧
      Outgrows "018446744073709551619".toList
        (leadingDigits "0184467440737095516199,5") ∧
      number.parse (.ofText "0184467440737095516199,5") =
        .ok (.abort .additionOverflow) ∧
      Outgrows "18446744073709551620".toList
        (leadingDigits "18446744073709551620") ∧
      number.parse (.ofText "18446744073709551620") =
        .ok (.abort .multiplicationOverflow) := by
  have sum : Outgrows "018446744073709551619".toList
      (leadingDigits "0184467440737095516199,5") :=
    outgrows_of_lt "01844674407370955161".toList '9' ['9']
      (by decide) (by decide)
  have product : Outgrows "18446744073709551620".toList
      (leadingDigits "18446744073709551620") :=
    outgrows_of_lt "1844674407370955162".toList '0' [] (by decide) (by decide)
  rcases numbers_are_exact_up_to_words "007x" (by decide) with
    ⟨_, parsed, _, read, _⟩
  rcases numbers_are_exact_up_to_words "0184467440737095516199,5"
    (by decide) with ⟨_, sumParsed, _, _, _, sumCut⟩
  rcases numbers_are_exact_up_to_words "18446744073709551620" (by decide) with
    ⟨_, productParsed, _, _, _, productCut⟩
  refine ⟨?_, sum, ?_, product, ?_⟩
  · rw [parsed, read (by decide) (by decide)]
    rfl
  · rcases sumCut _ sum with ⟨fault, cut, message⟩
    rw [sumParsed, cut]
    cases fault
    · rfl
    · exact absurd message (by decide)
  · rcases productCut _ product with ⟨fault, cut, message⟩
    rw [productParsed, cut]
    cases fault
    · exact absurd message (by decide)
    · rfl

end Descent.NumberList
