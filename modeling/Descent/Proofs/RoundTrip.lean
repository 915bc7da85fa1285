import Descent.NumberList
import Descent.Proofs.NumberLists

/-! What the command prints, it reads. Numbers that are written with a comma
between them are read back as they are. Any other spelling that is read becomes
this one when the output is read again, and then stays as it is. -/

namespace Descent

namespace NumberList

/-! ## Which texts are read -/

section Reading

variable {text : String} {numbers : List Nat}

theorem check_ofText_eq_ok_iff :
    (Input.ofText text).check = .ok () ↔ text.length ≤ sizeLimit := by
  rw [← Input.length_ofText]
  constructor
  · intro accepted
    exact (Input.check_eq_ok_iff.mp accepted).1
  · exact (Input.ofList_lawful text.toList).check_eq_ok

theorem exists_numerals_of_accept {stop : Cursor}
    (short : text.length ≤ sizeLimit)
    (matched : numberList.run .start ⟨.ofText text, ()⟩ =
      .accept numbers stop) :
    ∃ numerals : Numerals, numerals.text = text.toList ∧
      (∀ numeral ∈ numerals.all, numeral.value < Word.limit) ∧
        numerals.all.map Numeral.value = numbers := by
  rw [← Input.length_ofText] at short
  have ahead : Context.Ahead ⟨.ofText text, ()⟩ .start text.toList :=
    Context.ahead_ofList text.toList ()
  by_cases begins : ∃ numerals : Numerals, numerals.text <+: text.toList
  · rcases begins with ⟨_, begins⟩
    rcases Numerals.exists_longestIn begins with ⟨numerals, longest⟩
    rcases longest.begins with ⟨rest, split⟩
    have ends : Ends rest := Numerals.LongestIn.ends (split ▸ longest)
    rw [← split] at ahead
    -- Only where all of them denote words and nothing follows does the parser
    -- match.
    by_cases fits : ∀ numeral ∈ numerals.all, numeral.value < Word.limit
    · rw [numberList_run_of_lt ahead short ends fits] at matched
      split at matched
      case isTrue nothing =>
        cases matched
        rw [nothing, List.append_nil] at split
        exact ⟨numerals, split, fits, rfl⟩
      case isFalse => cases matched
    · have exceeds : ∃ numeral ∈ numerals.all, Word.limit ≤ numeral.value := by
        simpa using fits
      rcases numberList_run_of_le ahead short ends exceeds with ⟨fault, cut⟩
      rw [cut] at matched
      cases matched
  · have stops := stops_of_no_numerals fun numerals begun =>
      begins ⟨numerals, begun⟩
    rw [numberList_run_of_stops ahead stops] at matched
    cases matched

/-- A text is read as these numbers just if it is not too long and is a list of
numerals that denote them, all of them words. -/
theorem exists_parse_accept_iff :
    (∃ stop, numberList.parse (.ofText text) = .ok (.accept numbers stop)) ↔
      text.length ≤ sizeLimit ∧ ∃ numerals : Numerals,
        numerals.text = text.toList ∧
        (∀ numeral ∈ numerals.all, numeral.value < Word.limit) ∧
          numerals.all.map Numeral.value = numbers := by
  simp only [Parser.parse, Parser.parseWith_eq_ok_iff, check_ofText_eq_ok_iff]
  constructor
  · intro read
    rcases read with ⟨stop, short, matched⟩
    exact ⟨short, exists_numerals_of_accept short matched⟩
  · intro listed
    rcases listed with ⟨short, numerals, whole, fits, rfl⟩
    have ahead :
        Context.Ahead ⟨.ofText text, ()⟩ .start (numerals.text ++ []) := by
      rw [List.append_nil, whole]
      exact Context.ahead_ofList text.toList ()
    have shortInput : (Input.ofText text).length ≤ sizeLimit := by
      rwa [Input.length_ofText]
    exact ⟨_, short, numberList_run_of_lt ahead shortInput .nil fits⟩

end Reading

/-! ## How numbers are written -/

def joined (numbers : List Nat) : String :=
  ",".intercalate (numbers.map toString)

def isBare (char : Char) : Bool :=
  char ∉ ['[', ']', ' ', '\n']

/-- The text without brackets, spaces and ends of lines. -/
def bare (text : String) : String :=
  .ofList (text.toList.filter isBare)

def Numerals.ofNumbers (first : Nat) (further : List Nat) : Numerals where
  first := .ofNat first
  further := further.map .ofNat

private theorem intercalate_cons (separator first : List Char)
    (further : List (List Char)) :
    separator.intercalate (first :: further) =
      first ++ further.flatMap (separator ++ ·) := by
  induction further generalizing first with
  | nil => simp
  | cons head tail induction =>
      rw [List.intercalate_cons_cons, induction, List.flatMap_cons]
      simp only [List.append_assoc]

theorem toList_intercalate_toString (separator : String) (first : Nat)
    (further : List Nat) :
    (separator.intercalate ((first :: further).map toString)).toList =
      (Numeral.ofNat first).digits ++
        further.flatMap fun number =>
          separator.toList ++ (Numeral.ofNat number).digits := by
  have written : ∀ number : Nat,
      (toString number).toList = (Numeral.ofNat number).digits := by
    intro number
    exact Nat.toList_repr
  simp only [String.toList_intercalate, List.map_cons, intercalate_cons,
    List.map_map, List.flatMap_map, Function.comp_apply, written]

theorem toList_joined_cons (first : Nat) (further : List Nat) :
    (joined (first :: further)).toList =
      (Numerals.ofNumbers first further).text := by
  rw [joined, toList_intercalate_toString, Numerals.text, writtenAfter]
  simp [Numerals.ofNumbers, List.flatMap_map]

theorem isBare_of_isDigit {char : Char} (digit : char.isDigit = true) :
    isBare char = true := by
  apply decide_eq_true
  intro removed
  simp only [List.mem_cons, List.not_mem_nil, or_false] at removed
  rcases removed with rfl | rfl | rfl | rfl <;> cases digit

theorem filter_isBare_digits (numeral : Numeral) :
    numeral.digits.filter isBare = numeral.digits :=
  List.filter_eq_self.mpr fun char member =>
    isBare_of_isDigit (numeral.decimal char member)

theorem bare_render_cons (first : Nat) (further : List Nat) :
    bare (render (first :: further) ++ "\n") = joined (first :: further) := by
  have opening : "[".toList.filter isBare = [] := rfl
  have closing : "]".toList.filter isBare = [] := rfl
  have line : "\n".toList.filter isBare = [] := rfl
  have comma : ", ".toList.filter isBare = ",".toList := rfl
  apply String.toList_inj.mp
  rw [bare, String.toList_ofList, render, joined]
  simp only [String.toList_append, toList_intercalate_toString,
    List.filter_append, List.filter_flatMap, filter_isBare_digits, opening,
    closing, line, comma, List.nil_append, List.append_nil]

theorem all_ofNumbers_value (first : Nat) (further : List Nat) :
    (Numerals.ofNumbers first further).all.map Numeral.value =
      first :: further := by
  simp [Numerals.all, Numerals.ofNumbers, Function.comp_def]

theorem length_writtenAfter_values_le (further : List Numeral) :
    (writtenAfter (further.map fun numeral => .ofNat numeral.value)).length ≤
      (writtenAfter further).length := by
  induction further with
  | nil => exact Nat.le_refl _
  | cons head tail induction =>
      have shorter := head.length_ofNat_value_le
      rw [List.map_cons, length_writtenAfter_cons, length_writtenAfter_cons]
      omega

theorem length_joined_values_le (numerals : Numerals) :
    (joined (numerals.all.map Numeral.value)).length ≤
      numerals.text.length := by
  have first := numerals.first.length_ofNat_value_le
  have further := length_writtenAfter_values_le numerals.further
  rw [← String.length_toList, Numerals.all, List.map_cons, toList_joined_cons,
    Numerals.text, Numerals.text, List.length_append, List.length_append]
  simp only [Numerals.ofNumbers, List.map_map, Function.comp_def]
  omega

end NumberList

namespace Command

open NumberList

theorem exitCode_report_eq_zero_iff
    {parsed : Except InvalidInput (Run (List Nat))} :
    (report parsed).exitCode = 0 ↔
      ∃ numbers stop, parsed = .ok (.accept numbers stop) := by
  match parsed with
  | .ok (.accept numbers stop) => simp [report]
  | .ok (.reject failure) => simp [report]
  | .ok (.abort fault) => simp [report]
  | .error invalid => simp [report]

theorem run_joined_cons {first : Nat} {others : List Nat}
    (fits : ∀ number ∈ first :: others, number < Word.limit)
    (short : (joined (first :: others)).length ≤ sizeLimit)
    (further : List String) :
    run (joined (first :: others) :: further) =
      { exitCode := 0
        output := render (first :: others) ++ "\n"
        diagnostics := "" } := by
  have fitting : ∀ numeral ∈ (Numerals.ofNumbers first others).all,
      numeral.value < Word.limit := by
    intro numeral member
    apply fits
    rw [← all_ofNumbers_value first others]
    exact List.mem_map_of_mem member
  have read := exists_parse_accept_iff.mpr ⟨short, .ofNumbers first others,
    (toList_joined_cons first others).symm, fitting,
    all_ofNumbers_value first others⟩
  rcases read with ⟨stop, parsed⟩
  rw [run, List.headD_cons, parsed]
  rfl

/-- The command and its output are a round trip: words with a comma between them
are printed as they are, and what was printed is read again once the brackets
and the spaces are taken away. -/
theorem printed_lists_are_read_back :
    (∀ numbers : List Nat, numbers ≠ [] →
      (∀ number ∈ numbers, number < Word.limit) →
      (joined numbers).length ≤ sizeLimit → ∀ further : List String,
        run (joined numbers :: further) =
          { exitCode := 0
            output := render numbers ++ "\n"
            diagnostics := "" }) ∧
      ∀ arguments : List String, (run arguments).exitCode = 0 →
        ∀ further : List String,
          run (bare (run arguments).output :: further) = run arguments := by
  constructor
  · intro numbers nonempty fits short further
    obtain ⟨first, others, rfl⟩ := List.exists_cons_of_ne_nil nonempty
    exact run_joined_cons fits short further
  · intro arguments ended further
    rcases exitCode_report_eq_zero_iff.mp ended with ⟨numbers, stop, parsed⟩
    rcases exists_parse_accept_iff.mp ⟨stop, parsed⟩ with
      ⟨shortText, numerals, whole, fitting, rfl⟩
    have printed : run arguments =
        { exitCode := 0
          output := render (numerals.all.map Numeral.value) ++ "\n"
          diagnostics := "" } := by
      rw [run, parsed]
      rfl
    have fits : ∀ number ∈ numerals.all.map Numeral.value,
        number < Word.limit := by
      intro number member
      rcases List.mem_map.mp member with ⟨numeral, among, rfl⟩
      exact fitting numeral among
    have short : (joined (numerals.all.map Numeral.value)).length ≤
        sizeLimit := by
      have shorter := length_joined_values_le numerals
      rw [whole, String.length_toList] at shorter
      exact Nat.le_trans shorter shortText
    rw [printed, Numerals.all, List.map_cons, bare_render_cons]
    exact run_joined_cons fits short further

theorem greatest_word_is_read_back :
    run ["18446744073709551615,7", "8"] =
        ⟨0, "[18446744073709551615, 7]\n", ""⟩ ∧
      run ["007,12"] = ⟨0, "[7, 12]\n", ""⟩ ∧
      run ["7,12"] = run ["007,12"] := by
  have padded : run ["007,12"] = ⟨0, "[7, 12]\n", ""⟩ := by decide +kernel
  refine ⟨?_, padded, ?_⟩
  · have written : joined [18446744073709551615, 7] =
        "18446744073709551615,7" := by
      decide +kernel
    have read := printed_lists_are_read_back.1 [18446744073709551615, 7]
      (by simp) (by decide) (by rw [written]; decide) ["8"]
    rw [written] at read
    exact read
  · have again := printed_lists_are_read_back.2 ["007,12"] (by rw [padded]) []
    rw [padded] at again ⊢
    exact again

end Command

end Descent
