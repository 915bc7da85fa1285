import Mathlib.Data.List.Basic
import Descent.Proofs.Bounds
import Descent.Proofs.Numerals

/-! Lists of numbers. The sample parser reads the longest beginning of a text
that is a list of numerals. It is aborted if one of them denotes no word, and
else it matches if nothing else follows in the text. -/

namespace Descent.NumberList

/-! ## Lists of numerals -/

/-- A numeral and further ones after it. -/
structure Numerals where
  first : Numeral
  further : List Numeral

def writtenAfter (further : List Numeral) : List Char :=
  further.flatMap fun numeral => ',' :: numeral.digits

theorem writtenAfter_cons_append (head : Numeral) (tail : List Numeral)
    (rest : List Char) :
    writtenAfter (head :: tail) ++ rest =
      ',' :: (head.digits ++ (writtenAfter tail ++ rest)) := by
  simp [writtenAfter]

theorem length_writtenAfter_cons (head : Numeral) (tail : List Numeral) :
    (writtenAfter (head :: tail)).length =
      1 + head.digits.length + (writtenAfter tail).length := by
  simp only [writtenAfter, List.flatMap_cons, List.length_append,
    List.length_cons]
  omega

theorem length_le_writtenAfter (further : List Numeral) :
    further.length ≤ (writtenAfter further).length :=
  length_le_length_flatMap (fun _ => List.cons_ne_nil _ _) further

namespace Numerals

def all (numerals : Numerals) : List Numeral :=
  numerals.first :: numerals.further

def text (numerals : Numerals) : List Char :=
  numerals.first.digits ++ writtenAfter numerals.further

/-- The text begins with these numerals, and with no list of numerals that is
longer. -/
structure LongestIn (numerals : Numerals) (text : List Char) : Prop where
  begins : numerals.text <+: text
  longest : ∀ other : Numerals, other.text <+: text →
    other.text.length ≤ numerals.text.length

theorem exists_longestIn {numerals : Numerals} {text : List Char}
    (begins : numerals.text <+: text) :
    ∃ longest : Numerals, longest.LongestIn text := by
  by_cases more : ∃ other : Numerals, other.text <+: text ∧
      numerals.text.length < other.text.length
  · rcases more with ⟨other, otherBegins, longer⟩
    have within := otherBegins.length_le
    exact exists_longestIn otherBegins
  · refine ⟨numerals, begins, ?_⟩
    intro other otherBegins
    exact Nat.le_of_not_lt fun longer => more ⟨other, otherBegins, longer⟩
termination_by text.length - numerals.text.length

end Numerals

/-- What cannot go on with a list of numerals: no digit is in front, and none
behind a comma. -/
structure Ends (rest : List Char) : Prop where
  stops : Stops rest
  noFurther : ∀ others, rest = ',' :: others → Stops others

theorem Ends.nil : Ends [] where
  stops := by
    intro char member
    cases member
  noFurther := by
    intro others begins
    cases begins

namespace Numerals

theorem exists_append_digit (numerals : Numerals) {char : Char}
    (digit : char.isDigit = true) :
    ∃ other : Numerals, other.text = numerals.text ++ [char] := by
  have longer : ∀ numeral : Numeral,
      ∃ other : Numeral, other.digits = numeral.digits ++ [char] := by
    intro numeral
    refine ⟨⟨numeral.digits ++ [char], by simp, ?_⟩, rfl⟩
    intro other member
    rcases List.mem_append.mp member with before | last
    · exact numeral.decimal other before
    · rwa [List.mem_singleton.mp last]
  rcases numerals with ⟨first, further⟩
  rcases List.eq_nil_or_concat further with rfl | ⟨front, last, rfl⟩
  · rcases longer first with ⟨other, extended⟩
    exact ⟨⟨other, []⟩, by simp [text, writtenAfter, extended]⟩
  · rcases longer last with ⟨other, extended⟩
    exact ⟨⟨first, front ++ [other]⟩, by simp [text, writtenAfter, extended]⟩

theorem exists_append_further (numerals : Numerals) {char : Char}
    (digit : char.isDigit = true) :
    ∃ other : Numerals, other.text = numerals.text ++ [',', char] := by
  refine ⟨⟨numerals.first,
    numerals.further ++ [⟨[char], by simp, by simpa using digit⟩]⟩, ?_⟩
  simp [text, writtenAfter]

theorem LongestIn.ends {numerals : Numerals} {rest : List Char}
    (longest : numerals.LongestIn (numerals.text ++ rest)) : Ends rest := by
  -- Any more of a list of numerals would make up a longer one.
  have noLonger : ∀ (other : Numerals) (more others : List Char), more ≠ [] →
      other.text = numerals.text ++ more → rest ≠ more ++ others := by
    rintro other more others present extended rfl
    have shorter := longest.longest other (by rw [extended]; simp)
    have length := List.length_pos_iff.mpr present
    rw [extended, List.length_append] at shorter
    omega
  constructor
  · intro char member
    rcases List.head?_eq_some_iff.mp member with ⟨others, split⟩
    apply Bool.eq_false_iff.mpr
    intro digit
    rcases numerals.exists_append_digit digit with ⟨other, extended⟩
    exact noLonger other [char] others (by simp) extended split
  · rintro _ rfl char member
    rcases List.head?_eq_some_iff.mp member with ⟨others, rfl⟩
    apply Bool.eq_false_iff.mpr
    intro digit
    rcases numerals.exists_append_further digit with ⟨other, extended⟩
    exact noLonger other [',', char] others (by simp) extended rfl

end Numerals

/-! ## Reading further numbers -/

section Reading

variable {context : Context Char Unit} {start : Cursor} {rest : List Char}

def nextNumber : Parser Char Unit Nat :=
  Parser.element ',' *> number

theorem nextNumber_run_of_comma (ahead : context.Ahead start (',' :: rest))
    (short : context.length ≤ sizeLimit) :
    nextNumber.run start context = number.run (start.forward 1) context := by
  have comma : (Parser.element ',' : Parser Char Unit Char).run start context =
      .accept ',' (start.forward 1) :=
    Parser.satisfy_run_of_ahead ahead short (by decide) (describe ',')
  simp only [nextNumber, Parser.seqRight_eq, Parser.keepRight, comma,
    Run.andThen_accept]

theorem nextNumber_run_of_lt {numeral : Numeral}
    (ahead : context.Ahead start (',' :: (numeral.digits ++ rest)))
    (short : context.length ≤ sizeLimit) (stops : Stops rest)
    (fits : numeral.value < Word.limit) :
    nextNumber.run start context =
      .accept numeral.value (start.forward (1 + numeral.digits.length)) := by
  rw [nextNumber_run_of_comma ahead short,
    number_run_of_lt ahead.step short stops fits, Cursor.forward_forward]

theorem nextNumber_fails_of_ends (ahead : context.Ahead start rest)
    (short : context.length ≤ sizeLimit) (ends : Ends rest) :
    nextNumber.Fails start context := by
  by_cases comma : ∃ others, rest = ',' :: others
  · rcases comma with ⟨others, rfl⟩
    have missed := number_run_of_stops ahead.step (ends.noFurther others rfl)
    exact ⟨_, (nextNumber_run_of_comma ahead short).trans missed⟩
  · have missing : ∀ item ∈ rest.head?, decide (item = ',') = false := by
      intro item member
      rcases List.head?_eq_some_iff.mp member with ⟨others, split⟩
      apply decide_eq_false
      rintro rfl
      exact comma ⟨others, split⟩
    have missed := Parser.satisfy_run_of_not_ahead ahead missing (describe ',')
    refine ⟨start.fail (describe ','), ?_⟩
    simp only [nextNumber, Parser.seqRight_eq, Parser.keepRight, Parser.element,
      missed, Run.andThen_reject]

theorem stops_writtenAfter (further : List Numeral) (ends : Ends rest) :
    Stops (writtenAfter further ++ rest) := by
  cases further with
  | nil => exact ends.stops
  | cons head tail =>
      rintro char ⟨⟩
      decide

theorem nextNumber_trail (short : context.length ≤ sizeLimit) (ends : Ends rest)
    {further : List Numeral}
    (fits : ∀ numeral ∈ further, numeral.value < Word.limit) :
    ∀ start, context.Ahead start (writtenAfter further ++ rest) →
      nextNumber.Trail context start (further.map Numeral.value)
        (start.forward (writtenAfter further).length) := by
  apply Parser.trail_of_written
  intro numeral member others start ahead
  rw [List.length_cons, Nat.add_comm]
  exact nextNumber_run_of_lt ahead short (stops_writtenAfter others ends)
    (fits numeral member)

theorem exists_nextNumber_abort (short : context.length ≤ sizeLimit)
    (ends : Ends rest) {further : List Numeral}
    (exceeds : ∃ numeral ∈ further, Word.limit ≤ numeral.value) :
    ∀ start, context.Ahead start (writtenAfter further ++ rest) →
      ∃ values stop fault, nextNumber.Trail context start values stop ∧
        values.length < further.length ∧
        nextNumber.run stop context = .abort fault := by
  induction further with
  | nil =>
      rcases exceeds with ⟨_, member, _⟩
      cases member
  | cons head tail induction =>
      intro start ahead
      rw [writtenAfter_cons_append] at ahead
      rcases Nat.lt_or_ge head.value Word.limit with headFits | headExceeds
      · have tailExceeds : ∃ numeral ∈ tail, Word.limit ≤ numeral.value :=
          (List.or_exists_of_exists_mem_cons exceeds).resolve_left
            (Nat.not_le.mpr headFits)
        have read := nextNumber_run_of_lt ahead short
          (stops_writtenAfter tail ends) headFits
        have behind := ahead.step.forward
        rw [Cursor.forward_forward] at behind
        rcases induction tailExceeds _ behind with
          ⟨values, stop, fault, trail, fewer, cut⟩
        exact ⟨_, stop, fault, .cons read trail, Nat.succ_lt_succ fewer, cut⟩
      · rcases number_run_of_le ahead.step short headExceeds with ⟨fault, cut⟩
        exact ⟨[], start, fault, .nil start, Nat.succ_pos _,
          (nextNumber_run_of_comma ahead short).trans cut⟩

/-! ## Reading a list -/

theorem length_le_most {further : List Numeral}
    (ahead : context.Ahead start (writtenAfter further ++ rest))
    (short : context.length ≤ sizeLimit) :
    further.length ≤ CountRange.any.limits.most := by
  have within := length_le_writtenAfter further
  have length := ahead.length_le short
  have most : CountRange.any.limits.most = sizeLimit := by decide
  rw [List.length_append] at length
  omega

theorem furtherNumbers_run_of_lt {further : List Numeral}
    (ahead : context.Ahead start (writtenAfter further ++ rest))
    (short : context.length ≤ sizeLimit) (ends : Ends rest)
    (fits : ∀ numeral ∈ further, numeral.value < Word.limit) :
    furtherNumbers.run start context =
      .accept (further.map Numeral.value)
        (start.forward (writtenAfter further).length) := by
  apply Parser.many_run_of_fails (nextNumber_trail short ends fits start ahead)
  · rw [List.length_map]
    exact length_le_most ahead short
  · exact Nat.zero_le _
  · exact nextNumber_fails_of_ends ahead.forward short ends

theorem furtherNumbers_run_of_le {further : List Numeral}
    (ahead : context.Ahead start (writtenAfter further ++ rest))
    (short : context.length ≤ sizeLimit) (ends : Ends rest)
    (exceeds : ∃ numeral ∈ further, Word.limit ≤ numeral.value) :
    ∃ fault, furtherNumbers.run start context = .abort fault := by
  rcases exists_nextNumber_abort short ends exceeds start ahead with
    ⟨values, stop, fault, trail, fewer, cut⟩
  have room := Nat.lt_of_lt_of_le fewer (length_le_most ahead short)
  exact ⟨fault, Parser.many_run_of_abort trail room cut⟩

theorem numberList_run (start : Cursor) (context : Context Char Unit) :
    numberList.run start context =
      (number.run start context).andThen fun head reached =>
        (furtherNumbers.run reached context).andThen fun others stop =>
          (Parser.endOfInput.run stop context).andThen fun _ last =>
            .accept (head :: others) last := by
  simp only [numberList, Parser.seqLeft_eq, Parser.hAdd_eq, Parser.keepLeft,
    Parser.map, Parser.pair, Run.andThen_assoc, Run.andThen_accept]

theorem numberList_run_of_stops (ahead : context.Ahead start rest)
    (stops : Stops rest) :
    numberList.run start context = .reject (start.fail "digit") := by
  rw [numberList_run, number_run_of_stops ahead stops, Run.andThen_reject]

variable {numerals : Numerals}

theorem numberList_run_of_lt
    (ahead : context.Ahead start (numerals.text ++ rest))
    (short : context.length ≤ sizeLimit) (ends : Ends rest)
    (fits : ∀ numeral ∈ numerals.all, numeral.value < Word.limit) :
    numberList.run start context =
      if rest = [] then
        .accept (numerals.all.map Numeral.value)
          (start.forward numerals.text.length)
      else
        .reject
          ((start.forward numerals.text.length).fail "end of input") := by
  have each := List.forall_mem_cons.mp fits
  have behind := ahead.forward
  rw [Numerals.text, List.append_assoc] at ahead
  have head := number_run_of_lt ahead short
    (stops_writtenAfter numerals.further ends) each.1
  have others := furtherNumbers_run_of_lt ahead.forward short ends each.2
  rw [Cursor.forward_forward, ← List.length_append, ← Numerals.text] at others
  rw [numberList_run, head, Run.andThen_accept, others, Run.andThen_accept]
  split
  case isTrue nothing =>
    subst nothing
    rw [Parser.endOfInput_run_of_ahead_nil behind, Run.andThen_accept]
    rfl
  case isFalse more =>
    rw [Parser.endOfInput_run_of_ahead behind more, Run.andThen_reject]

theorem numberList_run_of_le
    (ahead : context.Ahead start (numerals.text ++ rest))
    (short : context.length ≤ sizeLimit) (ends : Ends rest)
    (exceeds : ∃ numeral ∈ numerals.all, Word.limit ≤ numeral.value) :
    ∃ fault, numberList.run start context = .abort fault := by
  rw [Numerals.text, List.append_assoc] at ahead
  rcases Nat.lt_or_ge numerals.first.value Word.limit with
    firstFits | firstExceeds
  · have furtherExceeds : ∃ numeral ∈ numerals.further,
        Word.limit ≤ numeral.value :=
      (List.or_exists_of_exists_mem_cons exceeds).resolve_left
        (Nat.not_le.mpr firstFits)
    have head := number_run_of_lt ahead short
      (stops_writtenAfter numerals.further ends) firstFits
    rcases furtherNumbers_run_of_le ahead.forward short ends furtherExceeds with
      ⟨fault, cut⟩
    refine ⟨fault, ?_⟩
    rw [numberList_run, head, Run.andThen_accept, cut, Run.andThen_abort]
  · rcases number_run_of_le ahead short firstExceeds with ⟨fault, cut⟩
    refine ⟨fault, ?_⟩
    rw [numberList_run, cut, Run.andThen_abort]

end Reading

theorem stops_of_no_numerals {text : List Char}
    (none : ∀ numerals : Numerals, ¬ numerals.text <+: text) : Stops text := by
  intro char member
  rcases List.head?_eq_some_iff.mp member with ⟨others, rfl⟩
  apply Bool.eq_false_iff.mpr
  intro digit
  apply none ⟨⟨[char], by simp, by simpa using digit⟩, []⟩
  simp [Numerals.text, writtenAfter]

/-- The sample parser decides its language. It reads the longest list of
numerals that the text begins with, is aborted if one of them denotes no word,
and fails right behind them if something else follows. -/
theorem number_lists_are_decided (text : String)
    (short : text.length ≤ sizeLimit) :
    ∃ run, numberList.parse (.ofText text) = .ok run ∧
      ((∀ numerals : Numerals, ¬ numerals.text <+: text.toList) →
        run = .reject (.expecting 0 "digit")) ∧
      ((∃ numerals : Numerals, numerals.text <+: text.toList) →
        ∃ numerals : Numerals, numerals.LongestIn text.toList) ∧
      ∀ numerals : Numerals, numerals.LongestIn text.toList →
        ((∃ numeral ∈ numerals.all, Word.limit ≤ numeral.value) →
          ∃ fault, run = .abort fault) ∧
        ((∀ numeral ∈ numerals.all, numeral.value < Word.limit) →
          (numerals.text = text.toList →
            run = .accept (numerals.all.map Numeral.value)
              ⟨text.length, none⟩) ∧
          (numerals.text ≠ text.toList →
            run = .reject
              (.expecting numerals.text.length "end of input"))) := by
  have shortInput : (Input.ofText text).length ≤ sizeLimit := by
    rw [Input.ofText, Input.length_ofList, String.length_toList]
    exact short
  have accepted : (Input.ofText text).check = .ok () :=
    (Input.ofList_lawful text.toList).check_eq_ok shortInput
  refine ⟨numberList.run .start ⟨.ofText text, ()⟩, ?_, ?_, ?_, ?_⟩
  · rw [Parser.parse, Parser.parseWith, accepted]
  · intro none
    exact numberList_run_of_stops (Context.ahead_ofList text.toList ())
      (stops_of_no_numerals none)
  · rintro ⟨numerals, begins⟩
    exact Numerals.exists_longestIn begins
  · intro numerals longest
    rcases longest.begins with ⟨rest, split⟩
    have whole : numerals.text = text.toList ↔ rest = [] := by
      rw [← split, List.self_eq_append_right]
    have length : text.length = numerals.text.length + rest.length := by
      rw [← String.length_toList, ← split, List.length_append]
    have ahead :
        Context.Ahead ⟨.ofText text, ()⟩ .start (numerals.text ++ rest) :=
      split ▸ Context.ahead_ofList text.toList ()
    have ends : Ends rest := Numerals.LongestIn.ends (split ▸ longest)
    refine ⟨numberList_run_of_le ahead shortInput ends, ?_⟩
    intro fits
    rw [Ne, whole, numberList_run_of_lt ahead shortInput ends fits,
      Cursor.forward_start]
    constructor
    · intro nothing
      rw [if_pos nothing, length, nothing, List.length_nil, Nat.add_zero]
    · intro more
      rw [if_neg more]
      rfl

theorem whole_texts_are_decided :
    let two : Numerals :=
      ⟨⟨"12".toList, by decide, by simp⟩, [⟨"05".toList, by decide, by simp⟩]⟩
    let large : Numerals :=
      ⟨⟨"18446744073709551616".toList, by decide, by simp⟩,
        [⟨['5'], by decide, by simp⟩]⟩
    two.LongestIn "12,05".toList ∧
      large.LongestIn "18446744073709551616,5".toList ∧
      numberList.parse (.ofText "12,05") = .ok (.accept [12, 5] ⟨5, none⟩) ∧
      ∃ fault, numberList.parse (.ofText "18446744073709551616,5") =
        .ok (.abort fault) := by
  intro two large
  have twoLongest : two.LongestIn "12,05".toList :=
    ⟨List.prefix_refl _, fun _ begins => begins.length_le⟩
  have largeLongest : large.LongestIn "18446744073709551616,5".toList :=
    ⟨List.prefix_refl _, fun _ begins => begins.length_le⟩
  rcases number_lists_are_decided "12,05" (by decide) with
    ⟨_, parsed, _, _, decided⟩
  rcases number_lists_are_decided "18446744073709551616,5" (by decide) with
    ⟨_, largeParsed, _, _, largeDecided⟩
  refine ⟨twoLongest, largeLongest, ?_, ?_⟩
  · rw [parsed, ((decided two twoLongest).2 (by decide)).1 rfl]
    rfl
  · rcases (largeDecided large largeLongest).1
      ⟨large.first, List.mem_cons_self, by decide⟩ with ⟨fault, aborted⟩
    exact ⟨fault, by rw [largeParsed, aborted]⟩

end Descent.NumberList
