import Descent.Proofs.Bounds

/-! The contract of an input and its check. The contract speaks of every index,
while the check asks for the length and looks at two places. Where elements
stand without a gap, an element behind some index means one at that index too,
so the two places decide the contract everywhere. What the check makes of an
input is a matter of these three answers alone, for every parser. -/

namespace Descent

variable {ι κ α : Type}

/-! ## Inputs without gaps -/

namespace Input

variable {input : Input ι}

/-- Below every index with an element, all indices have one. -/
def Gapless (input : Input ι) : Prop :=
  ∀ index earlier, earlier < index → (input.get? index).isSome →
    (input.get? earlier).isSome

theorem Gapless.isSome_of_le (gapless : input.Gapless) {index earlier : Nat}
    (order : earlier ≤ index) (present : (input.get? index).isSome) :
    (input.get? earlier).isSome := by
  rcases Nat.lt_or_eq_of_le order with before | same
  · exact gapless index earlier before present
  · rw [same]
    exact present

theorem Gapless.lt_of_isSome (gapless : input.Gapless) {wall index : Nat}
    (absent : input.get? wall = none) (present : (input.get? index).isSome) :
    index < wall := by
  apply Nat.lt_of_not_le
  intro beyond
  have there := gapless.isSome_of_le beyond present
  rw [absent] at there
  cases there

theorem Gapless.lawful_iff (gapless : input.Gapless) :
    input.Lawful ↔ (0 < input.length → (input.get? (input.length - 1)).isSome) ∧
      input.get? input.length = none := by
  constructor
  · exact Lawful.ends
  · intro ends index
    rcases ends with ⟨last, absent⟩
    constructor
    · exact gapless.lt_of_isSome absent
    · intro inside
      exact gapless.isSome_of_le (Nat.le_sub_one_of_lt inside)
        (last (Nat.zero_lt_of_lt inside))

theorem Gapless.check_eq_ok_iff (gapless : input.Gapless) :
    input.check = .ok () ↔ input.length ≤ sizeLimit ∧ input.Lawful := by
  rw [Input.check_eq_ok_iff, gapless.lawful_iff]

/-! ## What the check depends on -/

theorem check_of_lt (tooLong : sizeLimit < input.length) :
    input.check = .error (.tooLong input.length sizeLimit) :=
  if_pos tooLong

theorem check_of_le (short : input.length ≤ sizeLimit) :
    input.check = .ok () ∨
      input.check = .error (.lengthMismatch input.length) := by
  rw [check, if_neg (Nat.not_lt.mpr short)]
  split
  · exact .inr rfl
  · exact .inl rfl

/-- Both inputs report the same length, and each has an element at the last
index before it, and one right at it, just if the other has. An empty input has
no last index. -/
structure AlikeAtEnd {ι' : Type} (input : Input ι) (other : Input ι') :
    Prop where
  length : input.length = other.length
  last : 0 < input.length →
    (input.get? (input.length - 1)).isSome =
      (other.get? (input.length - 1)).isSome
  next : (input.get? input.length).isSome = (other.get? input.length).isSome

theorem AlikeAtEnd.refl (input : Input ι) : input.AlikeAtEnd input where
  length := rfl
  last _ := rfl
  next := rfl

theorem AlikeAtEnd.check_eq {ι' : Type} {other : Input ι'}
    (alike : input.AlikeAtEnd other) :
    input.check = other.check := by
  have sameLast : (0 < input.length → (input.get? (input.length - 1)).isSome) ↔
      (0 < input.length → (other.get? (input.length - 1)).isSome) := by
    apply forall_congr'
    intro nonempty
    rw [alike.last nonempty]
  have sameNext : input.get? input.length = none ↔
      other.get? input.length = none := by
    rw [← Option.not_isSome_iff_eq_none, ← Option.not_isSome_iff_eq_none,
      alike.next]
  have sameAccepted : input.check = .ok () ↔ other.check = .ok () := by
    rw [check_eq_ok_iff, check_eq_ok_iff, ← alike.length, sameLast, sameNext]
  rcases Nat.lt_or_ge sizeLimit input.length with tooLong | short
  · rw [check_of_lt tooLong, check_of_lt (alike.length ▸ tooLong), alike.length]
  · rcases check_of_le short with accepted | refused
    · rw [accepted, sameAccepted.mp accepted]
    · rcases check_of_le (alike.length ▸ short) with
        otherAccepted | otherRefused
      · rw [otherAccepted, sameAccepted.mpr otherAccepted]
      · rw [refused, otherRefused, alike.length]

end Input

/-! ## Parses of any input -/

def Parser.EndsOver (parser : Parser ι κ α) (input : Input ι) (config : κ) :
    Prop :=
  ∃ outcome : Outcome α, parser.run .start ⟨input, config⟩ = .ok outcome

theorem Grammar.endsOver_of_check (grammar : Grammar ι κ α) {input : Input ι}
    (accepted : input.check = .ok ()) (config : κ) :
    grammar.parser.EndsOver input config := by
  match ended : grammar.parser.run .start ⟨input, config⟩ with
  | .ok outcome => exact ⟨outcome, ended⟩
  | .error fault =>
      exact absurd ended (grammar.run_ne_abort accepted (Nat.zero_le _) fault)

theorem Parser.EndsOver.exists_parseWith_iff {parser : Parser ι κ α}
    {input : Input ι} {config : κ} (ends : parser.EndsOver input config) :
    (∃ outcome, parser.parseWith input config = .ok (.ok outcome)) ↔
      input.check = .ok () := by
  constructor
  · intro parse
    rcases parse with ⟨outcome, parsed⟩
    exact (parseWith_eq_ok_iff.mp parsed).1
  · intro accepted
    rcases ends with ⟨outcome, ended⟩
    exact ⟨outcome, parseWith_eq_ok_iff.mpr ⟨accepted, ended⟩⟩

/-- Two lookups decide the contract. An input without gaps is read just if it is
lawful and not too long, and nothing counts for a refusal but the length and
whether there are elements at its last index and right at it. -/
theorem two_lookups_decide_the_contract (input : Input ι)
    (parser : Parser ι κ α) (config : κ) :
    (parser.EndsOver input config →
      (input.Lawful → input.length ≤ sizeLimit →
        ∃ outcome, parser.run .start ⟨input, config⟩ = .ok outcome ∧
          parser.parseWith input config = .ok (.ok outcome)) ∧
      (input.Gapless →
        ((∃ outcome, parser.parseWith input config = .ok (.ok outcome)) ↔
          input.length ≤ sizeLimit ∧ input.Lawful))) ∧
      (sizeLimit < input.length →
        parser.parseWith input config =
          .error (.tooLong input.length sizeLimit)) ∧
      (∀ invalid, parser.parseWith input config = .error invalid →
        input.length ≤ sizeLimit →
        invalid = .lengthMismatch input.length) ∧
      ∀ {ι' κ' β : Type} (other : Input ι') (otherParser : Parser ι' κ' β)
        (otherConfig : κ'), input.AlikeAtEnd other →
        ∀ invalid, parser.parseWith input config = .error invalid ↔
          otherParser.parseWith other otherConfig = .error invalid := by
  refine ⟨?_, ?_, ?_, ?_⟩
  · intro ends
    constructor
    · intro lawful short
      rcases ends with ⟨outcome, ended⟩
      exact ⟨outcome, ended,
        Parser.parseWith_eq_ok_iff.mpr ⟨lawful.check_eq_ok short, ended⟩⟩
    · intro gapless
      rw [ends.exists_parseWith_iff, gapless.check_eq_ok_iff]
  · intro tooLong
    exact Parser.parseWith_eq_error_iff.mpr (Input.check_of_lt tooLong)
  · intro invalid refused short
    have found := Parser.parseWith_eq_error_iff.mp refused
    rcases Input.check_of_le short with accepted | mismatch
    · cases accepted.symm.trans found
    · cases mismatch.symm.trans found
      rfl
  · intro ι' κ' β other otherParser otherConfig alike invalid
    rw [Parser.parseWith_eq_error_iff,
      Parser.parseWith_eq_error_iff, alike.check_eq]

/-- It reports three elements and has one. -/
def Input.scant : Input Char where
  length := 3
  get? index := if index = 0 then some '1' else none

/-- It has an element everywhere, and reports one more than is admitted. -/
def Input.endless : Input Char where
  length := 2147483648
  get? _ := some 'x'

theorem one_digit_is_not_three :
    let reader : Grammar Char Unit Char := .any
    (∃ outcome, reader.parser.run .start ⟨.ofText "ab", ()⟩ = .ok outcome ∧
        reader.parser.parseWith (.ofText "ab") () = .ok (.ok outcome)) ∧
      reader.parser.EndsOver .scant () ∧
      Input.scant.Gapless ∧ ¬ Input.scant.Lawful ∧
      (¬ ∃ outcome, reader.parser.parseWith .scant () = .ok (.ok outcome)) ∧
      reader.parser.parseWith .scant () = .error (.lengthMismatch 3) ∧
      (Parser.endOfInput : Parser Char Nat Unit).parseWith .scant 7 =
        .error (.lengthMismatch 3) ∧
      sizeLimit < Input.endless.length ∧
      reader.parser.parseWith .endless () =
        .error (.tooLong 2147483648 2147483647) ∧
      Input.torn.AlikeAtEnd (.ofText "xxx") ∧
      reader.parser.parseWith .torn () ≠ .error (.lengthMismatch 3) := by
  intro reader
  have textLawful : (Input.ofText "ab").Lawful := Input.ofList_lawful _
  have textShort : (Input.ofText "ab").length ≤ sizeLimit := by decide
  have textEnds :=
    reader.endsOver_of_check (textLawful.check_eq_ok textShort) ()
  have scantEnds : reader.parser.EndsOver .scant () :=
    ⟨.accepted ⟨'1', 1, none⟩, rfl⟩
  have gapless : Input.scant.Gapless := by
    intro index earlier before present
    cases index with
    | zero => exact absurd before (Nat.not_lt_zero earlier)
    | succ index => simp [Input.scant] at present
  have unlawful : ¬ Input.scant.Lawful := by
    intro lawful
    exact absurd ((lawful 2).mpr (by decide)) (by decide)
  have alike : Input.torn.AlikeAtEnd (.ofText "xxx") := ⟨rfl, fun _ => rfl, rfl⟩
  have tooLong : sizeLimit < Input.endless.length := by decide
  have text := two_lookups_decide_the_contract (.ofText "ab") reader.parser ()
  have scant := two_lookups_decide_the_contract .scant reader.parser ()
  have endless := two_lookups_decide_the_contract .endless reader.parser ()
  have torn := two_lookups_decide_the_contract .torn reader.parser ()
  have refused : reader.parser.parseWith .scant () =
      .error (.lengthMismatch 3) := by
    have found : ∃ invalid,
        reader.parser.parseWith .scant () = .error invalid := ⟨_, rfl⟩
    rcases found with ⟨invalid, found⟩
    rw [found, scant.2.2.1 invalid found (by decide)]
    rfl
  have refusedToAll :=
    (scant.2.2.2 .scant Parser.endOfInput 7 (.refl _) _).mp refused
  refine ⟨(text.1 textEnds).1 textLawful textShort, scantEnds, gapless,
    unlawful, ?_, refused, refusedToAll, tooLong, endless.2.1 tooLong,
    alike, ?_⟩
  · intro parsed
    exact unlawful (((scant.1 scantEnds).2 gapless).mp parsed).2
  · intro wrong
    have textWrong :=
      (torn.2.2.2 (.ofText "xxx") reader.parser () alike _).mp wrong
    cases textWrong

example : Input.torn.check = .ok () ∧ ¬ Input.torn.Lawful :=
  ⟨rfl, fun lawful => absurd ((lawful 1).mpr (by decide)) (by decide)⟩

end Descent
