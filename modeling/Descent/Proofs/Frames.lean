import Descent.NumberList
import Descent.Proofs.Bounds
import Descent.Proofs.Counts
import Descent.Proofs.Lookahead
import Descent.Proofs.Numerals

/-! Frames that announce their length. A frame is written as one digit and as
many characters behind it, whatever they are, and the digit that was read tells
how often to read any character. Frames that are written one after another are
read back, however much their contents look like frames, up to where no complete
frame is left. -/

namespace Descent

/-- No more than nine characters, so that one digit tells how many. -/
structure Frame where
  content : List Char
  short : content.length ≤ 9

namespace Frame

variable {κ : Type}

def written (frame : Frame) : List Char :=
  Nat.digitChar frame.content.length :: frame.content

def writtenAll (frames : List Frame) : List Char :=
  frames.flatMap written

def parser : Parser Char κ (List Char) :=
  (Parser.satisfy Char.isDigit "digit").bind fun digit _ =>
    Parser.any.many (.exactly (NumberList.digitValue digit))

theorem length_le_writtenAll (frames : List Frame) :
    frames.length ≤ (writtenAll frames).length :=
  length_le_length_flatMap (fun _ => List.cons_ne_nil _ _) frames

/-! ## The announced length -/

theorem isDigit_digitChar {count : Nat} (small : count < 10) :
    (Nat.digitChar count).isDigit = true := by
  rw [Nat.isDigit_digitChar, decide_eq_true small]

theorem digitValue_digitChar {count : Nat} (small : count < 10) :
    NumberList.digitValue (Nat.digitChar count) = count := by
  rw [NumberList.digitValue_eq (isDigit_digitChar small)]
  exact Nat.toNat_digitChar_sub_48_of_lt_ten small

theorem digitChar_digitValue {char : Char} (digit : char.isDigit = true) :
    Nat.digitChar (NumberList.digitValue char) = char := by
  have bounds := Char.isDigit_iff_toNat.mp digit
  have zero : '0'.toNat = 48 := rfl
  apply Char.toNat_inj.mp
  rw [Nat.toNat_digitChar_of_lt_ten (NumberList.digitValue_lt digit),
    NumberList.digitValue_eq digit]
  omega

/-- What begins with no complete frame: nothing at all, what begins with no
digit, or a frame that is cut short. -/
inductive Incomplete : List Char → Prop
  | nothing : Incomplete []
  | noDigit {char : Char} {others : List Char} (other : char.isDigit = false) :
      Incomplete (char :: others)
  | cutShort {digit : Char} {others : List Char}
      (announced : digit.isDigit = true)
      (few : others.length < NumberList.digitValue digit) :
      Incomplete (digit :: others)

theorem incomplete_iff {rest : List Char} :
    Incomplete rest ↔ ∀ frame : Frame, ¬ frame.written <+: rest := by
  constructor
  · intro incomplete frame begins
    have small : frame.content.length < 10 := Nat.lt_succ_of_le frame.short
    cases incomplete with
    | nothing => exact List.cons_ne_nil _ _ (List.prefix_nil.mp begins)
    | noDigit other =>
        rw [← (List.cons_prefix_cons.mp begins).1, isDigit_digitChar small]
          at other
        cases other
    | cutShort _ few =>
        rcases List.cons_prefix_cons.mp begins with ⟨rfl, within⟩
        rw [digitValue_digitChar small] at few
        exact Nat.not_lt.mpr within.length_le few
  · intro none
    cases rest with
    | nil => exact .nothing
    | cons char others =>
        cases announced : char.isDigit with
        | false => exact .noDigit announced
        | true =>
            refine .cutShort announced (Nat.lt_of_not_le ?_)
            intro enough
            have small := NumberList.digitValue_lt announced
            have count : (others.take (NumberList.digitValue char)).length =
                NumberList.digitValue char := List.length_take_of_le enough
            let frame : Frame :=
              ⟨others.take (NumberList.digitValue char), by omega⟩
            have same : Nat.digitChar frame.content.length = char :=
              (congrArg Nat.digitChar count).trans
                (digitChar_digitValue announced)
            exact none frame
              (List.cons_prefix_cons.mpr ⟨same, List.take_prefix _ _⟩)

/-! ## Reading frames -/

section Reading

variable {context : Context Char κ} {start : Cursor} {rest : List Char}

theorem run_of_digit {digit : Char}
    (ahead : context.Ahead start (digit :: rest))
    (short : context.length ≤ sizeLimit) (announced : digit.isDigit = true) :
    parser.run start context =
      (Parser.any.many (.exactly (NumberList.digitValue digit))).run
        (start.forward 1) context := by
  have read := Parser.satisfy_run_of_ahead ahead short announced "digit"
  simp only [parser, Parser.bind, read, Run.andThen_accept]

theorem run_of_ahead {frame : Frame}
    (ahead : context.Ahead start (frame.written ++ rest))
    (short : context.length ≤ sizeLimit) :
    parser.run start context =
      .accept frame.content (start.forward frame.written.length) := by
  have small : frame.content.length < 10 := Nat.lt_succ_of_le frame.short
  have announced := isDigit_digitChar small
  have behind := ahead.step
  have trail :=
    Parser.satisfy_trail short (fun _ _ => rfl) "any element" _ behind
  have within : frame.content.length ≤ sizeLimit :=
    Nat.le_trans frame.short (by decide)
  have count : frame.content.length =
      (CountRange.exactly frame.content.length).limits.most :=
    (CountRange.most_between (Nat.le_refl _) within).symm
  rw [run_of_digit ahead short announced, digitValue_digitChar small, written,
    List.length_cons, Nat.add_comm, ← Cursor.forward_forward]
  exact Parser.many_run_eq_accept_iff.mpr ⟨trail, .inl count⟩

theorem fails_of_stops (ahead : context.Ahead start rest)
    (stops : NumberList.Stops rest) :
    parser.Fails start context := by
  have missed := Parser.satisfy_run_of_not_ahead ahead stops "digit"
  refine ⟨start.fail "digit", ?_⟩
  simp only [parser, Parser.bind, missed, Run.andThen_reject]

theorem fails_of_few {digit : Char}
    (ahead : context.Ahead start (digit :: rest))
    (short : context.length ≤ sizeLimit) (announced : digit.isDigit = true)
    (few : rest.length < NumberList.digitValue digit) :
    parser.Fails start context := by
  have behind := ahead.step
  rw [← List.append_nil rest] at behind
  have trail :=
    Parser.satisfy_trail short (fun _ _ => rfl) "any element" _ behind
  have missed : (Parser.any : Parser Char κ Char).run _ context = .reject _ :=
    Parser.satisfy_run_of_not_ahead behind.forward
      (fun _ member => nomatch member) _
  have within : NumberList.digitValue digit ≤ sizeLimit :=
    Nat.le_trans (Nat.le_of_lt (NumberList.digitValue_lt announced)) (by decide)
  have least : (CountRange.exactly (NumberList.digitValue digit)).limits.least =
      NumberList.digitValue digit :=
    CountRange.least_between (Nat.le_refl _) within
  refine ⟨(((start.forward 1).forward rest.length).fail "any element"), ?_⟩
  rw [run_of_digit ahead short announced]
  exact Parser.many_run_of_reject trail (least.symm ▸ few) missed

theorem fails_of_incomplete (ahead : context.Ahead start rest)
    (short : context.length ≤ sizeLimit) (incomplete : Incomplete rest) :
    parser.Fails start context := by
  cases incomplete with
  | nothing => exact fails_of_stops ahead fun _ member => nomatch member
  | noDigit other =>
      apply fails_of_stops ahead
      intro char member
      cases member
      exact other
  | cutShort announced few => exact fails_of_few ahead short announced few

theorem trail_of_ahead (short : context.length ≤ sizeLimit)
    (frames : List Frame) :
    ∀ start, context.Ahead start (writtenAll frames ++ rest) →
      parser.Trail context start (frames.map content)
        (start.forward (writtenAll frames).length) := by
  apply Parser.trail_of_written
  intro frame _ others start ahead
  exact run_of_ahead ahead short

end Reading

end Frame

/-- Frames that are written one after another are read back, up to where no
complete frame is ahead, and of the attempt at another one nothing is left. -/
theorem written_frames_are_read_back {κ : Type} (frames : List Frame)
    (rest : List Char) (config : κ)
    (incomplete : ∀ frame : Frame, ¬ frame.written <+: rest)
    (short : (Frame.writtenAll frames ++ rest).length ≤ sizeLimit) :
    (Frame.parser.many .any).parseWith
        (.ofList (Frame.writtenAll frames ++ rest)) config =
      .ok (.accept (frames.map Frame.content)
        ⟨(Frame.writtenAll frames).length, none⟩) := by
  let context : Context Char κ :=
    ⟨.ofList (Frame.writtenAll frames ++ rest), config⟩
  have shortInput : context.length ≤ sizeLimit := by
    rwa [Context.length, Input.length_ofList]
  have accepted : context.input.check = .ok () :=
    (Input.ofList_lawful _).check_eq_ok shortInput
  have ahead : context.Ahead .start (Frame.writtenAll frames ++ rest) :=
    Context.ahead_ofList _ config
  have trail := Frame.trail_of_ahead shortInput frames .start ahead
  have ended := Frame.fails_of_incomplete ahead.forward shortInput
    (Frame.incomplete_iff.mpr incomplete)
  apply Parser.parseWith_eq_ok_iff.mpr
  refine ⟨accepted, ?_⟩
  rw [← Cursor.forward_start]
  apply Parser.many_run_of_fails trail
  · have few := Frame.length_le_writtenAll frames
    have most : CountRange.any.limits.most = sizeLimit := by decide
    rw [List.length_append] at short
    rw [List.length_map]
    omega
  · exact Nat.zero_le _
  · exact ended

theorem frames_within_frames_are_read_back :
    let frames : List Frame :=
      [⟨"1a2".toList, by decide⟩, ⟨[], by decide⟩, ⟨['0'], by decide⟩]
    (∀ frame : Frame, ¬ frame.written <+: "3xy".toList) ∧
      Frame.writtenAll frames ++ "3xy".toList = "31a20103xy".toList ∧
      (Frame.parser.many .any).parseWith (.ofText "31a20103xy") () =
        .ok (.accept ["1a2".toList, [], ['0']] ⟨7, none⟩) := by
  intro frames
  have incomplete : ∀ frame : Frame, ¬ frame.written <+: "3xy".toList :=
    Frame.incomplete_iff.mp (.cutShort (by decide) (by decide))
  exact ⟨incomplete, rfl,
    written_frames_are_read_back frames "3xy".toList () incomplete (by decide)⟩

end Descent
