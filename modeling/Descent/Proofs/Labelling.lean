import Descent.Proofs.Alternatives
import Descent.Proofs.Bookkeeping

/-! What a label replaces. It sees where the failure of its body lies, and where
that is the start of the body it puts its name in the place of all that is
expected there. So a label on a choice is one on every alternative, and of two
labels the outer one is seen. But what was recorded before the body has been
merged into its failure by then, and if it was recorded at the start, the name
takes its place as well. -/

namespace Descent

variable {ι κ α : Type} {context : Context ι κ}

/-! ## Labels and choices -/

namespace Failure

theorem relabel_merge (left right : Failure) (start : Nat) (name : String) :
    (left.merge right).relabel start name =
      (left.relabel start name).merge (right.relabel start name) := by
  rcases Nat.lt_trichotomy left.position right.position with lt | equal | gt
  · have renamed : (left.relabel start name).position <
        (right.relabel start name).position := by
      rwa [position_relabel, position_relabel]
    rw [merge_of_lt lt, merge_of_lt renamed]
  · have merged : (left.merge right).position = right.position := by
      rw [position_merge, equal, Nat.max_self]
    by_cases atStart : right.position = start
    · rw [relabel_of_eq (merged.trans atStart),
        relabel_of_eq (equal.trans atStart), relabel_of_eq atStart, merge_self]
    · have elsewhere : left.position ≠ start := fun same =>
        atStart (equal.symm.trans same)
      have mergedElsewhere : (left.merge right).position ≠ start := fun same =>
        atStart (merged.symm.trans same)
      rw [relabel_of_ne mergedElsewhere, relabel_of_ne elsewhere,
        relabel_of_ne atStart]
  · have renamed : (right.relabel start name).position <
        (left.relabel start name).position := by
      rwa [position_relabel, position_relabel]
    rw [merge_of_gt gt, merge_of_gt renamed]

theorem relabel_relabel (failure : Failure) (start : Nat)
    (name outer : String) :
    (failure.relabel start name).relabel start outer =
      failure.relabel start outer := by
  by_cases atStart : failure.position = start
  · rw [relabel_of_eq atStart, relabel_of_eq atStart]
    exact relabel_of_eq rfl outer
  · rw [relabel_of_ne atStart]

end Failure

namespace Parser

theorem label_orElse (first second : Parser ι κ α) (name : String) :
    (first.orElse second).label name =
      (first.label name).orElse (second.label name) := by
  ext cursor context
  simp only [orElse, label_run, Run.recover_assoc, Run.recover_reject,
    Failure.relabel_merge]

theorem label_label (parser : Parser ι κ α) (name outer : String) :
    (parser.label name).label outer = parser.label outer := by
  ext cursor context
  simp only [label_run, Run.recover_assoc, Run.recover_reject,
    Failure.relabel_relabel]

end Parser

/-- A label on a choice is the same label on each alternative, however the
choice is bracketed with the label and without it. Of two labels only the outer
one is seen. -/
theorem labels_go_into_choices :
    (∀ (tree labelled : ChoiceTree ι κ α) (name : String),
      labelled.alternatives =
          tree.alternatives.map (fun parser => parser.label name) →
        labelled.parser = tree.parser.label name) ∧
      ∀ (parser : Parser ι κ α) (name outer : String),
        (parser.label name).label outer = parser.label outer := by
  constructor
  · intro tree labelled name same
    apply ChoiceTree.parser_eq_of_chooses
    intro cursor context
    rw [same]
    apply tree.chooses_map fun parser => parser.label name
    intro first second
    exact first.label_orElse second name
  · intro parser name outer
    exact parser.label_label name outer

theorem alternatives_go_by_one_name :
    let letter (char : Char) : Parser Char Unit Char :=
      .satisfy (· == char) char.toString
    let astray : Parser Char Unit Char :=
      ⟨fun _ _ => .reject (.expecting 0 "start")⟩
    let sign : ChoiceTree Char Unit Char :=
      .orElse (.operator (.alternative (letter '+')) (.alternative astray))
        (.alternative (letter '-' *> letter '0'))
    let labelled : ChoiceTree Char Unit Char :=
      .orElse (.alternative ((letter '+').label "sign"))
        (.operator (.alternative (astray.label "sign"))
          (.alternative ((letter '-' *> letter '0').label "sign")))
    labelled.alternatives =
        sign.alternatives.map (fun parser => parser.label "sign") ∧
      labelled.parser = sign.parser.label "sign" ∧
      labelled.parser.run ⟨1, none⟩ ⟨.ofText "xa", ()⟩ =
        .reject (.expecting 1 "sign") ∧
      labelled.parser.run ⟨1, none⟩ ⟨.ofText "x-", ()⟩ =
        .reject (.expecting 2 "0") := by
  intro letter astray sign labelled
  have gathered : labelled.parser = sign.parser.label "sign" :=
    labels_go_into_choices.1 sign labelled "sign" rfl
  refine ⟨rfl, gathered, ?_, ?_⟩
  · rw [gathered]
    rfl
  · rw [gathered]
    rfl

/-! ## Labels and what was recorded -/

theorem Parser.label_run_eq_reject_iff {parser : Parser ι κ α} {name : String}
    {start : Cursor} {report : Failure} :
    (parser.label name).run start context = .reject report ↔
      ∃ failure, parser.run start context = .reject failure ∧
        failure.relabel start.position name = report := by
  rw [label_run]
  match parser.run start context with
  | .accept _ _ => simp
  | .reject _ => simp
  | .abort _ => simp

/-- A label that reports a failure at the place of the one recorded before its
body keeps what that one expects, unless that place is the start of the body:
what was recorded there is lost. -/
theorem label_forgets_what_was_recorded_at_its_start (grammar : Grammar ι κ α)
    (labelFree : grammar.LabelFree) (name : String) (context : Context ι κ)
    {position : Nat} {earlier report : Failure}
    (rejected :
      (grammar.parser.label name).run ⟨position, some earlier⟩ context =
        .reject report)
    (tie : report.position = earlier.position) :
    ((∀ description ∈ earlier.expected, description ∈ report.expected) ↔
        earlier.position ≠ position ∨
          ∀ description ∈ earlier.expected, description = name) ∧
      (earlier.position = position → report = .expecting position name) := by
  rcases Parser.label_run_eq_reject_iff.mp rejected with
    ⟨failure, bodyRejected, rfl⟩
  rcases grammar.exists_missed_of_reject labelFree bodyRejected with
    ⟨missed, _, rfl⟩
  rw [Failure.position_relabel] at tie
  by_cases atStart : earlier.position = position
  · -- The label cannot tell what its body expects here from what was recorded
    -- before.
    rw [Failure.relabel_of_eq (tie.trans atStart)]
    refine ⟨?_, fun _ => rfl⟩
    constructor
    · intro kept
      right
      intro description named
      exact Expected.mem_single.mp (kept description named)
    · rintro (elsewhere | sameName) description named
      · exact absurd atStart elsewhere
      · exact Expected.mem_single.mpr (sameName description named)
  · have elsewhere : (earlier.merge missed).position ≠ position := fun same =>
      atStart (tie.symm.trans same)
    rw [Failure.relabel_of_ne elsewhere]
    refine ⟨⟨fun _ => .inl atStart, ?_⟩, fun same => absurd same atStart⟩
    intro _ description named
    exact Failure.mem_expected_merge.mpr (.inl ⟨tie.symm, named⟩)

theorem sign_further_on_is_kept :
    let letter : Grammar Char Unit Char := .satisfy Char.isAlpha "letter"
    let digit : Grammar Char Unit Char := .satisfy Char.isDigit "digit"
    let number : Grammar Char Unit Char := .keepRight letter digit
    let earlier : Failure := .expecting 1 "sign"
    let report : Failure := ⟨1, .ofList ["sign", "digit"]⟩
    number.LabelFree ∧ report.position = earlier.position ∧
      earlier.position ≠ 0 ∧
      (number.parser.label "number").run ⟨0, some earlier⟩ ⟨.ofText "ax", ()⟩ =
        .reject report ∧
      ∀ description ∈ earlier.expected, description ∈ report.expected := by
  intro letter digit number earlier report
  have labelFree : number.LabelFree := ⟨trivial, trivial⟩
  have rejected : (number.parser.label "number").run ⟨0, some earlier⟩
      ⟨.ofText "ax", ()⟩ = .reject report := rfl
  have elsewhere : earlier.position ≠ 0 := Nat.one_ne_zero
  have compared := label_forgets_what_was_recorded_at_its_start number
    labelFree "number" ⟨.ofText "ax", ()⟩ rejected rfl
  exact ⟨labelFree, rfl, elsewhere, rejected, compared.1.mpr (.inl elsewhere)⟩

theorem sign_at_the_start_is_lost :
    let digit : Grammar Char Unit Char := .satisfy Char.isDigit "digit"
    let earlier : Failure := .expecting 0 "sign"
    let report : Failure := .expecting 0 "number"
    digit.LabelFree ∧ earlier.expected.items ≠ [] ∧
      (digit.parser.label "number").run ⟨0, some earlier⟩ ⟨.ofText "x", ()⟩ =
        .reject report ∧
      report.position = earlier.position ∧
      ¬ ∀ description ∈ earlier.expected, description ∈ report.expected := by
  intro digit earlier report
  refine ⟨trivial, List.cons_ne_nil _ _, rfl, rfl, ?_⟩
  decide

example :
    let sign : Parser Char Unit Char := .satisfy (· == '-') "sign"
    let digit : Parser Char Unit Char := .satisfy Char.isDigit "digit"
    (sign.optional *> digit.label "number").run .start ⟨.ofText "x", ()⟩ =
        .reject (.expecting 0 "number") ∧
      (sign.optional *> digit).run .start ⟨.ofText "x", ()⟩ =
        .reject ⟨0, .ofList ["sign", "digit"]⟩ :=
  ⟨rfl, rfl⟩

end Descent
