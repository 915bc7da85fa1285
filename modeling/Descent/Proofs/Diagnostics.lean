import Descent.Proofs.Bookkeeping

/-! What a failure names. Expectations travel with the recorded failure past
parsers that match, are merged at a tie, replaced by labels and dropped by
alternatives. Whatever way they took, each of them names something in the
grammar that does not match where the failure lies. -/

namespace Descent

variable {ι κ α : Type}

/-- Run by itself from `position`, the parser fails right there. -/
def Parser.MissesAt (parser : Parser ι κ α) (context : Context ι κ)
    (position : Nat) : Prop :=
  ∃ failure, parser.run ⟨position, none⟩ context = .reject failure ∧
    failure.position = position

theorem Parser.satisfy_missesAt {context : Context ι κ} {position : Nat}
    {accepts : ι → Bool}
    (missing : ∀ item, context.at? position = some item → accepts item = false)
    (description : String) :
    (satisfy accepts description : Parser ι κ ι).MissesAt context position := by
  refine ⟨.expecting position description, ?_, rfl⟩
  apply satisfy_run_of_missing
  exact missing

theorem Parser.endOfInput_missesAt {context : Context ι κ} {position : Nat}
    (before : position < context.length) :
    (endOfInput : Parser ι κ Unit).MissesAt context position := by
  refine ⟨.expecting position "end of input", ?_, rfl⟩
  apply endOfInput_run_of_lt
  exact before

/-- Something in the grammar goes by `description` and misses at `position`: a
parser that looks at the input, or the body of a label of that name. What a
continuation gives is in the grammar for the values that can be read over the
input in front of it. -/
def Grammar.Misses (context : Context ι κ) (position : Nat)
    (description : String) {α : Type} : Grammar ι κ α → Prop
  | satisfy accepts name =>
      description = name ∧
        (Parser.satisfy accepts name : Parser ι κ ι).MissesAt context position
  | endOfInput =>
      description = "end of input" ∧
        (Parser.endOfInput : Parser ι κ Unit).MissesAt context position
  | map _ body => body.Misses context position description
  | bind first next =>
      first.Misses context position description ∨
        ∃ value, first.parser.Reads context value ∧
          (next value context.config).Misses context position description
  | keepRight first second =>
      first.Misses context position description ∨
        second.Misses context position description
  | keepLeft first second =>
      first.Misses context position description ∨
        second.Misses context position description
  | pair first second =>
      first.Misses context position description ∨
        second.Misses context position description
  | orElse first second =>
      first.Misses context position description ∨
        second.Misses context position description
  | optional body => body.Misses context position description
  | label body name =>
      body.Misses context position description ∨
        description = name ∧ body.parser.MissesAt context position
  | fold body _ _ _ => body.Misses context position description

namespace Failure

/-- The failure names something, nothing twice, and only what is admitted where
it lies. -/
def NamesOnly (failure : Failure) (admitted : Nat → String → Prop) : Prop :=
  failure.expected.items ≠ [] ∧ failure.expected.items.Nodup ∧
    ∀ description ∈ failure.expected, admitted failure.position description

variable {admitted : Nat → String → Prop}

theorem namesOnly_expecting {position : Nat} {description : String}
    (named : admitted position description) :
    (expecting position description).NamesOnly admitted := by
  refine ⟨List.cons_ne_nil _ _,
    (expecting position description).expected.nodup, ?_⟩
  intro other member
  rw [Expected.mem_single.mp member]
  exact named

theorem NamesOnly.merge {first second : Failure}
    (firstNames : first.NamesOnly admitted)
    (secondNames : second.NamesOnly admitted) :
    (first.merge second).NamesOnly admitted := by
  refine ⟨items_merge_ne_nil firstNames.1 secondNames.1,
    (first.merge second).expected.nodup, ?_⟩
  intro description member
  rcases mem_expected_merge.mp member with ⟨same, named⟩ | ⟨same, named⟩
  · rw [← same]
    exact firstNames.2.2 description named
  · rw [← same]
    exact secondNames.2.2 description named

theorem NamesOnly.after {earlier : Option Failure} {later : Failure}
    (earlierNames : ∀ failure ∈ earlier, failure.NamesOnly admitted)
    (laterNames : later.NamesOnly admitted) :
    (after earlier later).NamesOnly admitted := by
  cases earlier with
  | none => exact laterNames
  | some failure => exact (earlierNames failure rfl).merge laterNames

end Failure

def Invariant.naming (admitted : Nat → String → Prop) : Invariant where
  cursor here := ∀ failure ∈ here.furthest, failure.NamesOnly admitted
  failure missed := missed.NamesOnly admitted
  fault _ := True
  record := by
    rintro here missed recorded named _ ⟨⟩
    exact named.after recorded
  merge := Failure.NamesOnly.merge

theorem Invariant.naming_fail {admitted : Nat → String → Prop} {cursor : Cursor}
    (recorded : (naming admitted).cursor cursor) {description : String}
    (missed : admitted cursor.position description) :
    (naming admitted).failure (cursor.fail description) :=
  Failure.NamesOnly.after recorded (Failure.namesOnly_expecting missed)

/-- What fails at its start with some failure recorded fails there by itself:
the recorded one can only have moved the failure further, and it lies at the
start. -/
theorem Grammar.missesAt_of_reject (grammar : Grammar ι κ α)
    {context : Context ι κ} {start : Cursor} {failure : Failure}
    (rejected : grammar.parser.run start context = .reject failure)
    (atStart : failure.position = start.position) :
    grammar.parser.MissesAt context start.position := by
  rcases start with ⟨position, _ | earlier⟩
  · exact ⟨failure, rejected, atStart⟩
  · have deepened := grammar.run_deepened context ⟨position, none⟩ earlier
    have behind :=
      grammar.keeps_beyond context ⟨position, none⟩ _ (Invariant.beyond_self _)
    change Run.Deepened earlier _
      (grammar.parser.run ⟨position, some earlier⟩ context) at deepened
    rw [rejected] at deepened
    match alone : grammar.parser.run ⟨position, none⟩ context with
    | .accept _ _ =>
        rw [alone] at deepened
        exact deepened.elim
    | .reject missed =>
        rw [alone] at deepened behind
        have notBefore : max position 0 ≤ missed.position := behind
        have notBeyond : failure.position =
            max earlier.position missed.position := deepened
        have there : failure.position = position := atStart
        refine ⟨missed, alone, ?_⟩
        change missed.position = position
        omega
    | .abort _ =>
        rw [alone] at deepened
        exact deepened.elim

private theorem covered_each {first second admitted : Nat → String → Prop}
    (covered : ∀ position description,
      first position description ∨ second position description →
        admitted position description) :
    (∀ position description,
      first position description → admitted position description) ∧
    ∀ position description,
      second position description → admitted position description := by
  constructor
  · intro position description missed
    exact covered position description (.inl missed)
  · intro position description missed
    exact covered position description (.inr missed)

theorem Grammar.keeps_naming (grammar : Grammar ι κ α) {context : Context ι κ}
    {admitted : Nat → String → Prop}
    (covered : ∀ position description,
      grammar.Misses context position description →
        admitted position description) :
    grammar.parser.Keeps (.naming admitted) context := by
  induction grammar with
  | satisfy accepts description =>
      apply Parser.Keeps.satisfy
      · intro cursor item recorded _
        exact Run.consume_keeps item (fun _ => recorded) fun _ => trivial
      · intro cursor recorded missing
        apply Invariant.naming_fail recorded
        apply covered
        exact ⟨rfl, Parser.satisfy_missesAt missing description⟩
  | endOfInput =>
      apply Parser.Keeps.endOfInput
      intro cursor recorded before
      apply Invariant.naming_fail recorded
      apply covered
      exact ⟨rfl, Parser.endOfInput_missesAt before⟩
  | map f _ body => exact (body covered).map f
  | bind _ _ first next =>
      have each := covered_each covered
      apply (first each.1).bind
      intro value read
      apply next value context.config
      intro position description missed
      exact each.2 position description ⟨value, read, missed⟩
  | keepRight _ _ first second =>
      have each := covered_each covered
      exact (first each.1).keepRight (second each.2)
  | keepLeft _ _ first second =>
      have each := covered_each covered
      exact (first each.1).keepLeft (second each.2)
  | pair _ _ first second =>
      have each := covered_each covered
      exact (first each.1).pair (second each.2)
  | orElse _ _ first second =>
      have each := covered_each covered
      exact (first each.1).orElse (second each.2)
  | optional _ body => exact (body covered).optional
  | label body name bodyKeeps =>
      -- The body ran with a failure recorded that may lie at its start as well,
      -- so that it misses by itself is not what its run shows.
      have each := covered_each covered
      apply (bodyKeeps each.1).label
      intro cursor failure _ rejected named
      by_cases atStart : failure.position = cursor.position
      · rw [Failure.relabel_of_eq atStart]
        apply Failure.namesOnly_expecting
        exact each.2 _ _ ⟨rfl, body.missesAt_of_reject rejected atStart⟩
      · rw [Failure.relabel_of_ne atStart]
        exact named
  | fold _ step start range body => exact (body covered).fold step start range

/-- Diagnostics name only what does not match: each name in a failure, reported
or recorded, is that of something in the grammar which misses right where the
failure lies. -/
theorem failures_name_what_misses (grammar : Grammar ι κ α)
    (context : Context ι κ) (position : Nat) :
    (∀ failure, grammar.parser.run ⟨position, none⟩ context = .reject failure →
      failure.NamesOnly (grammar.Misses context)) ∧
    ∀ value reached failure,
      grammar.parser.run ⟨position, none⟩ context = .accept value reached →
      reached.furthest = some failure →
        failure.NamesOnly (grammar.Misses context) := by
  have kept : (grammar.parser.run ⟨position, none⟩ context).Keeps
      (.naming (grammar.Misses context)) :=
    grammar.keeps_naming (fun _ _ misses => misses) _
      fun _ absent => nomatch absent
  constructor
  · intro failure rejected
    rw [rejected] at kept
    exact kept
  · intro value reached failure accepted recorded
    rw [accepted] at kept
    exact kept failure recorded

theorem unsigned_and_signed_are_missed :
    let digit : Grammar Char Unit Char := .satisfy Char.isDigit "digit"
    let number : Grammar Char Unit Char :=
      .orElse digit (.label (.keepRight (.element '-') digit) "signed digit")
    let failure : Failure := ⟨0, .ofList ["digit", "signed digit"]⟩
    number.parser.run .start ⟨.ofText "a", ()⟩ = .reject failure ∧
      failure.NamesOnly (number.Misses ⟨.ofText "a", ()⟩) := by
  intro digit number failure
  have rejected : number.parser.run .start ⟨.ofText "a", ()⟩ =
      .reject failure := rfl
  exact ⟨rejected,
    (failures_name_what_misses number ⟨.ofText "a", ()⟩ 0).1 failure rejected⟩

end Descent
