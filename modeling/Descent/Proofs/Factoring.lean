import Descent.Proofs.Alternatives
import Descent.Proofs.Sequencing

/-! What alternatives have in common at their start. A first part that all of
them begin with is run anew for each, always from the same cursor, so it always
ends in the same way. Where it matches, only what is behind it is left to choose
from; where it fails, its failure is merged with itself. So it may as well be
run once, before the choice. -/

namespace Descent

variable {ι κ α β γ : Type} {context : Context ι κ} {cursor : Cursor}

/-! ## A first part -/

theorem Run.andThen_accept_recover (run : Run α) (next : Failure → Run α)
    (f : α → β) :
    (run.recover next).andThen (fun value reached =>
        .accept (f value) reached) =
      (run.andThen fun value reached => .accept (f value) reached).recover
        fun failure => (next failure).andThen fun value reached =>
          .accept (f value) reached := by
  match run with
  | .accept _ _ => rfl
  | .reject _ => rfl
  | .abort _ => rfl

namespace Parser

section FirstPart

variable {first : Parser ι κ α}

theorem bind_run_of_accept {value : α} {reached : Cursor}
    (matched : first.run cursor context = .accept value reached)
    (next : α → κ → Parser ι κ β) :
    (first.bind next).run cursor context =
      (next value context.config).run reached context := by
  simp only [bind, matched, Run.andThen_accept]

theorem bind_run_of_not_accept
    (unmatched : ∀ value reached,
      first.run cursor context ≠ .accept value reached)
    (next other : α → κ → Parser ι κ β) :
    (first.bind next).run cursor context =
      (first.bind other).run cursor context := by
  simp only [bind]
  match attempt : first.run cursor context with
  | .accept value reached => exact absurd attempt (unmatched value reached)
  | .reject _ => rfl
  | .abort _ => rfl

theorem Chooses.bind {next : α → κ → Parser ι κ β}
    {nexts : List (α → κ → Parser ι κ β)} (nonempty : nexts ≠ [])
    (chooses : ∀ value reached,
      (next value context.config).Chooses
        (nexts.map fun other => other value context.config) reached context) :
    (first.bind next).Chooses (nexts.map first.bind) cursor context := by
  by_cases matching :
      ∃ value reached, first.run cursor context = .accept value reached
  · rcases matching with ⟨value, reached, matched⟩
    exact (chooses value reached).of_reached (bind_run_of_accept matched next)
      (bind_run_of_accept matched)
  · have unmatched : ∀ value reached,
        first.run cursor context ≠ .accept value reached := by
      intro value reached matched
      exact matching ⟨value, reached, matched⟩
    -- All sequences end as `first` does, and a failure of it is joined with
    -- itself.
    apply Chooses.of_run_eq
    · exact mt List.map_eq_nil_iff.mp nonempty
    · intro sequence member
      rcases List.mem_map.mp member with ⟨other, _, rfl⟩
      exact bind_run_of_not_accept unmatched other next

end FirstPart

theorem map_orElse (f : α → κ → β) (first second : Parser ι κ α) :
    (first.orElse second).map f = (first.map f).orElse (second.map f) := by
  ext start context
  simp only [map, orElse, Run.andThen_accept_recover, Run.andThen_reject]

end Parser

namespace Joint

theorem parser_eq_bind (joint : Joint α β γ) (first : Parser ι κ α)
    (second : Parser ι κ β) :
    joint.parser first second =
      first.bind fun left _ =>
        second.map fun right _ => joint.value left right := by
  ext start context
  exact joint.parser_run first second start context

theorem chooses (joint : Joint α β γ) (first : Parser ι κ α)
    (tree : ChoiceTree ι κ β) (cursor : Cursor) (context : Context ι κ) :
    (joint.parser first tree.parser).Chooses
      (tree.alternatives.map (joint.parser first)) cursor context := by
  let mapped (second : Parser ι κ β) (left : α) (_ : κ) : Parser ι κ γ :=
    second.map fun right _ => joint.value left right
  have joined : tree.alternatives.map (joint.parser first) =
      (tree.alternatives.map mapped).map first.bind := by
    rw [List.map_map]
    exact List.map_congr_left fun second _ => joint.parser_eq_bind first second
  rw [joined, joint.parser_eq_bind first tree.parser]
  apply Parser.Chooses.bind
  · exact mt List.map_eq_nil_iff.mp tree.alternatives_ne_nil
  · intro left reached
    rw [List.map_map]
    exact tree.chooses_map (Parser.map _) (Parser.map_orElse _) reached context

end Joint

/-! ## Taking it out -/

/-- A first part that all alternatives begin with may be taken out of the
choice. It is run anew for each of them, but what it reads and misses is always
the same. -/
theorem common_first_part_factors (first : Parser ι κ α) :
    (∀ {β γ : Type} (joint : Joint α β γ) (tree : ChoiceTree ι κ β)
      (unfactored : ChoiceTree ι κ γ),
      unfactored.alternatives = tree.alternatives.map (joint.parser first) →
        unfactored.parser = joint.parser first tree.parser) ∧
      ∀ {β : Type} (nexts : List (α → κ → Parser ι κ β))
        (tree : α → κ → ChoiceTree ι κ β) (unfactored : ChoiceTree ι κ β),
        (∀ value config, (tree value config).alternatives =
          nexts.map fun next => next value config) →
        unfactored.alternatives = nexts.map first.bind →
          unfactored.parser = first.bind fun value config =>
            (tree value config).parser := by
  constructor
  · intro β γ joint tree unfactored same
    apply ChoiceTree.parser_eq_of_chooses
    intro cursor context
    rw [same]
    exact joint.chooses first tree cursor context
  · intro β nexts tree unfactored each same
    have nonempty : nexts ≠ [] := by
      rintro rfl
      exact unfactored.alternatives_ne_nil same
    apply ChoiceTree.parser_eq_of_chooses
    intro cursor context
    rw [same]
    apply Parser.Chooses.bind nonempty
    intro value reached
    rw [← each value context.config]
    exact (tree value context.config).chooses reached context

theorem common_first_letter_is_read_once :
    let letter (char : Char) : Parser Char Unit Char :=
      .satisfy (· == char) char.toString
    let either : ChoiceTree Char Unit Char :=
      .orElse (.alternative (letter 'b')) (.alternative (letter 'c'))
    let pairs : ChoiceTree Char Unit (Char × Char) :=
      .operator (.alternative (letter 'a' + letter 'b'))
        (.alternative (letter 'a' + letter 'c'))
    let anyLetter : Parser Char Unit Char := .satisfy Char.isAlpha "letter"
    let again : Char → Unit → Parser Char Unit Char := fun char _ => letter char
    let stop : Char → Unit → Parser Char Unit Char := fun _ _ => letter '.'
    let doubled : ChoiceTree Char Unit Char :=
      .orElse (.alternative (anyLetter.bind again))
        (.alternative (anyLetter.bind stop))
    let behind (char : Char) (_ : Unit) : ChoiceTree Char Unit Char :=
      .orElse (.alternative (letter char)) (.alternative (letter '.'))
    pairs.alternatives =
        either.alternatives.map (Joint.plus.parser (letter 'a')) ∧
      pairs.parser = letter 'a' + either.parser ∧
      (∀ char config, (behind char config).alternatives =
        [again, stop].map fun next => next char config) ∧
      doubled.alternatives = [again, stop].map anyLetter.bind ∧
      doubled.parser =
        anyLetter.bind (fun char config => (behind char config).parser) ∧
      pairs.parser.run .start ⟨.ofText "ad", ()⟩ =
        .reject ⟨1, .ofList ["b", "c"]⟩ ∧
      pairs.parser.run .start ⟨.ofText "d", ()⟩ = .reject ⟨0, .ofList ["a"]⟩ ∧
      doubled.parser.run .start ⟨.ofText "xy", ()⟩ =
        .reject ⟨1, .ofList ["x", "."]⟩ := by
  intro letter either pairs anyLetter again stop doubled behind
  have paired : pairs.parser = letter 'a' + either.parser :=
    (common_first_part_factors (letter 'a')).1 .plus either pairs rfl
  have repeated : doubled.parser =
      anyLetter.bind (fun char config => (behind char config).parser) :=
    (common_first_part_factors anyLetter).2 [again, stop] behind doubled
      (fun _ _ => rfl) rfl
  refine ⟨rfl, paired, fun _ _ => rfl, rfl, repeated, ?_, ?_, ?_⟩
  · rw [paired]
    rfl
  · rw [paired]
    rfl
  · rw [repeated]
    rfl

end Descent
