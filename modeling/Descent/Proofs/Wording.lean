import Descent.Proofs.Simulation

/-! What labels change. A label puts its name in the place of what its body
expected, and changes nothing else: without its labels a grammar matches where
it matched, with the same value and up to the same end, and its failures lie
where they lay. -/

namespace Descent

variable {ι κ α : Type} {left right : Context ι κ}

/-- Cursors at the same position where failures are recorded at the same place,
or at none, and failures at the same place. -/
def samePlaces : Correspondence where
  cursor here there :=
    here.position = there.position ∧
      here.furthest.map Failure.position = there.furthest.map Failure.position
  failure missed other := missed.position = other.position

namespace Cursor

theorem depth_eq_getD (cursor : Cursor) :
    cursor.depth = (cursor.furthest.map Failure.position).getD 0 := by
  rcases cursor with ⟨position, furthest⟩
  cases furthest <;> rfl

theorem map_position_record (cursor : Cursor) (failure : Failure) :
    (cursor.record failure).furthest.map Failure.position =
      some (max cursor.depth failure.position) := by
  rw [← depth_record]
  rfl

theorem depth_eq_of_samePlaces {here there : Cursor}
    (same : samePlaces.cursor here there) :
    here.depth = there.depth := by
  rw [depth_eq_getD, depth_eq_getD, same.2]

end Cursor

def rewording (context : Context ι κ) : Simulation context context where
  toCorrespondence := samePlaces
  read := by
    intro here there same
    rw [same.1]
  ended := by
    intro here there same
    rw [same.1]
  move := by
    intro here there same item _
    apply Run.Corresponds.consume
    · rw [same.1]
    · intro _
      exact ⟨congrArg (· + 1) same.1, same.2⟩
  miss := by
    intro here there same description
    change (here.fail description).position = (there.fail description).position
    rw [Cursor.position_fail, Cursor.position_fail, same.1,
      Cursor.depth_eq_of_samePlaces same]
  record := by
    intro here there missed other same place
    refine ⟨same.1, ?_⟩
    rw [Cursor.map_position_record, Cursor.map_position_record,
      Cursor.depth_eq_of_samePlaces same, place]
  merge := by
    intro first second otherFirst otherSecond place otherPlace
    change (first.merge second).position =
      (otherFirst.merge otherSecond).position
    rw [Failure.position_merge, Failure.position_merge, place, otherPlace]

theorem Grammar.simulated_eraseLabels (simulation : Simulation left right)
    (sameConfig : left.config = right.config)
    (unseen : ∀ here there failure other name, simulation.cursor here there →
      simulation.failure failure other →
        simulation.failure (failure.relabel here.position name) other)
    (grammar : Grammar ι κ α) :
    Parser.Simulated simulation Eq grammar.parser
      grammar.eraseLabels.parser := by
  induction grammar with
  | satisfy accepts description => exact .satisfy accepts description
  | endOfInput => exact .endOfInput
  | map f _ body => exact body.map fun _ _ same => by rw [same, sameConfig]
  | bind _ next first following =>
      apply first.bind
      intro value _ same
      rw [← same, ← sameConfig]
      exact following value left.config
  | keepRight _ _ first second => exact first.keepRight second
  | keepLeft _ _ first second => exact first.keepLeft second
  | pair _ _ first second =>
      apply first.pair second
      intro value otherValue result otherResult same alike
      rw [same, alike]
  | orElse _ _ first second => exact first.orElse second
  | optional _ body => exact body.optional (fun _ _ => congrArg some) rfl
  | label _ name body =>
      -- The only place where the two grammars differ.
      exact body.label_left name fun _ _ _ _ => unseen _ _ _ _ name
  | fold _ step start range body =>
      apply body.fold
      · intro total otherTotal value otherValue same alike
        rw [same, alike, sameConfig]
      · rw [sameConfig]

/-- Labels change wording only. Without them, a grammar has the same value, the
same end and its failures at the same places. -/
theorem labels_only_change_wording (grammar : Grammar ι κ α)
    (context : Context ι κ) (start : Cursor) :
    grammar.eraseLabels.LabelFree ∧
      (grammar.parser.run start context).Corresponds samePlaces Eq
        (grammar.eraseLabels.parser.run start context) := by
  refine ⟨grammar.eraseLabels_labelFree, ?_⟩
  apply grammar.simulated_eraseLabels (rewording context) rfl
  · intro here there failure other name _ place
    exact (failure.position_relabel here.position name).trans place
  · exact ⟨rfl, rfl⟩

example :
    let number : Grammar Char Unit (List Char) :=
      .label (.many (.satisfy Char.isDigit "digit") (.atLeast 1)) "number"
    number.parser.run .start ⟨.ofText "a", ()⟩ =
        .reject (.expecting 0 "number") ∧
      number.eraseLabels.parser.run .start ⟨.ofText "a", ()⟩ =
        .reject (.expecting 0 "digit") :=
  ⟨rfl, rfl⟩

end Descent
