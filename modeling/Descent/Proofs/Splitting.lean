import Descent.Proofs.Counts
import Descent.Proofs.Repetition

/-! Repetitions in two parts. Matches that are read first and matches that are
read after them make up one trail. So a repetition can be cut behind any number
of matches that it requires: what is left of it goes on by itself from there,
with that number taken from both of its limits. -/

namespace Descent

variable {ι κ α β γ : Type} {context : Context ι κ}

namespace Parser

variable {parser : Parser ι κ α} {count least most : Nat}

namespace Repeats

variable {block rest whole : CountLimits} {step : β → α → β} {total : β}
  {start middle : Cursor} {run : Run β}

theorem prepend {first : List α}
    (ends : parser.Repeats context rest step (first.foldl step total) middle
      run)
    (trail : parser.Trail context start first middle)
    (leastAdds : whole.least = first.length + rest.least)
    (mostAdds : whole.most = first.length + rest.most) :
    parser.Repeats context whole step total start run := by
  cases ends with
  | full further count =>
      rw [← List.foldl_append]
      exact .full (trail.append further)
        (by rw [List.length_append, count, mostAdds])
  | enough further room missed count =>
      rw [← List.foldl_append]
      exact .enough (trail.append further)
        (by rw [List.length_append]; omega) missed
        (by rw [List.length_append]; omega)
  | tooFew further room missed count =>
      exact .tooFew (trail.append further)
        (by rw [List.length_append]; omega) missed
        (by rw [List.length_append]; omega)
  | aborted further room cut =>
      exact .aborted (trail.append further)
        (by rw [List.length_append]; omega) cut

theorem andThen {next : β → Cursor → Run β}
    (ends : parser.Repeats context block step total start run)
    (goesOn : ∀ folded middle,
      parser.Repeats context rest step folded middle (next folded middle))
    (oneCount : block.least = block.most)
    (leastAdds : whole.least = block.most + rest.least)
    (mostAdds : whole.most = block.most + rest.most) :
    parser.Repeats context whole step total start (run.andThen next) := by
  have order := rest.least_le_most
  cases ends with
  | full trail count => exact (goesOn _ _).prepend trail (by omega) (by omega)
  | enough trail room missed count =>
      -- A block of one count only does not end before it is full.
      omega
  | tooFew trail room missed count =>
      exact .tooFew trail (by omega) missed (by omega)
  | aborted trail room cut => exact .aborted trail (by omega) cut

end Repeats

theorem fold_exactly_bind_fold (parser : Parser ι κ α) (step : β → α → κ → β)
    (initial : κ → β) (order : least ≤ most)
    (within : count + most ≤ sizeLimit) :
    ((parser.fold step initial (.exactly count)).bind fun total _ =>
        parser.fold step (fun _ => total) (.between least most)) =
      parser.fold step initial (.between (count + least) (count + most)) := by
  have blockWithin : count ≤ sizeLimit := by omega
  have restWithin : most ≤ sizeLimit := by omega
  have sumOrder : count + least ≤ count + most := by omega
  have leastOfBlock : (CountRange.exactly count).limits.least = count :=
    CountRange.least_between (Nat.le_refl count) blockWithin
  have mostOfBlock : (CountRange.exactly count).limits.most = count :=
    CountRange.most_between (Nat.le_refl count) blockWithin
  ext start context
  apply Eq.symm
  rw [fold_run_iff]
  apply ((parser.fold_run_iff step initial (.exactly count) start context _).mp
    rfl).andThen
  · intro folded middle
    exact (parser.fold_run_iff step (fun _ => folded)
      (.between least most) middle context _).mp rfl
  · rw [leastOfBlock, mostOfBlock]
  · rw [CountRange.least_between sumOrder within, mostOfBlock,
      CountRange.least_between order restWithin]
  · rw [CountRange.most_between sumOrder within, mostOfBlock,
      CountRange.most_between order restWithin]

theorem fold_append_eq_map_many (parser : Parser ι κ α) (first : List α)
    (range : CountRange) :
    parser.fold (fun values value _ => values ++ [value]) (fun _ => first)
        range =
      (parser.many range).map fun rest _ => first ++ rest := by
  rw [fold_eq_map_many]
  simp only [foldl_concat]

theorem map_pair (first : Parser ι κ α) (second : Parser ι κ β)
    (f : α → β → γ) :
    (first.pair second).map (fun both _ => f both.1 both.2) =
      first.bind fun left _ => second.map fun right _ => f left right := by
  ext start context
  simp only [map, pair, bind, Run.andThen_assoc, Run.andThen_accept]

end Parser

/-- Repetitions split: a block of just so many matches, followed by further ones
between two counts, ends as one repetition between the sums of the counts. -/
theorem repetition_splits_behind_a_block (parser : Parser ι κ α)
    (count least most : Nat) (order : least ≤ most)
    (within : count + most ≤ sizeLimit) :
    ((parser.many (.exactly count)).pair
          (parser.many (.between least most))).map
        (fun both _ => both.1 ++ both.2) =
      parser.many (.between (count + least) (count + most)) := by
  calc
    _ = (parser.many (.exactly count)).bind fun first _ =>
          (parser.many (.between least most)).map fun rest _ => first ++ rest :=
      Parser.map_pair _ _ _
    _ = (parser.fold (fun values value _ => values ++ [value]) (fun _ => [])
          (.exactly count)).bind fun first _ =>
            parser.fold (fun values value _ => values ++ [value])
              (fun _ => first) (.between least most) := by
      rw [parser.many_eq_fold (.exactly count)]
      simp only [Parser.fold_append_eq_map_many]
    _ = parser.fold (fun values value _ => values ++ [value]) (fun _ => [])
          (.between (count + least) (count + most)) :=
      parser.fold_exactly_bind_fold _ _ order within
    _ = parser.many (.between (count + least) (count + most)) :=
      (parser.many_eq_fold _).symm

theorem two_digits_and_more_split :
    let digit : Parser Char Unit Char := .satisfy Char.isDigit "digit"
    let split : Parser Char Unit (List Char) :=
      (Parser.map (fun both _ => both.1 ++ both.2)
        (digit.many (.exactly 2) + digit.many (.between 1 2)))
    1 ≤ 2 ∧ 2 + 2 ≤ sizeLimit ∧ split = digit.many (.between 3 4) ∧
      split.run .start ⟨.ofText "123a", ()⟩ =
        .accept ['1', '2', '3'] ⟨3, none⟩ ∧
      split.run .start ⟨.ofText "12a", ()⟩ =
        .reject (.expecting 2 "digit") := by
  intro digit split
  have order : 1 ≤ 2 := by decide
  have within : 2 + 2 ≤ sizeLimit := by decide
  have whole : split = digit.many (.between 3 4) :=
    repetition_splits_behind_a_block digit 2 1 2 order within
  refine ⟨order, within, whole, ?_, ?_⟩
  · rw [whole]
    rfl
  · rw [whole]
    rfl

end Descent
