import Descent.Parser.Combinators
import Descent.Proofs.Merging
import Descent.Proofs.Runs

/-! Choice among any number of alternatives. However it is bracketed, the first
alternative that does not fail decides, and if all fail their failures are
joined. Both follow the tree of the choice: what decides one side of it decides
it, and the failures of both sides stand one after the other. -/

namespace Descent

variable {ι κ α : Type} {context : Context ι κ} {cursor : Cursor}

namespace Parser

/-! ## What a choice does -/

/-- From here the parser acts as a choice among `alternatives`. The first of
them that does not fail decides, as if the others were not there; where all fail
the parser fails, with their failures joined. -/
structure Chooses (parser : Parser ι κ α) (alternatives : List (Parser ι κ α))
    (cursor : Cursor) (context : Context ι κ) : Prop where
  decided : ∀ earlier decisive later,
    alternatives = earlier ++ decisive :: later →
    (∀ other ∈ earlier, other.Fails cursor context) →
    ¬ decisive.Fails cursor context →
      parser.run cursor context = decisive.run cursor context
  missed : ∀ failures,
    alternatives.map (fun other => other.run cursor context) =
        failures.map .reject →
      ∃ failure, parser.run cursor context = .reject failure ∧
        failure.Joins failures

theorem exists_failures {alternatives : List (Parser ι κ α)}
    (missed : ∀ other ∈ alternatives, other.Fails cursor context) :
    ∃ failures : List Failure,
      alternatives.map (fun other => other.run cursor context) =
        failures.map .reject := by
  induction alternatives with
  | nil => exact ⟨[], rfl⟩
  | cons head tail induction =>
      rcases missed head List.mem_cons_self with ⟨failure, rejected⟩
      have behind := fun other member =>
        missed other (List.mem_cons_of_mem _ member)
      rcases induction behind with ⟨failures, equal⟩
      exact ⟨failure :: failures,
        by rw [List.map_cons, List.map_cons, rejected, equal]⟩

theorem fail_or_first_decides (alternatives : List (Parser ι κ α))
    (cursor : Cursor) (context : Context ι κ) :
    (∀ other ∈ alternatives, other.Fails cursor context) ∨
      ∃ earlier decisive later, alternatives = earlier ++ decisive :: later ∧
        (∀ other ∈ earlier, other.Fails cursor context) ∧
          ¬ decisive.Fails cursor context := by
  induction alternatives with
  | nil => exact .inl fun _ member => nomatch member
  | cons head tail induction =>
      by_cases failed : head.Fails cursor context
      · rcases induction with
          allFailed | ⟨earlier, decisive, later, split, earlierFailed, decides⟩
        · exact .inl (List.forall_mem_cons.mpr ⟨failed, allFailed⟩)
        · exact .inr ⟨head :: earlier, decisive, later,
            by rw [split, List.cons_append],
            List.forall_mem_cons.mpr ⟨failed, earlierFailed⟩, decides⟩
      · exact .inr ⟨[], head, tail, rfl,
          (fun _ member => nomatch member), failed⟩

namespace Chooses

variable {first second : Parser ι κ α}
  {alternatives others : List (Parser ι κ α)}

theorem single (parser : Parser ι κ α) (cursor : Cursor)
    (context : Context ι κ) :
    parser.Chooses [parser] cursor context where
  decided := by
    intro earlier decisive later split _ _
    rcases List.cons_eq_append_iff.mp split with ⟨_, same⟩ | ⟨rest, _, empty⟩
    · cases same
      rfl
    · simp at empty
  missed := by
    intro failures same
    rcases List.map_eq_singleton_iff.mp same.symm with ⟨failure, rfl, rejected⟩
    exact ⟨failure, rejected.symm, failure.joins_single⟩

theorem fails (chooses : first.Chooses alternatives cursor context)
    (allFail : ∀ other ∈ alternatives, other.Fails cursor context) :
    first.Fails cursor context := by
  rcases exists_failures allFail with ⟨failures, same⟩
  rcases chooses.missed failures same with ⟨failure, rejected, _⟩
  exact ⟨failure, rejected⟩

theorem orElse_run_of_not_fails (decides : ¬ first.Fails cursor context)
    (second : Parser ι κ α) :
    (first.orElse second).run cursor context = first.run cursor context := by
  match attempt : first.run cursor context with
  | .accept _ _ => simp only [Parser.orElse, attempt, Run.recover_accept]
  | .reject failure => exact absurd ⟨failure, attempt⟩ decides
  | .abort _ => simp only [Parser.orElse, attempt, Run.recover_abort]

theorem orElse_run_of_fails (failed : first.Fails cursor context)
    (decides : ¬ second.Fails cursor context) :
    (first.orElse second).run cursor context = second.run cursor context := by
  rcases failed with ⟨failure, rejected⟩
  rw [orElse_run_of_reject rejected]
  match attempt : second.run cursor context with
  | .accept _ _ => rfl
  | .reject other => exact absurd ⟨other, attempt⟩ decides
  | .abort _ => rfl

theorem orElse (firstChooses : first.Chooses alternatives cursor context)
    (secondChooses : second.Chooses others cursor context) :
    (first.orElse second).Chooses (alternatives ++ others) cursor context where
  decided := by
    intro earlier decisive later split earlierFail decides
    have side : (∃ rest, alternatives = earlier ++ decisive :: rest) ∨
        ∃ between, earlier = alternatives ++ between ∧
          others = between ++ decisive :: later := by
      rcases List.append_eq_append_iff.mp split with
        inSecond | ⟨between, inFirst, behind⟩
      · exact .inr inSecond
      · rcases List.cons_eq_append_iff.mp behind with
          ⟨rfl, headed⟩ | ⟨rest, rfl, _⟩
        · exact .inr ⟨[], by simp [inFirst], headed⟩
        · exact .inl ⟨rest, inFirst⟩
    rcases side with ⟨rest, inFirst⟩ | ⟨between, rfl, inSecond⟩
    · have same := firstChooses.decided earlier decisive rest inFirst
        earlierFail decides
      rw [orElse_run_of_not_fails (by rwa [Fails, same]), same]
    · have failed := firstChooses.fails fun other member =>
        earlierFail other (List.mem_append_left between member)
      have same := secondChooses.decided between decisive later inSecond
        (fun other member =>
          earlierFail other (List.mem_append_right _ member)) decides
      rw [orElse_run_of_fails failed (by rwa [Fails, same]), same]
  missed := by
    intro failures same
    rw [List.map_append] at same
    rcases List.map_eq_append_iff.mp same.symm with
      ⟨firsts, seconds, rfl, inFirst, inSecond⟩
    rcases firstChooses.missed firsts inFirst.symm with
      ⟨failure, rejected, joined⟩
    rcases secondChooses.missed seconds inSecond.symm with
      ⟨other, otherRejected, otherJoined⟩
    refine ⟨failure.merge other, ?_, joined.merge otherJoined⟩
    rw [orElse_run_of_reject rejected, otherRejected, Run.recover_reject]

theorem run_eq (chooses : first.Chooses alternatives cursor context)
    (otherChooses : second.Chooses alternatives cursor context) :
    first.run cursor context = second.run cursor context := by
  rcases fail_or_first_decides alternatives cursor context with
    allFail | ⟨earlier, decisive, later, split, earlierFail, decides⟩
  · rcases exists_failures allFail with ⟨failures, same⟩
    rcases chooses.missed failures same with ⟨failure, rejected, joined⟩
    rcases otherChooses.missed failures same with
      ⟨other, otherRejected, otherJoined⟩
    rw [rejected, otherRejected, joined.unique otherJoined]
  · rw [chooses.decided earlier decisive later split earlierFail decides,
      otherChooses.decided earlier decisive later split earlierFail decides]

theorem of_run_eq (nonempty : alternatives ≠ [])
    (same : ∀ other ∈ alternatives,
      other.run cursor context = first.run cursor context) :
    first.Chooses alternatives cursor context where
  decided := by
    intro earlier decisive later split _ _
    have member : decisive ∈ alternatives :=
      split ▸ List.mem_append_right earlier List.mem_cons_self
    exact (same decisive member).symm
  missed := by
    intro failures missed
    have rejected : ∀ failure ∈ failures,
        first.run cursor context = .reject failure := by
      intro failure member
      have listed := missed ▸ List.mem_map_of_mem member
      rcases List.mem_map.mp listed with ⟨other, otherMember, run⟩
      rw [← same other otherMember, run]
    match failures with
    | [] => exact absurd (List.map_eq_nil_iff.mp missed) nonempty
    | failure :: rest =>
        have alike : failure :: rest =
            .replicate (rest.length + 1) failure := by
          apply List.eq_replicate_of_mem
          intro other member
          cases (rejected other member).symm.trans
            (rejected failure List.mem_cons_self)
          rfl
        rw [alike]
        exact ⟨failure, rejected failure List.mem_cons_self,
          failure.joins_replicate rest.length⟩

theorem of_reached {δ : Type} {options : List δ} {here there : δ → Parser ι κ α}
    {reached : Cursor}
    (chooses : second.Chooses (options.map there) reached context)
    (same : first.run cursor context = second.run reached context)
    (each : ∀ option,
      (here option).run cursor context = (there option).run reached context) :
    first.Chooses (options.map here) cursor context where
  decided := by
    intro earlier decisive later split earlierFail decides
    rcases List.map_eq_append_iff.mp split with ⟨before, rest, rfl, rfl, headed⟩
    rcases List.map_eq_cons_iff.mp headed with ⟨option, behind, rfl, rfl, rfl⟩
    rw [same, each option]
    apply chooses.decided (before.map there) (there option) (behind.map there)
    · rw [List.map_append, List.map_cons]
    · intro other member
      rcases List.mem_map.mp member with ⟨passed, inFront, rfl⟩
      rw [Fails, ← each]
      exact earlierFail _ (List.mem_map_of_mem inFront)
    · rwa [Fails, ← each]
  missed := by
    intro failures missed
    rw [same]
    apply chooses.missed
    rw [← missed, List.map_map, List.map_map]
    exact List.map_congr_left fun option _ => (each option).symm

end Chooses

end Parser

/-! ## Any bracketing -/

/-- A choice with its bracketing, each part of it made by the combinator or by
the operator. -/
inductive ChoiceTree (ι κ α : Type) where
  | alternative (parser : Parser ι κ α)
  | orElse (first second : ChoiceTree ι κ α)
  | operator (first second : ChoiceTree ι κ α)

namespace ChoiceTree

def parser : ChoiceTree ι κ α → Parser ι κ α
  | alternative parser => parser
  | orElse first second => first.parser.orElse second.parser
  | operator first second => first.parser <|> second.parser

def alternatives : ChoiceTree ι κ α → List (Parser ι κ α)
  | alternative parser => [parser]
  | orElse first second => first.alternatives ++ second.alternatives
  | operator first second => first.alternatives ++ second.alternatives

theorem chooses (tree : ChoiceTree ι κ α) (cursor : Cursor)
    (context : Context ι κ) :
    tree.parser.Chooses tree.alternatives cursor context := by
  induction tree with
  | alternative parser => exact .single parser cursor context
  | orElse _ _ first second => exact first.orElse second
  | operator _ _ first second => exact first.orElse second

theorem alternatives_ne_nil (tree : ChoiceTree ι κ α) :
    tree.alternatives ≠ [] := by
  induction tree with
  | alternative parser => exact List.cons_ne_nil parser []
  | orElse _ second first _ =>
      exact List.append_ne_nil_of_left_ne_nil first second.alternatives
  | operator _ second first _ =>
      exact List.append_ne_nil_of_left_ne_nil first second.alternatives

theorem parser_eq_of_chooses {tree : ChoiceTree ι κ α} {other : Parser ι κ α}
    (chooses : ∀ cursor context,
      other.Chooses tree.alternatives cursor context) :
    tree.parser = other := by
  ext cursor context
  exact (tree.chooses cursor context).run_eq (chooses cursor context)

theorem chooses_map {β : Type} (change : Parser ι κ α → Parser ι κ β)
    (passes : ∀ first second,
      change (first.orElse second) = (change first).orElse (change second))
    (tree : ChoiceTree ι κ α) (cursor : Cursor) (context : Context ι κ) :
    (change tree.parser).Chooses
      (tree.alternatives.map change) cursor context := by
  induction tree with
  | alternative parser => exact .single (change parser) cursor context
  | orElse _ _ first second =>
      rw [parser, alternatives, passes, List.map_append]
      exact first.orElse second
  | operator _ _ first second =>
      rw [parser, Parser.orElse_eq, alternatives, passes, List.map_append]
      exact first.orElse second

end ChoiceTree

/-- A choice takes the first alternative that matches, with nothing of the
others in it. If all fail, it names what the deepest of their failures name, in
order. How it is bracketed makes no difference. -/
theorem choice_takes_first_match (tree : ChoiceTree ι κ α) :
    (∀ cursor context, tree.parser.Chooses tree.alternatives cursor context) ∧
      ∀ other : ChoiceTree ι κ α, other.alternatives = tree.alternatives →
        other.parser = tree.parser := by
  constructor
  · intro cursor context
    exact tree.chooses cursor context
  · intro other same
    ext cursor context
    exact (other.chooses cursor context).run_eq
      (same ▸ tree.chooses cursor context)

theorem deepest_alternatives_are_named :
    let letter (char : Char) : Parser Char Unit Char :=
      .satisfy (· == char) char.toString
    let leftward : ChoiceTree Char Unit Char :=
      .operator
        (.orElse (.alternative (letter 'a' *> letter 'b'))
          (.alternative (letter 'x')))
        (.alternative (letter 'a' *> letter 'c'))
    let rightward : ChoiceTree Char Unit Char :=
      .orElse (.alternative (letter 'a' *> letter 'b'))
        (.operator (.alternative (letter 'x'))
          (.alternative (letter 'a' *> letter 'c')))
    rightward.alternatives = leftward.alternatives ∧
      rightward.parser = leftward.parser ∧
      (∃ failure,
        leftward.parser.run .start ⟨.ofText "ad", ()⟩ = .reject failure ∧
        failure.Joins [.expecting 1 "b", .expecting 0 "x", .expecting 1 "c"]) ∧
      leftward.parser.run .start ⟨.ofText "ac", ()⟩ =
        .accept 'c' ⟨2, none⟩ := by
  intro letter leftward rightward
  have chosen := choice_takes_first_match leftward
  have firstFails :
      (letter 'a' *> letter 'b').Fails .start ⟨.ofText "ac", ()⟩ :=
    ⟨.expecting 1 "b", rfl⟩
  have secondFails : (letter 'x').Fails .start ⟨.ofText "ac", ()⟩ :=
    ⟨.expecting 0 "x", rfl⟩
  have lastMatches : (letter 'a' *> letter 'c').run .start ⟨.ofText "ac", ()⟩ =
      .accept 'c' ⟨2, none⟩ := rfl
  refine ⟨rfl, chosen.2 rightward rfl, (chosen.1 _ _).missed _ rfl, ?_⟩
  have decided := (chosen.1 .start ⟨.ofText "ac", ()⟩).decided
    [letter 'a' *> letter 'b', letter 'x'] (letter 'a' *> letter 'c') [] rfl
    (by simp [firstFails, secondFails]) (by simp [Parser.Fails, lastMatches])
  rw [decided, lastMatches]

end Descent
