import Descent.Proofs.Agreement

/-! What values decide. Only a continuation looks at the value read before it.
Two grammars without continuations that differ in nothing but the functions that
compute values take the same course over the same input, under any two
configurations. -/

namespace Descent

variable {ι κ α β : Type}

/-- Both grammars are put together in the same way from the same parts, but for
the functions that compute values, which may be any. No rule is for `bind`: a
continuation is chosen by a value. -/
inductive Grammar.SameShape {ι κ : Type} :
    {α β : Type} → Grammar ι κ α → Grammar ι κ β → Prop
  | satisfy (accepts : ι → Bool) (description : String) :
      SameShape (.satisfy accepts description) (.satisfy accepts description)
  | endOfInput : SameShape .endOfInput .endOfInput
  | map (bodies : SameShape body otherBody) :
      SameShape (.map f body) (.map g otherBody)
  | keepRight (firsts : SameShape first otherFirst)
      (seconds : SameShape second otherSecond) :
      SameShape (.keepRight first second) (.keepRight otherFirst otherSecond)
  | keepLeft (firsts : SameShape first otherFirst)
      (seconds : SameShape second otherSecond) :
      SameShape (.keepLeft first second) (.keepLeft otherFirst otherSecond)
  | pair (firsts : SameShape first otherFirst)
      (seconds : SameShape second otherSecond) :
      SameShape (.pair first second) (.pair otherFirst otherSecond)
  | orElse (firsts : SameShape first otherFirst)
      (seconds : SameShape second otherSecond) :
      SameShape (.orElse first second) (.orElse otherFirst otherSecond)
  | optional (bodies : SameShape body otherBody) :
      SameShape (.optional body) (.optional otherBody)
  | label (bodies : SameShape body otherBody) (name : String) :
      SameShape (.label body name) (.label otherBody name)
  | fold (bodies : SameShape body otherBody) (range : CountRange) :
      SameShape (.fold body step start range)
        (.fold otherBody otherStep otherStart range)

def Run.withoutValue (run : Run α) : Run Unit :=
  run.andThen fun _ reached => .accept () reached

theorem Grammar.SameShape.simulated {left right : Context ι κ}
    {grammar : Grammar ι κ α} {other : Grammar ι κ β}
    (alike : grammar.SameShape other) (simulation : Simulation left right)
    (labels : simulation.PassesLabels) :
    Parser.Simulated simulation (fun _ _ => True) grammar.parser
      other.parser := by
  induction alike with
  | satisfy accepts description =>
      exact (Parser.Simulated.satisfy accepts description).mono
        fun _ _ _ => trivial
  | endOfInput => exact Parser.Simulated.endOfInput.mono fun _ _ _ => trivial
  | map _ bodies => exact bodies.map fun _ _ _ => trivial
  | keepRight _ _ firsts seconds => exact firsts.keepRight seconds
  | keepLeft _ _ firsts seconds => exact firsts.keepLeft seconds
  | pair _ _ firsts seconds =>
      exact firsts.pair seconds fun _ _ _ _ _ _ => trivial
  | orElse _ _ firsts seconds => exact firsts.orElse seconds
  | optional _ bodies => exact bodies.optional (fun _ _ _ => trivial) trivial
  | label _ name bodies =>
      exact bodies.label name fun _ _ _ _ => labels _ _ _ _ name
  | fold _ range bodies =>
      exact bodies.fold (fun _ _ _ _ _ _ => trivial) trivial range

theorem Grammar.SameShape.many {body : Grammar ι κ α}
    {otherBody : Grammar ι κ β} (bodies : body.SameShape otherBody)
    (range : CountRange) :
    (body.many range).SameShape (otherBody.many range) :=
  .map (.fold bodies range)

theorem Context.agreesOn_of_input (input : Input ι) (config otherConfig : κ) :
    AgreesOn ⟨input, config⟩ ⟨input, otherConfig⟩ fun _ => True where
  length := rfl
  lookup _ _ := rfl
  step _ _ _ _ := trivial

theorem Run.withoutValue_eq_of_corresponds_agreeing {left right : Context ι κ}
    {within : Nat → Prop} {agrees : left.AgreesOn right within}
    {values : α → β → Prop} {run : Run α} {other : Run β}
    (related :
      run.Corresponds (agreeing agrees).toCorrespondence values other) :
    run.withoutValue = other.withoutValue := by
  cases related with
  | accept _ arrived =>
      rw [arrived.2]
      rfl
  | reject missed =>
      rw [missed]
      rfl
  | abort fault => rfl

/-- Values do not steer a run. Two grammars of the same shape match, fail or are
aborted alike, whatever functions compute their values, and under any two
configurations. -/
theorem values_do_not_steer_runs {grammar : Grammar ι κ α}
    {other : Grammar ι κ β} (alike : grammar.SameShape other) (input : Input ι)
    (config otherConfig : κ) (start : Cursor) :
    (grammar.parser.run start ⟨input, config⟩).withoutValue =
      (other.parser.run start ⟨input, otherConfig⟩).withoutValue := by
  have agrees := Context.agreesOn_of_input input config otherConfig
  have related :=
    alike.simulated (agreeing agrees) (agreeing_passesLabels agrees)
  exact Run.withoutValue_eq_of_corresponds_agreeing
    (related start start ⟨trivial, rfl⟩)

theorem scaled_and_reversed_digits_run_alike :
    let sign : Grammar Char Nat Char := .satisfy (· == '-') "sign"
    let digits : Grammar Char Nat (List Char) :=
      .many (.satisfy Char.isDigit "digit") (.atLeast 1)
    let scaled : Grammar Char Nat (Option Char × Nat) :=
      .pair (.optional sign)
        (.map (fun chars factor => Nat.ofDigitChars 10 chars 0 * factor) digits)
    let reversed : Grammar Char Nat (Option Char × List Char) :=
      .pair (.optional sign) (.map (fun chars _ => chars.reverse) digits)
    scaled.SameShape reversed ∧
      scaled.parser.run .start ⟨.ofText "12a", 3⟩ =
        .accept (none, 36) ⟨2, some (.expecting 0 "sign")⟩ ∧
      (reversed.parser.run .start ⟨.ofText "12a", 0⟩).withoutValue =
        .accept () ⟨2, some (.expecting 0 "sign")⟩ := by
  intro sign digits scaled reversed
  have alike : scaled.SameShape reversed :=
    .pair (.optional (.satisfy _ _)) (.map (.many (.satisfy _ _) _))
  have read : scaled.parser.run .start ⟨.ofText "12a", 3⟩ =
      .accept (none, 36) ⟨2, some (.expecting 0 "sign")⟩ := rfl
  have same := values_do_not_steer_runs alike (.ofText "12a") 3 0 .start
  rw [read] at same
  exact ⟨alike, read, same.symm⟩

end Descent
