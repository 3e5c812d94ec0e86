import ParserAlgebra.Proofs.Simulation

/-!
# Replacing parsers inside parsers

Some pairs of parsers are said to be interchangeable. `Parser.Congruent pairs` relates the parsers
that come from one another by replacing one side of such a pair by the other, as often and as deep
inside as needed: under every operation of this library, in the parsers that closures build from
values, and in delayed parsers. Recursive parsers are covered at every depth of unfolding. What
holds of the pairs holds of all congruent parsers, if it can be said by a comparison of runs that
is an equivalence (`Congruent.relatedBy`).
-/

namespace ParserAlgebra

/-! ## Comparisons that are equivalences -/

section Equivalences

variable {ν α β γ : Type} {values : α → β → Prop} {others : β → γ → Prop}

/-- The comparison is reflexive, and it can be turned around and composed. -/
structure Run.Comparison.IsEquivalence (comparison : Run.Comparison ν ν) : Prop where
  refl : ∀ {α : Type} (run : Run ν α), comparison.Holds Eq run run
  symm :
    ∀ {α β : Type} {values : α → β → Prop} {left : Run ν α} {right : Run ν β},
      comparison.Holds values left right →
        comparison.Holds (fun rightValue leftValue => values leftValue rightValue) right left
  trans :
    ∀ {α β γ : Type} {values : α → β → Prop} {others : β → γ → Prop}
      {left : Run ν α} {middle : Run ν β} {right : Run ν γ},
      comparison.Holds values left middle → comparison.Holds others middle right →
        comparison.Holds
          (fun leftValue rightValue => ∃ value, values leftValue value ∧ others value rightValue)
          left right

theorem Ending.Related.symm
    {left : Ending α} {right : Ending β} (related : Ending.Related values left right) :
    Ending.Related (fun rightValue leftValue => values leftValue rightValue) right left := by
  cases related with
  | done relatedValues => exact .done relatedValues
  | aborted message => exact .aborted message
  | cutOff => exact .cutOff

theorem Ending.Related.trans
    {left : Ending α} {middle : Ending β} {right : Ending γ}
    (first : Ending.Related values left middle) (second : Ending.Related others middle right) :
    Ending.Related
      (fun leftValue rightValue => ∃ value, values leftValue value ∧ others value rightValue)
      left right := by
  cases first with
  | done firstValues =>
      cases second with
      | done secondValues => exact .done ⟨_, firstValues, secondValues⟩
  | aborted message =>
      cases second
      exact .aborted message
  | cutOff =>
      cases second
      exact .cutOff

theorem Run.Comparison.full_isEquivalence :
    (Run.Comparison.full ν).IsEquivalence where
  refl _ := Run.related_eq_iff.2 rfl
  symm related := ⟨related.log_eq.symm, related.endings.symm⟩
  trans first second := ⟨first.log_eq.trans second.log_eq, first.endings.trans second.endings⟩

end Equivalences

namespace Parser

variable {ν ι : Type}

/-! ## The least congruence -/

/-- The parsers come from one another by replacing sides of the given pairs anywhere inside. A
closure that builds a parser may have effects, which are the same on both sides. Pairs behind
handles are covered, since a handle is the parser that it holds by `Parser.handedOn_eq`. -/
inductive Congruent (pairs : (α : Type) → Parser ν α → Parser ν α → Prop) :
    {α : Type} → Parser ν α → Parser ν α → Prop where
  | pair {α : Type} {left right : Parser ν α} :
      pairs α left right → Congruent pairs left right
  | refl {α : Type} (parser : Parser ν α) : Congruent pairs parser parser
  | symm {α : Type} {left right : Parser ν α} :
      Congruent pairs left right → Congruent pairs right left
  | trans {α : Type} {left middle right : Parser ν α} :
      Congruent pairs left middle → Congruent pairs middle right → Congruent pairs left right
  | mapM {α β : Type} (mapper : α → Run ν β) {left right : Parser ν α} :
      Congruent pairs left right → Congruent pairs (left.mapM mapper) (right.mapM mapper)
  | satisfyOrM {α : Type} (test : α → Run ν Bool) (message : String) {left right : Parser ν α} :
      Congruent pairs left right →
        Congruent pairs (left.satisfyOrM test message) (right.satisfyOrM test message)
  | flatMapM {α β : Type} (effect : α → Run ν Unit)
      {left right : Parser ν α} {leftNext rightNext : α → Parser ν β} :
      Congruent pairs left right →
      (∀ value, Congruent pairs (leftNext value) (rightNext value)) →
        Congruent pairs
          (left.flatMapM fun value => do effect value; pure (leftNext value))
          (right.flatMapM fun value => do effect value; pure (rightNext value))
  | applyM {α β : Type}
      {left right : Parser ν α} {leftFunctions rightFunctions : Parser ν (α → Run ν β)} :
      Congruent pairs left right → Congruent pairs leftFunctions rightFunctions →
        Congruent pairs (left.applyM leftFunctions) (right.applyM rightFunctions)
  | orElse {α : Type} {leftFirst leftSecond rightFirst rightSecond : Parser ν α} :
      Congruent pairs leftFirst rightFirst → Congruent pairs leftSecond rightSecond →
        Congruent pairs (leftFirst.orElse leftSecond) (rightFirst.orElse rightSecond)
  | many {α : Type} {left right : Parser ν α} :
      Congruent pairs left right → Congruent pairs left.many right.many
  | some {α : Type} {left right : Parser ν α} :
      Congruent pairs left right → Congruent pairs left.some right.some
  | lazyM {α : Type} (effect : Run ν Unit) {left right : Parser ν α} :
      Congruent pairs left right →
        Congruent pairs
          (Parser.lazyM fun _ => do effect; pure left)
          (Parser.lazyM fun _ => do effect; pure right)

namespace Congruent

variable {pairs : (α : Type) → Parser ν α → Parser ν α → Prop} {α β : Type}
  {left right : Parser ν α}

theorem map (mapper : α → β) (congruent : Congruent pairs left right) :
    Congruent pairs (left.map mapper) (right.map mapper) :=
  congruent.mapM fun value => pure (mapper value)

theorem flatMap
    {leftNext rightNext : α → Parser ν β} (congruent : Congruent pairs left right)
    (nexts : ∀ value, Congruent pairs (leftNext value) (rightNext value)) :
    Congruent pairs (left.flatMap leftNext) (right.flatMap rightNext) :=
  congruent.flatMapM (fun _ => pure ()) nexts

/-- Tables of rules are congruent if their bodies make congruent parsers from congruent ones. -/
theorem recursive
    {τ : ι → Type}
    {leftBodies rightBodies : ((rule : ι) → Parser ν (τ rule)) → (rule : ι) → Parser ν (τ rule)}
    (keeps :
      ∀ leftRules rightRules, (∀ rule, Congruent pairs (leftRules rule) (rightRules rule)) →
        ∀ rule, Congruent pairs (leftBodies leftRules rule) (rightBodies rightRules rule))
    (depth : Nat) (rule : ι) :
    Congruent pairs
      (Parser.recursive leftBodies depth rule) (Parser.recursive rightBodies depth rule) := by
  induction depth generalizing rule with
  | zero => exact Congruent.refl Parser.cutOff
  | succ depth inductionHypothesis => exact keeps _ _ inductionHypothesis rule

end Congruent

/-! ## What congruent parsers have in common -/

section Common

variable {α : Type} {comparison : Run.Comparison ν ν} {messages : String → String → Prop}
  {left middle right : Parser ν α}

theorem RelatedBy.refl
    (equivalence : comparison.IsEquivalence) (sameMessages : ∀ message, messages message message)
    (parser : Parser ν α) :
    RelatedBy comparison Eq messages Eq parser parser := by
  rintro start _ rfl
  apply comparison.mono _ (equivalence.refl (parser.parse start))
  rintro (⟨value, rest⟩ | message) _ rfl
  · exact .success rfl rfl
  · exact .failure (sameMessages message)

theorem RelatedBy.symm
    (equivalence : comparison.IsEquivalence)
    (turned : ∀ {first second}, messages first second → messages second first)
    (related : RelatedBy comparison Eq messages Eq left right) :
    RelatedBy comparison Eq messages Eq right left := by
  rintro start _ rfl
  apply comparison.mono _ (equivalence.symm (related start start rfl))
  intro rightReply leftReply replies
  cases replies with
  | success sameValue sameRest => exact .success sameValue.symm sameRest.symm
  | failure relatedMessages => exact .failure (turned relatedMessages)

theorem RelatedBy.trans
    (equivalence : comparison.IsEquivalence)
    (joined :
      ∀ {first second third},
        messages first second → messages second third → messages first third)
    (first : RelatedBy comparison Eq messages Eq left middle)
    (second : RelatedBy comparison Eq messages Eq middle right) :
    RelatedBy comparison Eq messages Eq left right := by
  rintro start _ rfl
  apply comparison.mono _ (equivalence.trans (first start start rfl) (second start start rfl))
  rintro leftReply rightReply ⟨middleReply, firstReplies, secondReplies⟩
  cases firstReplies with
  | success firstValue firstRest =>
      cases secondReplies with
      | success secondValue secondRest =>
          exact .success (firstValue.trans secondValue) (firstRest.trans secondRest)
  | failure firstMessages =>
      cases secondReplies with
      | failure secondMessages => exact .failure (joined firstMessages secondMessages)

/-- A comparison that is an equivalence and holds of the pairs holds of all congruent parsers;
induction on the replacements. -/
theorem Congruent.relatedBy
    {pairs : (α : Type) → Parser ν α → Parser ν α → Prop}
    (equivalence : comparison.IsEquivalence) (sameMessages : Equivalence messages)
    (relatedPairs :
      ∀ (α : Type) (left right : Parser ν α), pairs α left right →
        RelatedBy comparison Eq messages Eq left right)
    (congruent : Congruent pairs left right) :
    RelatedBy comparison Eq messages Eq left right := by
  have sameRuns {β : Type} (run : Run ν β) : comparison.Holds Eq run run := equivalence.refl run
  have together : Cursor.ProgressTogether Eq := Cursor.inStep_eq.progressTogether
  induction congruent with
  | pair interchangeable => exact relatedPairs _ _ _ interchangeable
  | refl parser => exact .refl equivalence sameMessages.refl parser
  | symm _ related => exact related.symm equivalence sameMessages.symm
  | trans _ _ first second => exact first.trans equivalence sameMessages.trans second
  | mapM mapper _ related =>
      apply related.mapM
      rintro value _ rfl
      exact sameRuns (mapper value)
  | satisfyOrM test message _ related =>
      apply related.satisfyOrM _ (sameMessages.refl message)
      rintro value _ rfl
      exact sameRuns (test value)
  | flatMapM effect _ _ related nexts =>
      apply related.flatMapM
      rintro value _ rfl
      exact comparison.effect_pure (sameRuns (effect value)) (nexts value)
  | applyM _ _ related functions =>
      apply related.applyM
      apply functions.mono
      rintro function _ rfl value _ rfl
      exact sameRuns (function value)
  | orElse _ _ first second => exact first.orElse second
  | many _ related => exact related.many_eq together
  | some _ related => exact related.some_eq together
  | lazyM effect _ related =>
      apply RelatedBy.lazyM
      exact comparison.effect_pure (sameRuns effect) related

end Common

end Parser

end ParserAlgebra
