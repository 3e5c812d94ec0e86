import Mathlib.Data.List.Forall2
import ParserAlgebra.Grammar
import ParserAlgebra.Proofs.Passing

/-!
# Two parsers in step

There are several ways to compare runs: by their logs and endings, by their endings alone, or only
so long as nothing happens that excuses a difference. What they share is a `Run.Comparison`: it
holds of what is built alike from comparable runs. Two parsers are related when their runs from
related places compare, where successes have related values and related rests and failures have
related messages. Every operation of this library takes related parsers to related parsers,
whatever the comparison and whatever the relations on values and messages are, so long as both
make progress together. What two parsers do alike is proved by a choice of these.
-/

namespace ParserAlgebra

/-! ## Comparisons of runs -/

/-- A way of comparing runs, given a relation on the values that they come to, which respects
everything that runs are built from. -/
structure Run.Comparison (ν μ : Type) where
  /-- The runs compare, and values that both come to are related. -/
  Holds : {α β : Type} → (α → β → Prop) → Run ν α → Run μ β → Prop
  pure :
    ∀ {α β : Type} {values : α → β → Prop} {left : α} {right : β},
      values left right → Holds values (Pure.pure left) (Pure.pure right)
  bindOfDone :
    ∀ {α β γ δ : Type} {values : α → β → Prop} {others : γ → δ → Prop}
      {left : Run ν α} {right : Run μ β} {leftNext : α → Run ν γ} {rightNext : β → Run μ δ},
      Holds values left right →
      (∀ leftValue rightValue, left.ending = .done leftValue → values leftValue rightValue →
        Holds others (leftNext leftValue) (rightNext rightValue)) →
      Holds others (left >>= leftNext) (right >>= rightNext)
  emit : ∀ event : Event, Holds Eq (Run.emit event) (Run.emit event)
  cutOff :
    ∀ {α β : Type} {values : α → β → Prop},
      Holds values (Run.cutOff : Run ν α) (Run.cutOff : Run μ β)

namespace Run.Comparison

variable {ν μ α β γ δ : Type} {values weaker : α → β → Prop} {others : γ → δ → Prop}

theorem bind
    (comparison : Run.Comparison ν μ) {left : Run ν α} {right : Run μ β}
    {leftNext : α → Run ν γ} {rightNext : β → Run μ δ}
    (holds : comparison.Holds values left right)
    (next :
      ∀ leftValue rightValue, values leftValue rightValue →
        comparison.Holds others (leftNext leftValue) (rightNext rightValue)) :
    comparison.Holds others (left >>= leftNext) (right >>= rightNext) :=
  comparison.bindOfDone holds fun leftValue rightValue _ => next leftValue rightValue

theorem mono
    (comparison : Run.Comparison ν μ) {left : Run ν α} {right : Run μ β}
    (implies : ∀ leftValue rightValue, values leftValue rightValue → weaker leftValue rightValue)
    (holds : comparison.Holds values left right) :
    comparison.Holds weaker left right := by
  rw [← bind_pure left, ← bind_pure right]
  apply comparison.bind holds
  intro leftValue rightValue related
  exact comparison.pure (implies leftValue rightValue related)

theorem effect_pure
    (comparison : Run.Comparison ν μ) {leftEffect : Run ν Unit} {rightEffect : Run μ Unit}
    {left : α} {right : β}
    (effects : comparison.Holds Eq leftEffect rightEffect) (related : values left right) :
    comparison.Holds values
      (do leftEffect; Pure.pure left) (do rightEffect; Pure.pure right) := by
  apply comparison.bind effects
  intro _ _ _
  exact comparison.pure related

theorem emit_bind
    (comparison : Run.Comparison ν μ) {left : Run ν α} {right : Run μ β} (event : Event)
    (holds : comparison.Holds values left right) :
    comparison.Holds values (do Run.emit event; left) (do Run.emit event; right) :=
  comparison.bind (comparison.emit event) fun _ _ _ => holds

end Run.Comparison

/-! ### By logs and endings -/

/-- Endings of the same kind, with related values and the same messages. -/
inductive Ending.Related {α β : Type} (values : α → β → Prop) : Ending α → Ending β → Prop where
  | done {left : α} {right : β} :
      values left right → Ending.Related values (.done left) (.done right)
  | aborted (message : String) : Ending.Related values (.aborted message) (.aborted message)
  | cutOff : Ending.Related values .cutOff .cutOff

theorem Ending.related_eq_iff {α : Type} {left right : Ending α} :
    Ending.Related Eq left right ↔ left = right := by
  constructor
  · intro related
    cases related with
    | done sameValue => rw [sameValue]
    | aborted message => rfl
    | cutOff => rfl
  · rintro rfl
    cases left with
    | done value => exact .done rfl
    | aborted message => exact .aborted message
    | cutOff => exact .cutOff

/-- Runs with the same log and related endings. -/
structure Run.Related {ν α β : Type} (values : α → β → Prop)
    (left : Run ν α) (right : Run ν β) : Prop where
  log_eq : left.log = right.log
  endings : Ending.Related values left.ending right.ending

theorem Run.related_eq_iff {ν α : Type} {left right : Run ν α} :
    Run.Related Eq left right ↔ left = right := by
  constructor
  · intro related
    exact Run.ext related.log_eq (Ending.related_eq_iff.1 related.endings)
  · rintro rfl
    exact ⟨rfl, Ending.related_eq_iff.2 rfl⟩

theorem Run.Related.bind
    {ν α β γ δ : Type} {values : α → β → Prop} {others : γ → δ → Prop}
    {left : Run ν α} {right : Run ν β} {leftNext : α → Run ν γ} {rightNext : β → Run ν δ}
    (related : Run.Related values left right)
    (next :
      ∀ leftValue rightValue, left.ending = .done leftValue → values leftValue rightValue →
        Run.Related others (leftNext leftValue) (rightNext rightValue)) :
    Run.Related others (left >>= leftNext) (right >>= rightNext) := by
  obtain ⟨log, leftEnding⟩ := left
  obtain ⟨rightLog, rightEnding⟩ := right
  obtain ⟨sameLog, endings⟩ := related
  simp only at sameLog
  subst sameLog
  cases endings with
  | @done leftValue rightValue relatedValues =>
      obtain ⟨nextLog, nextEndings⟩ := next leftValue rightValue rfl relatedValues
      rw [done_bind, done_bind]
      exact ⟨congrArg (log ++ ·) nextLog, nextEndings⟩
  | aborted message => exact ⟨rfl, .aborted message⟩
  | cutOff => exact ⟨rfl, .cutOff⟩

/-- Runs are compared by everything that can be seen of them. -/
def Run.Comparison.full (ν : Type) : Run.Comparison ν ν where
  Holds := Run.Related
  pure related := ⟨rfl, .done related⟩
  bindOfDone := Run.Related.bind
  emit _ := ⟨rfl, .done rfl⟩
  cutOff := ⟨rfl, .cutOff⟩

/-! ### With an excuse -/

/-- A reason why a run need not be compared any further. Once a run has it, so has everything
that goes on from the run. -/
structure Run.Excuse (ν : Type) where
  Holds : {α : Type} → Run ν α → Prop
  of_first :
    ∀ {α β : Type} {run : Run ν α} {next : α → Run ν β}, Holds run → Holds (run >>= next)
  of_next :
    ∀ {α β : Type} {run : Run ν α} {next : α → Run ν β} {value : α},
      run.ending = .done value → Holds (next value) → Holds (run >>= next)

/-- Runs are compared as before, unless the first is excused. -/
def Run.Comparison.unless {ν μ : Type}
    (comparison : Run.Comparison ν μ) (excuse : Run.Excuse ν) : Run.Comparison ν μ where
  Holds values left right := excuse.Holds left ∨ comparison.Holds values left right
  pure related := .inr (comparison.pure related)
  bindOfDone := by
    intro α β γ δ values others left right leftNext rightNext holds next
    by_cases excused : excuse.Holds (left >>= leftNext)
    · exact .inl excused
    · rcases holds with excusedBefore | related
      · exact absurd (excuse.of_first excusedBefore) excused
      · refine .inr (comparison.bindOfDone related ?_)
        intro leftValue rightValue ending relatedValues
        rcases next leftValue rightValue ending relatedValues with excusedAfter | relatedAfter
        · exact absurd (excuse.of_next ending excusedAfter) excused
        · exact relatedAfter
  emit event := .inr (comparison.emit event)
  cutOff := .inr comparison.cutOff

/-! ## Related places -/

/-- A relation on places under which both sides always make progress together. -/
def Cursor.ProgressTogether (places : Cursor → Cursor → Prop) : Prop :=
  ∀ left right leftRest rightRest, places left right → places leftRest rightRest →
    (left.Consumed leftRest ↔ right.Consumed rightRest)

/-- A relation on places that both reach by the same letters if they are related before. -/
structure Cursor.InStep (places : Cursor → Cursor → Prop) : Prop where
  rest_eq {left right : Cursor} :
    places left right → left.rest.letters = right.rest.letters
  next {left right leftRest rightRest : Cursor} {letter : Char} :
    places left right →
      left.next? = some (letter, leftRest) → right.next? = some (letter, rightRest) →
        places leftRest rightRest

theorem Cursor.InStep.bytesLeft_eq
    {places : Cursor → Cursor → Prop} (inStep : Cursor.InStep places)
    {left right : Cursor} (related : places left right) :
    left.bytesLeft = right.bytesLeft := by
  rw [Cursor.bytesLeft_eq, Cursor.bytesLeft_eq, inStep.rest_eq related]

theorem Cursor.InStep.progressTogether
    {places : Cursor → Cursor → Prop} (inStep : Cursor.InStep places) :
    Cursor.ProgressTogether places := by
  intro left right leftRest rightRest starts rests
  have sameBefore : left.bytesLeft = right.bytesLeft := inStep.bytesLeft_eq starts
  have sameAfter : leftRest.bytesLeft = rightRest.bytesLeft := inStep.bytesLeft_eq rests
  rw [Cursor.Consumed, Cursor.Consumed, sameBefore, sameAfter]

theorem Cursor.inStep_eq : Cursor.InStep Eq where
  rest_eq := by
    rintro left _ rfl
    rfl
  next := by
    rintro left _ leftRest rightRest letter rfl leftMoved rightMoved
    rw [leftMoved] at rightMoved
    cases rightMoved
    rfl

/-! ## Related replies and parsers -/

/-- Successes with related values and rests, or failures with related messages. -/
inductive Reply.Related {α β : Type} (values : α → β → Prop) (messages : String → String → Prop)
    (places : Cursor → Cursor → Prop) : Reply α → Reply β → Prop where
  | success {left : α} {right : β} {leftRest rightRest : Cursor} :
      values left right → places leftRest rightRest →
        Reply.Related values messages places (.success left leftRest) (.success right rightRest)
  | failure {left right : String} :
      messages left right →
        Reply.Related values messages places (.failure left) (.failure right)

theorem Reply.related_eq {α : Type} :
    Reply.Related Eq Eq Eq = (Eq : Reply α → Reply α → Prop) := by
  funext left right
  apply propext
  constructor
  · intro related
    cases related with
    | success sameValue sameRest => rw [sameValue, sameRest]
    | failure sameMessage => rw [sameMessage]
  · rintro rfl
    cases left with
    | success value rest => exact .success rfl rfl
    | failure message => exact .failure rfl

namespace Parser

variable {ν μ α β γ δ : Type} {comparison : Run.Comparison ν μ}
  {values : α → β → Prop} {others : γ → δ → Prop}
  {messages : String → String → Prop} {places : Cursor → Cursor → Prop}

/-- Parsers whose runs from related places compare. -/
def RelatedBy (comparison : Run.Comparison ν μ) (values : α → β → Prop)
    (messages : String → String → Prop) (places : Cursor → Cursor → Prop)
    (left : Parser ν α) (right : Parser μ β) : Prop :=
  ∀ leftStart rightStart, places leftStart rightStart →
    comparison.Holds (Reply.Related values messages places)
      (left.parse leftStart) (right.parse rightStart)

namespace RelatedBy

theorem mono
    {weaker : α → β → Prop} {left : Parser ν α} {right : Parser μ β}
    (implies : ∀ leftValue rightValue, values leftValue rightValue → weaker leftValue rightValue)
    (related : RelatedBy comparison values messages places left right) :
    RelatedBy comparison weaker messages places left right := by
  intro leftStart rightStart starts
  apply comparison.mono _ (related leftStart rightStart starts)
  intro leftReply rightReply replies
  cases replies with
  | success relatedValues rests => exact .success (implies _ _ relatedValues) rests
  | failure relatedMessages => exact .failure relatedMessages

theorem cutOff :
    RelatedBy comparison values messages places
      (Parser.cutOff : Parser ν α) (Parser.cutOff : Parser μ β) :=
  fun _ _ _ => comparison.cutOff

theorem item (inStep : Cursor.InStep places) (noInputs : messages noInput noInput) :
    RelatedBy comparison Eq messages places Parser.item Parser.item := by
  intro left right related
  have same : left.rest.letters = right.rest.letters := inStep.rest_eq related
  rw [parse_item, parse_item]
  cases leftStep : left.next? with
  | none =>
      have rightStep : right.next? = none := by
        rw [Cursor.next?_eq_none_iff] at leftStep ⊢
        rw [← same, leftStep]
      rw [rightStep]
      exact comparison.pure (.failure noInputs)
  | some leftFound =>
      obtain ⟨letter, leftRest⟩ := leftFound
      cases rightStep : right.next? with
      | none =>
          rw [Cursor.next?_eq_none_iff, ← same, ← Cursor.next?_eq_none_iff, leftStep] at rightStep
          cases rightStep
      | some rightFound =>
          obtain ⟨rightLetter, rightRest⟩ := rightFound
          have leftLetters : left.rest.letters = letter :: leftRest.rest.letters :=
            ((Cursor.next?_eq_some_iff _ _ _).1 leftStep).1
          have rightLetters : right.rest.letters = rightLetter :: rightRest.rest.letters :=
            ((Cursor.next?_eq_some_iff _ _ _).1 rightStep).1
          rw [same, rightLetters] at leftLetters
          obtain rfl : rightLetter = letter := List.head_eq_of_cons_eq leftLetters
          have rests : places leftRest rightRest := inStep.next related leftStep rightStep
          exact comparison.pure (.success rfl rests)

theorem valueOf {left : α} {right : β} (related : values left right) :
    RelatedBy comparison values messages places (Parser.valueOf left) (Parser.valueOf right) :=
  fun _ _ samePlace => comparison.pure (.success related samePlace)

theorem failure {left right : String} (related : messages left right) :
    RelatedBy comparison values messages places (Parser.failure left) (Parser.failure right) :=
  fun _ _ _ => comparison.pure (.failure related)

theorem andThenM
    {left : Parser ν α} {right : Parser μ β}
    {leftNext : α → Cursor → Run ν (Reply γ)} {rightNext : β → Cursor → Run μ (Reply δ)}
    (related : RelatedBy comparison values messages places left right)
    (next :
      ∀ leftValue rightValue leftRest rightRest,
        values leftValue rightValue → places leftRest rightRest →
          comparison.Holds (Reply.Related others messages places)
            (leftNext leftValue leftRest) (rightNext rightValue rightRest))
    {leftStart rightStart : Cursor} (starts : places leftStart rightStart) :
    comparison.Holds (Reply.Related others messages places)
      (left.parse leftStart >>= Reply.andThenM leftNext)
      (right.parse rightStart >>= Reply.andThenM rightNext) := by
  apply comparison.bind (related leftStart rightStart starts)
  intro leftReply rightReply replies
  cases replies with
  | success relatedValues rests => exact next _ _ _ _ relatedValues rests
  | failure relatedMessages => exact comparison.pure (.failure relatedMessages)

/-! ### Closures with effects -/

theorem mapM
    {left : Parser ν α} {right : Parser μ β} {leftMapper : α → Run ν γ} {rightMapper : β → Run μ δ}
    (related : RelatedBy comparison values messages places left right)
    (mappers :
      ∀ leftValue rightValue, values leftValue rightValue →
        comparison.Holds others (leftMapper leftValue) (rightMapper rightValue)) :
    RelatedBy comparison others messages places
      (left.mapM leftMapper) (right.mapM rightMapper) := by
  intro leftStart rightStart starts
  apply comparison.bind (related leftStart rightStart starts)
  intro leftReply rightReply replies
  cases replies with
  | @success leftValue rightValue _ _ relatedValues rests =>
      apply comparison.bind (mappers leftValue rightValue relatedValues)
      intro leftImage rightImage relatedImages
      exact comparison.pure (.success relatedImages rests)
  | failure relatedMessages => exact comparison.pure (.failure relatedMessages)

theorem satisfyOrM
    {left : Parser ν α} {right : Parser μ β}
    {leftTest : α → Run ν Bool} {rightTest : β → Run μ Bool}
    {leftMessage rightMessage : String}
    (related : RelatedBy comparison values messages places left right)
    (tests :
      ∀ leftValue rightValue, values leftValue rightValue →
        comparison.Holds Eq (leftTest leftValue) (rightTest rightValue))
    (relatedMessages : messages leftMessage rightMessage) :
    RelatedBy comparison values messages places
      (left.satisfyOrM leftTest leftMessage) (right.satisfyOrM rightTest rightMessage) := by
  intro leftStart rightStart starts
  apply related.andThenM _ starts
  intro leftValue rightValue leftRest rightRest relatedValues rests
  apply comparison.bind (tests leftValue rightValue relatedValues)
  rintro passed _ rfl
  cases passed with
  | true => exact comparison.pure (.success relatedValues rests)
  | false => exact comparison.pure (.failure relatedMessages)

theorem flatMapM
    {left : Parser ν α} {right : Parser μ β}
    {leftNext : α → Run ν (Parser ν γ)} {rightNext : β → Run μ (Parser μ δ)}
    (related : RelatedBy comparison values messages places left right)
    (next :
      ∀ leftValue rightValue, values leftValue rightValue →
        comparison.Holds (RelatedBy comparison others messages places)
          (leftNext leftValue) (rightNext rightValue)) :
    RelatedBy comparison others messages places
      (left.flatMapM leftNext) (right.flatMapM rightNext) := by
  intro leftStart rightStart starts
  apply related.andThenM _ starts
  intro leftValue rightValue leftRest rightRest relatedValues rests
  apply comparison.bind (next leftValue rightValue relatedValues)
  intro leftParser rightParser relatedParsers
  exact relatedParsers leftRest rightRest rests

theorem applyM
    {left : Parser ν α} {right : Parser μ β}
    {leftFunctions : Parser ν (α → Run ν γ)} {rightFunctions : Parser μ (β → Run μ δ)}
    (related : RelatedBy comparison values messages places left right)
    (functions :
      RelatedBy comparison
        (fun leftFunction rightFunction =>
          ∀ leftValue rightValue, values leftValue rightValue →
            comparison.Holds others (leftFunction leftValue) (rightFunction rightValue))
        messages places leftFunctions rightFunctions) :
    RelatedBy comparison others messages places
      (left.applyM leftFunctions) (right.applyM rightFunctions) := by
  intro leftStart rightStart starts
  apply functions.andThenM _ starts
  intro leftFunction rightFunction leftRest rightRest relatedFunctions rests
  exact related.mapM relatedFunctions leftRest rightRest rests

theorem lazyM
    {leftFactory : Unit → Run ν (Parser ν α)} {rightFactory : Unit → Run μ (Parser μ β)}
    (factories :
      comparison.Holds (RelatedBy comparison values messages places)
        (leftFactory ()) (rightFactory ())) :
    RelatedBy comparison values messages places
      (Parser.lazyM leftFactory) (Parser.lazyM rightFactory) := by
  intro leftStart rightStart starts
  apply comparison.bind factories
  intro leftParser rightParser relatedParsers
  exact relatedParsers leftStart rightStart starts

/-! ### Plain functions as closures -/

theorem map
    {left : Parser ν α} {right : Parser μ β} {leftMapper : α → γ} {rightMapper : β → δ}
    (related : RelatedBy comparison values messages places left right)
    (mappers :
      ∀ leftValue rightValue, values leftValue rightValue →
        others (leftMapper leftValue) (rightMapper rightValue)) :
    RelatedBy comparison others messages places (left.map leftMapper) (right.map rightMapper) := by
  apply related.mapM
  intro leftValue rightValue relatedValues
  exact comparison.pure (mappers leftValue rightValue relatedValues)

theorem satisfyOr
    {left : Parser ν α} {right : Parser μ β} {leftTest : α → Bool} {rightTest : β → Bool}
    {leftMessage rightMessage : String}
    (related : RelatedBy comparison values messages places left right)
    (tests :
      ∀ leftValue rightValue, values leftValue rightValue →
        leftTest leftValue = rightTest rightValue)
    (relatedMessages : messages leftMessage rightMessage) :
    RelatedBy comparison values messages places
      (left.satisfyOr leftTest leftMessage) (right.satisfyOr rightTest rightMessage) := by
  apply related.satisfyOrM _ relatedMessages
  intro leftValue rightValue relatedValues
  exact comparison.pure (tests leftValue rightValue relatedValues)

theorem flatMap
    {left : Parser ν α} {right : Parser μ β}
    {leftNext : α → Parser ν γ} {rightNext : β → Parser μ δ}
    (related : RelatedBy comparison values messages places left right)
    (next :
      ∀ leftValue rightValue, values leftValue rightValue →
        RelatedBy comparison others messages places
          (leftNext leftValue) (rightNext rightValue)) :
    RelatedBy comparison others messages places
      (left.flatMap leftNext) (right.flatMap rightNext) := by
  apply related.flatMapM
  intro leftValue rightValue relatedValues
  exact comparison.pure (next leftValue rightValue relatedValues)

theorem apply
    {left : Parser ν α} {right : Parser μ β}
    {leftFunctions : Parser ν (α → γ)} {rightFunctions : Parser μ (β → δ)}
    (related : RelatedBy comparison values messages places left right)
    (functions :
      RelatedBy comparison
        (fun leftFunction rightFunction =>
          ∀ leftValue rightValue, values leftValue rightValue →
            others (leftFunction leftValue) (rightFunction rightValue))
        messages places leftFunctions rightFunctions) :
    RelatedBy comparison others messages places
      (left.apply leftFunctions) (right.apply rightFunctions) := by
  apply related.applyM
  apply functions.map
  intro leftFunction rightFunction relatedFunctions leftValue rightValue relatedValues
  exact comparison.pure (relatedFunctions leftValue rightValue relatedValues)

/-! ### Choice -/

theorem orElse
    {leftFirst leftSecond : Parser ν α} {rightFirst rightSecond : Parser μ β}
    (first : RelatedBy comparison values messages places leftFirst rightFirst)
    (second : RelatedBy comparison values messages places leftSecond rightSecond) :
    RelatedBy comparison values messages places
      (leftFirst.orElse leftSecond) (rightFirst.orElse rightSecond) := by
  intro leftStart rightStart starts
  rw [parse_orElse, parse_orElse]
  apply comparison.bind (first leftStart rightStart starts)
  intro leftReply rightReply replies
  cases replies with
  | success relatedValues rests => exact comparison.pure (.success relatedValues rests)
  | failure _ => exact second leftStart rightStart starts

/-! ### Repetition -/

section Repetition

variable {left : Parser ν α} {right : Parser μ β} {leftValues : List α} {rightValues : List β}

private theorem finish
    {leftCursor rightCursor : Cursor}
    (collected : List.Forall₂ values leftValues rightValues)
    (cursors : places leftCursor rightCursor) :
    comparison.Holds (Reply.Related (List.Forall₂ values) messages places)
      (Collected.finish ⟨leftValues, leftCursor⟩)
      (Collected.finish ⟨rightValues, rightCursor⟩) := by
  have reversed : List.Forall₂ values leftValues.reverse rightValues.reverse :=
    List.forall₂_reverse_iff.2 collected
  unfold Collected.finish
  rw [collected.length_eq]
  exact comparison.emit_bind _ (comparison.pure (.success reversed cursors))

/-- After related successes either both loops go on or both stop. -/
private theorem proceed
    (together : Cursor.ProgressTogether places)
    {leftStart rightStart leftRest rightRest : Cursor}
    (starts : places leftStart rightStart) (rests : places leftRest rightRest)
    (collected : List.Forall₂ values leftValues rightValues)
    (further :
      leftStart.Consumed leftRest →
        comparison.Holds (Reply.Related (List.Forall₂ values) messages places)
          (left.rounds ⟨leftValues, leftRest⟩) (right.rounds ⟨rightValues, rightRest⟩)) :
    comparison.Holds (Reply.Related (List.Forall₂ values) messages places)
      (if leftStart.Consumed leftRest then
        left.rounds ⟨leftValues, leftRest⟩
      else
        Collected.stop ⟨leftValues, leftRest⟩)
      (if rightStart.Consumed rightRest then
        right.rounds ⟨rightValues, rightRest⟩
      else
        Collected.stop ⟨rightValues, rightRest⟩) := by
  have progressIff := together leftStart rightStart leftRest rightRest starts rests
  by_cases fewer : leftStart.Consumed leftRest
  · rw [if_pos fewer, if_pos (progressIff.1 fewer)]
    exact further fewer
  · rw [if_neg fewer, if_neg fun rightFewer => fewer (progressIff.2 rightFewer)]
    unfold Collected.stop
    rw [collected.length_eq]
    exact comparison.emit_bind _ (finish collected rests)

theorem rounds
    (together : Cursor.ProgressTogether places)
    (related : RelatedBy comparison values messages places left right)
    {leftStart rightStart : Cursor} (starts : places leftStart rightStart)
    (collected : List.Forall₂ values leftValues rightValues) :
    comparison.Holds (Reply.Related (List.Forall₂ values) messages places)
      (left.rounds ⟨leftValues, leftStart⟩) (right.rounds ⟨rightValues, rightStart⟩) := by
  -- The loops stay in step, so the bytes that are left to the first of them serve for both.
  induction size : leftStart.bytesLeft using Nat.strongRecOn
    generalizing leftStart rightStart leftValues rightValues with
  | ind bound inductionHypothesis =>
      rw [rounds_eq, rounds_eq]
      apply comparison.bind (related leftStart rightStart starts)
      intro leftReply rightReply replies
      cases replies with
      | @success leftValue rightValue leftRest _ relatedValues rests =>
          have longer :
              List.Forall₂ values (leftValue :: leftValues) (rightValue :: rightValues) :=
            List.Forall₂.cons relatedValues collected
          apply proceed together starts rests longer
          intro fewer
          have smaller : leftRest.bytesLeft < bound := size ▸ fewer
          exact inductionHypothesis leftRest.bytesLeft smaller rests longer rfl
      | failure _ => exact finish collected starts

theorem some
    (together : Cursor.ProgressTogether places)
    (related : RelatedBy comparison values messages places left right) :
    RelatedBy comparison (List.Forall₂ values) messages places left.some right.some := by
  intro leftStart rightStart starts
  rw [parse_some, parse_some]
  apply comparison.bind (related leftStart rightStart starts)
  intro leftReply rightReply replies
  cases replies with
  | @success leftValue rightValue _ _ relatedValues rests =>
      have first : List.Forall₂ values [leftValue] [rightValue] :=
        List.Forall₂.cons relatedValues List.Forall₂.nil
      exact proceed together starts rests first fun _ => related.rounds together rests first
  | failure relatedMessages => exact comparison.pure (.failure relatedMessages)

theorem many
    (together : Cursor.ProgressTogether places)
    (related : RelatedBy comparison values messages places left right) :
    RelatedBy comparison (List.Forall₂ values) messages places left.many right.many := by
  have someRelated :
      RelatedBy comparison (List.Forall₂ values) messages places left.some right.some :=
    related.some together
  rw [many_eq_orElse, many_eq_orElse]
  exact someRelated.orElse (valueOf List.Forall₂.nil)

theorem some_eq
    {left : Parser ν α} {right : Parser μ α} (together : Cursor.ProgressTogether places)
    (related : RelatedBy comparison Eq messages places left right) :
    RelatedBy comparison Eq messages places left.some right.some := by
  have repeated := related.some together
  rwa [List.forall₂_eq_eq_eq] at repeated

theorem many_eq
    {left : Parser ν α} {right : Parser μ α} (together : Cursor.ProgressTogether places)
    (related : RelatedBy comparison Eq messages places left right) :
    RelatedBy comparison Eq messages places left.many right.many := by
  have repeated := related.many together
  rwa [List.forall₂_eq_eq_eq] at repeated

end Repetition

end RelatedBy

end Parser

/-! ## Grammars -/

/-- A grammar over related rules is related to itself; induction on the grammar. -/
theorem Grammar.relatedBy
    {ν μ ι α : Type} {τ : ι → Type} {comparison : Run.Comparison ν μ}
    {places : Cursor → Cursor → Prop} (inStep : Cursor.InStep places)
    {left : (rule : ι) → Parser ν (τ rule)} {right : (rule : ι) → Parser μ (τ rule)}
    (rules : ∀ rule, Parser.RelatedBy comparison Eq Eq places (left rule) (right rule))
    (grammar : Grammar τ α) :
    Parser.RelatedBy comparison Eq Eq places (grammar.parser left) (grammar.parser right) := by
  induction grammar with
  | item => exact .item inStep rfl
  | valueOf value => exact .valueOf rfl
  | failure message => exact .failure rfl
  | map mapper _ operand => exact operand.map fun _ _ => congrArg mapper
  | satisfyOr test message _ operand => exact operand.satisfyOr (fun _ _ => congrArg test) rfl
  | flatMap _ _ operand next =>
      apply operand.flatMap
      rintro value _ rfl
      exact next value
  | apply _ _ operand functions =>
      apply operand.apply
      apply functions.mono
      rintro function _ rfl value _ rfl
      rfl
  | orElse _ _ first second => exact first.orElse second
  | many _ operand => exact operand.many_eq inStep.progressTogether
  | some _ operand => exact operand.some_eq inStep.progressTogether
  | lazy _ built =>
      rw [parser_lazy, parser_lazy]
      exact built ()
  | reference rule =>
      rw [parser_reference, parser_reference]
      exact rules rule

end ParserAlgebra
