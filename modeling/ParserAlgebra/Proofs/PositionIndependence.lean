import ParserAlgebra.Parser.Whole
import ParserAlgebra.Proofs.Consumption
import ParserAlgebra.Proofs.Simulation

/-!
# Position independence

The parser of a grammar sees of its cursor only the letters that are left. Run from two places with
the same letters left, in whatever texts and however far into them, it writes the same log and
gives the same answer, and where it succeeds both places move on by equally many bytes. The two
runs are kept in step by the letters that both have passed.
-/

namespace ParserAlgebra

variable {ν ι α : Type} {τ : ι → Type}

/-! ## Grammars in step with themselves -/

theorem Rules.related_self
    {places : Cursor → Cursor → Prop} (inStep : Cursor.InStep places)
    (rules : Rules τ) (depth : Nat) (rule : ι) :
    Parser.RelatedBy (Run.Comparison.full ν) Eq Eq places
      (rules.parser depth rule : Parser ν (τ rule)) (rules.parser depth rule) := by
  induction depth generalizing rule with
  | zero => exact .cutOff
  | succ depth inductionHypothesis => exact (rules rule).relatedBy inStep inductionHypothesis

/-! ## Places that the same letters lead to -/

/-- The two places are reached by passing the same letters from the two starts. -/
def Cursor.Abreast (leftStart rightStart left right : Cursor) : Prop :=
  ∃ letters, leftStart.Passes letters left ∧ rightStart.Passes letters right

theorem Cursor.inStep_abreast
    {leftStart rightStart : Cursor}
    (same : leftStart.rest.letters = rightStart.rest.letters) :
    Cursor.InStep (Cursor.Abreast leftStart rightStart) where
  rest_eq := by
    rintro left right ⟨letters, leftPasses, rightPasses⟩
    exact leftPasses.rest_eq_of_rest_eq rightPasses same
  next := by
    rintro left right leftRest rightRest letter ⟨letters, leftPasses, rightPasses⟩
      leftMoved rightMoved
    have leftStep : left.Passes [letter] leftRest := .of_next? leftMoved
    have rightStep : right.Passes [letter] rightRest := .of_next? rightMoved
    exact ⟨letters ++ [letter], leftPasses.trans leftStep, rightPasses.trans rightStep⟩

/-! ## Runs from two places -/

/-- Two runs that write the same log and are both cut off, or fail with the same message, or
succeed with the same value and the same letters left, equally many bytes further on. -/
structure Run.AgreeFrom (leftStart rightStart : Cursor) (left right : Run ν (Reply α)) :
    Prop where
  log_eq : left.log = right.log
  endings :
    (left.ending = .cutOff ∧ right.ending = .cutOff) ∨
    (∃ message,
      left.ending = .done (.failure message) ∧ right.ending = .done (.failure message)) ∨
    ∃ value leftRest rightRest,
      left.ending = .done (.success value leftRest) ∧
        right.ending = .done (.success value rightRest) ∧
        (leftRest == rightRest) = true ∧
        leftStart.offset ≤ leftRest.offset ∧
        rightStart.offset ≤ rightRest.offset ∧
        leftRest.offset - leftStart.offset = rightRest.offset - rightStart.offset

theorem Run.Related.agreeFrom
    {leftStart rightStart : Cursor} {left right : Run ν (Reply α)}
    (same : leftStart.rest.letters = rightStart.rest.letters)
    (unaborted : left.Unaborted)
    (related :
      Run.Related (Reply.Related Eq Eq (Cursor.Abreast leftStart rightStart)) left right) :
    Run.AgreeFrom leftStart rightStart left right := by
  obtain ⟨log, leftEnding⟩ := left
  obtain ⟨rightLog, rightEnding⟩ := right
  obtain ⟨sameLog, endings⟩ := related
  refine ⟨sameLog, ?_⟩
  cases endings with
  | done replies =>
      cases replies with
      | @success value _ leftRest rightRest sameValue rests =>
          obtain ⟨letters, leftPasses, rightPasses⟩ := rests
          have restsAgree : leftRest.rest.letters = rightRest.rest.letters :=
            leftPasses.rest_eq_of_rest_eq rightPasses same
          have leftOffset : leftRest.offset = leftStart.offset + utf8Length letters :=
            leftPasses.offset_eq
          have rightOffset : rightRest.offset = rightStart.offset + utf8Length letters :=
            rightPasses.offset_eq
          subst sameValue
          refine .inr (.inr ⟨value, leftRest, rightRest, rfl, rfl, ?_, ?_, ?_, ?_⟩)
          · exact (Cursor.beq_iff leftRest rightRest).2 restsAgree
          · omega
          · omega
          · omega
      | failure sameMessage =>
          subst sameMessage
          exact .inr (.inl ⟨_, rfl, rfl⟩)
  | aborted message => exact False.elim (unaborted message rfl)
  | cutOff => exact .inl ⟨rfl, rfl⟩

theorem Grammar.unaborted
    (rules : Rules τ) (depth : Nat) (grammar : Grammar τ α) (cursor : Cursor) :
    ((grammar.parser (rules.parser depth) : Parser ν α).parse cursor).Unaborted := by
  have composed := grammar.composed (rules.composed (ν := ν) depth)
  exact (composed.goesForward cursor).unaborted

theorem Grammar.agreeFrom
    (rules : Rules τ) (depth : Nat) (grammar : Grammar τ α) {left right : Cursor}
    (same : left.rest.letters = right.rest.letters) :
    Run.AgreeFrom left right
      ((grammar.parser (rules.parser depth) : Parser ν α).parse left)
      ((grammar.parser (rules.parser depth)).parse right) := by
  have inStep : Cursor.InStep (Cursor.Abreast left right) := Cursor.inStep_abreast same
  have related :
      Parser.RelatedBy (Run.Comparison.full ν) Eq Eq (Cursor.Abreast left right)
        (grammar.parser (rules.parser depth) : Parser ν α) (grammar.parser (rules.parser depth)) :=
    grammar.relatedBy inStep (rules.related_self inStep depth)
  have starts : Cursor.Abreast left right left right :=
    ⟨[], .nothing left, .nothing right⟩
  have unaborted :
      ((grammar.parser (rules.parser depth) : Parser ν α).parse left).Unaborted :=
    grammar.unaborted rules depth left
  exact (related left right starts).agreeFrom same unaborted

/-- The parser of a grammar, over rules unfolded to any depth, agrees from places that are equal
under `==`; in particular it agrees with its own run from the start of the text that is left. -/
theorem agreeFrom_of_beq (rules : Rules τ) (depth : Nat) (grammar : Grammar τ α) :
    (∀ left right : Cursor, (left == right) = true →
      Run.AgreeFrom left right
        ((grammar.parser (rules.parser depth) : Parser ν α).parse left)
        ((grammar.parser (rules.parser depth)).parse right)) ∧
    ∀ cursor : Cursor,
      Run.AgreeFrom cursor (Cursor.ofText cursor.text)
        ((grammar.parser (rules.parser depth) : Parser ν α).parse cursor)
        ((grammar.parser (rules.parser depth)).parseText cursor.text) := by
  constructor
  · intro left right equal
    exact grammar.agreeFrom rules depth ((Cursor.beq_iff left right).1 equal)
  · intro cursor
    have sameLetters :
        cursor.rest.letters = (Cursor.ofText cursor.text).rest.letters :=
      (String.toList_ofList).symm
    exact grammar.agreeFrom rules depth sameLetters

/-- All letters in front of the first stop, by a rule that refers to itself. -/
def lettersToStop : Rules fun _ : Unit => List Char := fun _ =>
  .orElse
    (.flatMap (.satisfyOr (fun letter => letter != '.') "stop" .item) fun letter =>
      .map (letter :: ·) (.reference ()))
    (.valueOf [])

theorem agreeFrom_of_beq_on_second_line :
    ((⟨Segment.ofList ['\n', 'é'], Segment.ofList ['𝄞', '.']⟩ : Cursor) ==
        Cursor.ofText "𝄞.") = true ∧
      Run.AgreeFrom ⟨Segment.ofList ['\n', 'é'], Segment.ofList ['𝄞', '.']⟩
        (Cursor.ofText "𝄞.")
        (((Grammar.reference ()).parser (lettersToStop.parser 2) :
          Parser Unit (List Char)).parse
            ⟨Segment.ofList ['\n', 'é'], Segment.ofList ['𝄞', '.']⟩)
        (((Grammar.reference ()).parser (lettersToStop.parser 2)).parse
          (Cursor.ofText "𝄞.")) := by
  have same :
      ((⟨Segment.ofList ['\n', 'é'], Segment.ofList ['𝄞', '.']⟩ : Cursor) ==
        Cursor.ofText "𝄞.") = true := by
    decide
  exact ⟨same, (agreeFrom_of_beq lettersToStop 2 (.reference ())).1 _ _ same⟩

end ParserAlgebra
