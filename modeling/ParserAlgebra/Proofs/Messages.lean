import ParserAlgebra.Proofs.Congruence

/-!
# Messages do not steer a parse

The messages of failures and of tests are told to whoever reads a reply and are looked at by no
parser. If two parsers differ in nothing but such messages, however deep inside and also in what
closures build, then their runs write the same log, and they fail at the same places and succeed
with the same values and the same rests.
-/

namespace ParserAlgebra

variable {ν ι α : Type} {τ : ι → Type}

/-! ## Parsers with other messages -/

/-- A failure, or a test of a parser, with one message and with another. -/
inductive Parser.Reworded : (α : Type) → Parser ν α → Parser ν α → Prop where
  | failure (α : Type) (left right : String) :
      Parser.Reworded α (Parser.failure left) (Parser.failure right)
  | satisfyOrM {α : Type} (test : α → Run ν Bool) (left right : String) (parser : Parser ν α) :
      Parser.Reworded α (parser.satisfyOrM test left) (parser.satisfyOrM test right)

theorem Parser.Reworded.relatedBy
    {left right : Parser ν α} (reworded : Parser.Reworded α left right) :
    Parser.RelatedBy (Run.Comparison.full ν) Eq (fun _ _ => True) Eq left right := by
  have sameRuns : (Run.Comparison.full ν).IsEquivalence := Run.Comparison.full_isEquivalence
  cases reworded with
  | failure left right => exact .failure trivial
  | satisfyOrM test left right parser =>
      have same : Parser.RelatedBy (Run.Comparison.full ν) Eq (fun _ _ => True) Eq parser parser :=
        .refl sameRuns (fun _ => trivial) parser
      apply same.satisfyOrM _ trivial
      rintro value _ rfl
      exact sameRuns.refl (test value)

/-! ## Runs that differ in messages only -/

/-- Two runs that write the same log and are both cut off, or are both given up with the same
message, or both fail, or succeed with the same value and the same rest. -/
structure Run.AgreeButMessages (left right : Run ν (Reply α)) : Prop where
  log_eq : left.log = right.log
  endings :
    (left.ending = .cutOff ∧ right.ending = .cutOff) ∨
    (∃ message, left.ending = .aborted message ∧ right.ending = .aborted message) ∨
    (∃ leftMessage rightMessage,
      left.ending = .done (.failure leftMessage) ∧
        right.ending = .done (.failure rightMessage)) ∨
    ∃ value rest,
      left.ending = .done (.success value rest) ∧ right.ending = .done (.success value rest)

theorem Run.Related.agreeButMessages
    {left right : Run ν (Reply α)}
    (related : Run.Related (Reply.Related Eq (fun _ _ => True) Eq) left right) :
    Run.AgreeButMessages left right := by
  obtain ⟨log, leftEnding⟩ := left
  obtain ⟨rightLog, rightEnding⟩ := right
  obtain ⟨sameLog, endings⟩ := related
  refine ⟨sameLog, ?_⟩
  cases endings with
  | done replies =>
      cases replies with
      | @success value _ rest _ sameValue sameRest =>
          subst sameValue sameRest
          exact .inr (.inr (.inr ⟨value, rest, rfl, rfl⟩))
      | failure _ => exact .inr (.inr (.inl ⟨_, _, rfl, rfl⟩))
  | aborted message => exact .inr (.inl ⟨message, rfl, rfl⟩)
  | cutOff => exact .inl ⟨rfl, rfl⟩

theorem Parser.Congruent.agreeButMessages
    {left right : Parser ν α}
    (congruent : Parser.Congruent Parser.Reworded left right) (cursor : Cursor) :
    Run.AgreeButMessages (left.parse cursor) (right.parse cursor) := by
  have anyMessages : Equivalence fun _ _ : String => True :=
    ⟨fun _ => trivial, fun _ => trivial, fun _ _ => trivial⟩
  have related :
      Parser.RelatedBy (Run.Comparison.full ν) Eq (fun _ _ => True) Eq left right :=
    congruent.relatedBy Run.Comparison.full_isEquivalence anyMessages
      fun _ _ _ reworded => reworded.relatedBy
  have runs :
      Run.Related (Reply.Related Eq (fun _ _ => True) Eq)
        (left.parse cursor) (right.parse cursor) :=
    related cursor cursor rfl
  exact runs.agreeButMessages

/-- Parsers that differ in messages only agree on everything else at every place, and so do
recursive parsers, at every depth, if their bodies differ in messages only. -/
theorem agreeButMessages_of_reworded :
    (∀ {left right : Parser ν α}, Parser.Congruent Parser.Reworded left right →
      ∀ cursor, Run.AgreeButMessages (left.parse cursor) (right.parse cursor)) ∧
    ∀ {left right : ((rule : ι) → Parser ν (τ rule)) → (rule : ι) → Parser ν (τ rule)},
      (∀ leftRules rightRules,
        (∀ rule, Parser.Congruent Parser.Reworded (leftRules rule) (rightRules rule)) →
          ∀ rule,
            Parser.Congruent Parser.Reworded (left leftRules rule) (right rightRules rule)) →
      ∀ depth rule cursor,
        Run.AgreeButMessages
          ((Parser.recursive left depth rule).parse cursor)
          ((Parser.recursive right depth rule).parse cursor) := by
  constructor
  · exact Parser.Congruent.agreeButMessages
  · intro left right keeps depth rule
    exact (Parser.Congruent.recursive keeps depth rule).agreeButMessages

/-- Digits up to a stop, where it is said in the given words that a letter is neither. -/
def Parser.digitsToStop (noDigit noStop : String) (rules : Unit → Parser ν (List Char)) (_ : Unit) :
    Parser ν (List Char) :=
  ((Parser.item.satisfyOr (fun letter => letter == '.') noStop).map fun _ => []).orElse
    ((Parser.item.satisfyOr Char.isDigit noDigit).flatMap fun digit =>
      (rules ()).map (digit :: ·))

theorem agreeButMessages_of_reworded_digitsToStop :
    Parser.Congruent Parser.Reworded
      (Parser.item.flatMap fun letter =>
        (Parser.failure (String.singleton letter)).many : Parser Unit (List Nat))
      (Parser.item.flatMap fun _ => (Parser.failure "never told").many) ∧
    Run.AgreeButMessages
      ((Parser.item.flatMap fun letter =>
        (Parser.failure (String.singleton letter)).many : Parser Unit (List Nat)).parse
          (Cursor.ofText "é"))
      ((Parser.item.flatMap fun _ => (Parser.failure "never told").many).parse
        (Cursor.ofText "é")) ∧
    Run.AgreeButMessages
      ((Parser.recursive (Parser.digitsToStop (ν := Unit) "digit" "stop") 3 ()).parse
        (Cursor.ofText "1𝄞"))
      ((Parser.recursive (Parser.digitsToStop "no digit" "no stop") 3 ()).parse
        (Cursor.ofText "1𝄞")) := by
  have congruent :
      Parser.Congruent Parser.Reworded
        (Parser.item.flatMap fun letter =>
          (Parser.failure (String.singleton letter)).many : Parser Unit (List Nat))
        (Parser.item.flatMap fun _ => (Parser.failure "never told").many) := by
    apply (Parser.Congruent.refl Parser.item).flatMap
    intro letter
    exact .many (.pair (.failure Nat (String.singleton letter) "never told"))
  have keeps :
      ∀ leftRules rightRules : Unit → Parser Unit (List Char),
        (∀ rule, Parser.Congruent Parser.Reworded (leftRules rule) (rightRules rule)) →
          ∀ rule,
            Parser.Congruent Parser.Reworded
              (Parser.digitsToStop "digit" "stop" leftRules rule)
              (Parser.digitsToStop "no digit" "no stop" rightRules rule) := by
    intro leftRules rightRules rules _
    have stop := Parser.Congruent.pair <|
      Parser.Reworded.satisfyOrM (fun letter => pure (letter == '.')) "stop" "no stop"
        (Parser.item : Parser Unit Char)
    have digit := Parser.Congruent.pair <|
      Parser.Reworded.satisfyOrM (fun letter => pure letter.isDigit) "digit" "no digit"
        (Parser.item : Parser Unit Char)
    exact .orElse (stop.map _) (digit.flatMap fun _ => (rules ()).map _)
  have agree := agreeButMessages_of_reworded (ν := Unit) (ι := Unit) (α := List Nat)
    (τ := fun _ => List Char)
  exact ⟨congruent, agree.1 congruent _, agree.2 keeps 3 () _⟩

end ParserAlgebra
