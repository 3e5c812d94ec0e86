import ParserAlgebra.Proofs.Congruence

/-!
# Refactoring grammars

Sequencing has the laws of a monad, and changing, testing and applying values are special cases of
it. Choice is associative, a failure is its left unit and is not changed by what would follow it,
and a common first parser can be factored out of two alternatives. All of these laws but the last
hold of runs as a whole. Factoring runs the common parser once where it would be run twice, so it
changes the log, but neither the reply nor the way in which a run is given up. Grammars may be
refactored by these laws anywhere inside, and every run still ends in the same way.
-/

namespace ParserAlgebra

/-! ## Laws of sequencing and choice -/

namespace Parser

variable {ν α β γ : Type}

instance : LawfulMonad (Parser ν) := LawfulMonad.mk' (Parser ν)
  (by
    intro α parser
    ext1
    funext cursor
    have unchanged :
        (Reply.andThenM fun value rest =>
          (valueOf value).parse rest : Reply α → Run ν (Reply α)) = pure := by
      funext reply
      cases reply <;> rfl
    change (parser.flatMap valueOf).parse cursor = _
    rw [parse_flatMap, unchanged, bind_pure])
  (by
    intro α β value next
    ext1
    funext cursor
    change ((valueOf value).flatMap next).parse cursor = _
    rw [parse_flatMap, parse_valueOf, pure_bind]
    rfl)
  (by
    intro α β γ parser next last
    ext1
    funext cursor
    change ((parser.flatMap next).flatMap last).parse cursor =
      (parser.flatMap fun value => (next value).flatMap last).parse cursor
    rw [parse_flatMap, parse_flatMap, parse_flatMap, bind_assoc]
    congr 1
    funext reply
    cases reply with
    | success value rest => exact (parse_flatMap (next value) last rest).symm
    | failure message => exact pure_bind _ _)

theorem map_eq_flatMap (mapper : α → β) (parser : Parser ν α) :
    parser.map mapper = parser.flatMap fun value => valueOf (mapper value) := by
  ext1
  funext cursor
  rw [parse_map, parse_flatMap, map_eq_pure_bind]
  congr 1
  funext reply
  cases reply <;> rfl

theorem apply_eq_flatMap (parser : Parser ν α) (functions : Parser ν (α → β)) :
    parser.apply functions = functions.flatMap fun function => parser.map function := by
  ext1
  funext cursor
  rw [parse_apply, parse_flatMap]
  congr 1
  funext reply
  cases reply with
  | success function rest => exact (parse_map function parser rest).symm
  | failure message => rfl

theorem satisfyOr_eq_flatMap (test : α → Bool) (message : String) (parser : Parser ν α) :
    parser.satisfyOr test message =
      parser.flatMap fun value => if test value then valueOf value else failure message := by
  ext1
  funext cursor
  rw [parse_satisfyOr, parse_flatMap]
  congr 1
  funext reply
  cases reply with
  | success value rest =>
      simp only [Reply.andThenM]
      cases test value <;> rfl
  | failure reason => rfl

theorem orElse_orElse (first second third : Parser ν α) :
    (first.orElse second).orElse third = first.orElse (second.orElse third) := by
  ext1
  funext cursor
  rw [parse_orElse, parse_orElse, parse_orElse, bind_assoc]
  congr 1
  funext reply
  cases reply with
  | success value rest => exact pure_bind _ _
  | failure message => rfl

theorem failure_orElse (message : String) (parser : Parser ν α) :
    (failure message).orElse parser = parser := by
  ext1
  funext cursor
  rw [parse_orElse, parse_failure, pure_bind]
  rfl

theorem failure_flatMap (message : String) (next : α → Parser ν β) :
    (failure message).flatMap next = failure message := by
  ext1
  funext cursor
  rw [parse_flatMap, parse_failure, pure_bind]
  rfl

theorem ending_flatMap (parser : Parser ν α) (next : α → Parser ν β) (cursor : Cursor) :
    ((parser.flatMap next).parse cursor).ending =
      (parser.parse cursor).ending.bind fun reply =>
        (reply.andThenM fun value rest => (next value).parse rest).ending := by
  rw [parse_flatMap, Run.ending_bind]

theorem ending_orElse (first second : Parser ν α) (cursor : Cursor) :
    ((first.orElse second).parse cursor).ending =
      (first.parse cursor).ending.bind fun reply =>
        (reply.orElseM fun _ => second.parse cursor).ending := by
  rw [parse_orElse, Run.ending_bind]

/-- A common first parser may be run once in front of the choice instead of once in each of the
two alternatives. The log may become shorter by this, so only the endings are the same. -/
theorem ending_flatMap_orElse_flatMap
    (parser : Parser ν α) (first second : α → Parser ν β) (cursor : Cursor) :
    (((parser.flatMap first).orElse (parser.flatMap second)).parse cursor).ending =
      ((parser.flatMap fun value => (first value).orElse (second value)).parse cursor).ending := by
  have rerun := parser.ending_flatMap second cursor
  rw [ending_orElse, ending_flatMap, ending_flatMap, Ending.bind_assoc]
  cases ending : (parser.parse cursor).ending with
  | done reply =>
      rw [ending] at rerun
      cases reply with
      | success value rest =>
          have factored := (first value).ending_orElse (second value) rest
          change ((first value).parse rest).ending.bind _ =
            (((first value).orElse (second value)).parse rest).ending
          rw [factored]
          congr 1
          funext firstReply
          cases firstReply with
          | success image place => rfl
          | failure message => exact rerun
      | failure message => exact rerun
  | aborted message => rfl
  | cutOff => rfl

end Parser

/-! ## Comparing the ways in which runs end -/

/-- Runs are compared by how they end, whatever they have written on the way. -/
def Run.Comparison.byEnding (ν : Type) : Run.Comparison ν ν where
  Holds values left right := Ending.Related values left.ending right.ending
  pure related := .done related
  bindOfDone := by
    intro α β γ δ values others left right leftNext rightNext related next
    rw [ending_bind, ending_bind]
    obtain ⟨leftLog, leftEnding⟩ := left
    obtain ⟨rightLog, rightEnding⟩ := right
    cases related with
    | done relatedValues => exact next _ _ rfl relatedValues
    | aborted message => exact .aborted message
    | cutOff => exact .cutOff
  emit _ := .done rfl
  cutOff := .cutOff

theorem Run.Comparison.byEnding_isEquivalence {ν : Type} :
    (Run.Comparison.byEnding ν).IsEquivalence where
  refl _ := Ending.related_eq_iff.2 rfl
  symm related := related.symm
  trans first second := first.trans second

/-! ## Refactorings -/

/-- The two sides of each law of sequencing and choice. -/
inductive Parser.Refactoring {ν : Type} : (α : Type) → Parser ν α → Parser ν α → Prop where
  | valueOf_flatMap {α β : Type} (value : α) (next : α → Parser ν β) :
      Parser.Refactoring β ((Parser.valueOf value).flatMap next) (next value)
  | flatMap_valueOf {α : Type} (parser : Parser ν α) :
      Parser.Refactoring α (parser.flatMap Parser.valueOf) parser
  | flatMap_flatMap {α β γ : Type}
      (parser : Parser ν α) (next : α → Parser ν β) (last : β → Parser ν γ) :
      Parser.Refactoring γ
        ((parser.flatMap next).flatMap last)
        (parser.flatMap fun value => (next value).flatMap last)
  | map {α β : Type} (mapper : α → β) (parser : Parser ν α) :
      Parser.Refactoring β
        (parser.map mapper)
        (parser.flatMap fun value => Parser.valueOf (mapper value))
  | apply {α β : Type} (parser : Parser ν α) (functions : Parser ν (α → β)) :
      Parser.Refactoring β
        (parser.apply functions)
        (functions.flatMap fun function => parser.map function)
  | satisfyOr {α : Type} (test : α → Bool) (message : String) (parser : Parser ν α) :
      Parser.Refactoring α
        (parser.satisfyOr test message)
        (parser.flatMap fun value =>
          if test value then Parser.valueOf value else Parser.failure message)
  | orElse_orElse {α : Type} (first second third : Parser ν α) :
      Parser.Refactoring α
        ((first.orElse second).orElse third)
        (first.orElse (second.orElse third))
  | failure_orElse {α : Type} (message : String) (parser : Parser ν α) :
      Parser.Refactoring α ((Parser.failure message).orElse parser) parser
  | failure_flatMap {α β : Type} (message : String) (next : α → Parser ν β) :
      Parser.Refactoring β ((Parser.failure message).flatMap next) (Parser.failure message)
  | flatMap_orElse_flatMap {α β : Type}
      (parser : Parser ν α) (first second : α → Parser ν β) :
      Parser.Refactoring β
        ((parser.flatMap first).orElse (parser.flatMap second))
        (parser.flatMap fun value => (first value).orElse (second value))

theorem Parser.Refactoring.ending_eq
    {ν α : Type} {left right : Parser ν α} (refactoring : Parser.Refactoring α left right)
    (cursor : Cursor) :
    (left.parse cursor).ending = (right.parse cursor).ending := by
  cases refactoring with
  | valueOf_flatMap value next =>
      have same : (Parser.valueOf value).flatMap next = next value := pure_bind value next
      rw [same]
  | flatMap_valueOf parser =>
      have same : right.flatMap Parser.valueOf = right := bind_pure right
      rw [same]
  | flatMap_flatMap parser next last =>
      have same :
          (parser.flatMap next).flatMap last =
            parser.flatMap fun value => (next value).flatMap last :=
        bind_assoc parser next last
      rw [same]
  | map mapper parser => rw [Parser.map_eq_flatMap]
  | apply parser functions => rw [Parser.apply_eq_flatMap]
  | satisfyOr test message parser => rw [Parser.satisfyOr_eq_flatMap]
  | orElse_orElse first second third => rw [Parser.orElse_orElse]
  | failure_orElse message => rw [Parser.failure_orElse]
  | failure_flatMap message next => rw [Parser.failure_flatMap]
  | flatMap_orElse_flatMap parser first second =>
      exact parser.ending_flatMap_orElse_flatMap first second cursor

theorem Parser.Refactoring.relatedBy
    {ν α : Type} {left right : Parser ν α} (refactoring : Parser.Refactoring α left right) :
    Parser.RelatedBy (Run.Comparison.byEnding ν) Eq Eq Eq left right := by
  rintro cursor _ rfl
  have same : (left.parse cursor).ending = (right.parse cursor).ending :=
    refactoring.ending_eq cursor
  rw [Reply.related_eq]
  exact Ending.related_eq_iff.2 same

/-- Parsers that are refactored from one another end in the same way from every place: with the
same value and rest, with the same message, or given up or cut off alike. So do recursive parsers,
at every depth, if their bodies are refactored from one another. -/
theorem ending_eq_of_refactored {ν ι α : Type} {τ : ι → Type} :
    (∀ {left right : Parser ν α}, Parser.Congruent Parser.Refactoring left right →
      ∀ cursor, (left.parse cursor).ending = (right.parse cursor).ending) ∧
    ∀ {left right : ((rule : ι) → Parser ν (τ rule)) → (rule : ι) → Parser ν (τ rule)},
      (∀ leftRules rightRules,
        (∀ rule, Parser.Congruent Parser.Refactoring (leftRules rule) (rightRules rule)) →
          ∀ rule,
            Parser.Congruent Parser.Refactoring (left leftRules rule) (right rightRules rule)) →
      ∀ depth rule cursor,
        ((Parser.recursive left depth rule).parse cursor).ending =
          ((Parser.recursive right depth rule).parse cursor).ending := by
  have same {β : Type} {left right : Parser ν β}
      (congruent : Parser.Congruent Parser.Refactoring left right) (cursor : Cursor) :
      (left.parse cursor).ending = (right.parse cursor).ending := by
    have related : Parser.RelatedBy (Run.Comparison.byEnding ν) Eq Eq Eq left right :=
      congruent.relatedBy Run.Comparison.byEnding_isEquivalence eq_equivalence
        fun _ _ _ refactoring => refactoring.relatedBy
    have endings := related cursor cursor rfl
    rw [Reply.related_eq] at endings
    exact Ending.related_eq_iff.1 endings
  constructor
  · exact same
  · intro left right keeps depth rule
    exact same (Parser.Congruent.recursive keeps depth rule)

/-- An opening bracket and the rule again, or a stop, each alternative with a letter of its own. -/
def Parser.bracketsTwice {ν : Type} (rules : Unit → Parser ν Nat) (_ : Unit) : Parser ν Nat :=
  (Parser.item.flatMap fun letter =>
    if letter == '(' then (rules ()).map Nat.succ else Parser.failure "bracket").orElse
  (Parser.item.flatMap fun letter =>
    if letter == '.' then Parser.valueOf 0 else Parser.failure "stop")

/-- An opening bracket and the rule again, or a stop, after one common letter. -/
def Parser.bracketsOnce {ν : Type} (rules : Unit → Parser ν Nat) (_ : Unit) : Parser ν Nat :=
  Parser.item.flatMap fun letter =>
    (if letter == '(' then (rules ()).map Nat.succ else Parser.failure "bracket").orElse
      (if letter == '.' then Parser.valueOf 0 else Parser.failure "stop")

theorem ending_eq_of_refactored_brackets :
    Parser.Congruent Parser.Refactoring
      ((Parser.item.satisfyOr Char.isDigit "digit").many : Parser Unit (List Char))
      (Parser.item.flatMap fun letter =>
        if letter.isDigit then Parser.valueOf letter else Parser.failure "digit").many ∧
    (((Parser.item.satisfyOr Char.isDigit "digit").many : Parser Unit (List Char)).parse
        (Cursor.ofText "12é")).ending =
      ((Parser.item.flatMap fun letter =>
        if letter.isDigit then Parser.valueOf letter else Parser.failure "digit").many.parse
          (Cursor.ofText "12é") : Run Unit (Reply (List Char))).ending ∧
    ((Parser.recursive (Parser.bracketsTwice (ν := Unit)) 3 ()).parse
        (Cursor.ofText "((é")).ending =
      ((Parser.recursive Parser.bracketsOnce 3 ()).parse (Cursor.ofText "((é") :
        Run Unit (Reply Nat)).ending := by
  have congruent :
      Parser.Congruent Parser.Refactoring
        ((Parser.item.satisfyOr Char.isDigit "digit").many : Parser Unit (List Char))
        (Parser.item.flatMap fun letter =>
          if letter.isDigit then Parser.valueOf letter else Parser.failure "digit").many :=
    .many (.pair (.satisfyOr Char.isDigit "digit" Parser.item))
  have keeps :
      ∀ leftRules rightRules : Unit → Parser Unit Nat,
        (∀ rule, Parser.Congruent Parser.Refactoring (leftRules rule) (rightRules rule)) →
          ∀ rule,
            Parser.Congruent Parser.Refactoring
              (Parser.bracketsTwice leftRules rule) (Parser.bracketsOnce rightRules rule) := by
    intro leftRules rightRules rules _
    apply Parser.Congruent.trans (.pair (.flatMap_orElse_flatMap Parser.item _ _))
    apply (Parser.Congruent.refl Parser.item).flatMap
    intro letter
    refine .orElse ?_ (.refl _)
    split
    · exact (rules ()).map Nat.succ
    · exact .refl _
  have ends := ending_eq_of_refactored (ν := Unit) (ι := Unit) (α := List Char) (τ := fun _ => Nat)
  exact ⟨congruent, ends.1 congruent _, ends.2 keeps 3 () _⟩

end ParserAlgebra
