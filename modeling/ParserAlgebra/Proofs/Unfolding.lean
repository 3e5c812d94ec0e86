import ParserAlgebra.Proofs.Simulation

/-!
# Unfolding further

How deep a table of rules is unfolded decides only whether a run is cut off. A run that is not cut
off is the same, in its log and in its ending, at every greater depth, so that it is the run of the
recursive grammar itself. The operations of this library cannot tell a deeper operand from a
shallower one but by a run that is no longer cut off.
-/

namespace ParserAlgebra

/-! ## Runs that unfolding further may only complete -/

/-- The shallower run is cut off, or the deeper one is the same. -/
def Run.Approximates {ν α : Type} (shallow deep : Run ν α) : Prop :=
  shallow.ending = .cutOff ∨ shallow = deep

/-! ## Parsers -/

/-- From every place the run of the shallower parser is cut off or the same as the deeper one. -/
def Parser.Approximates {ν α : Type} (shallow deep : Parser ν α) : Prop :=
  ∀ cursor, (shallow.parse cursor).Approximates (deep.parse cursor)

/-- That a run is cut off excuses all differences. -/
def Run.Excuse.cutOff (ν : Type) : Run.Excuse ν where
  Holds run := run.ending = .cutOff
  of_first := by
    intro α β run next cut
    rw [Run.ending_bind, cut]
    rfl
  of_next := by
    intro α β run next value ending cut
    rw [Run.ending_bind, ending]
    exact cut

/-- Approximation is a comparison of runs, so that all operations respect it. -/
theorem Parser.approximates_iff {ν α : Type} (shallow deep : Parser ν α) :
    shallow.Approximates deep ↔
      Parser.RelatedBy ((Run.Comparison.full ν).unless (Run.Excuse.cutOff ν))
        Eq Eq Eq shallow deep := by
  have sameRuns (left right : Run ν (Reply α)) :
      Run.Related (Reply.Related Eq Eq Eq) left right ↔ left = right := by
    rw [Reply.related_eq]
    exact Run.related_eq_iff
  constructor
  · rintro approximates cursor _ rfl
    rcases approximates cursor with cut | same
    · exact .inl cut
    · exact .inr ((sameRuns _ _).2 same)
  · intro related cursor
    rcases related cursor cursor rfl with cut | same
    · exact .inl cut
    · exact .inr ((sameRuns _ _).1 same)

namespace Parser.Approximates

variable {ν α β : Type} {shallow deep : Parser ν α}

theorem refl (parser : Parser ν α) : parser.Approximates parser :=
  fun _ => .inr rfl

theorem map (approximates : shallow.Approximates deep) (mapper : α → β) :
    (shallow.map mapper).Approximates (deep.map mapper) := by
  rw [approximates_iff] at approximates ⊢
  apply approximates.map
  rintro value _ rfl
  rfl

theorem flatMap
    {shallowNext deepNext : α → Parser ν β} (approximates : shallow.Approximates deep)
    (nexts : ∀ value, (shallowNext value).Approximates (deepNext value)) :
    (shallow.flatMap shallowNext).Approximates (deep.flatMap deepNext) := by
  rw [approximates_iff] at approximates ⊢
  apply approximates.flatMap
  rintro value _ rfl
  rw [← approximates_iff]
  exact nexts value

theorem apply
    {shallowFunctions deepFunctions : Parser ν (α → β)} (approximates : shallow.Approximates deep)
    (functions : shallowFunctions.Approximates deepFunctions) :
    (shallow.apply shallowFunctions).Approximates (deep.apply deepFunctions) := by
  rw [approximates_iff] at approximates functions ⊢
  apply approximates.apply
  apply functions.mono
  rintro function _ rfl value _ rfl
  rfl

theorem orElse
    {shallowOther deepOther : Parser ν α} (approximates : shallow.Approximates deep)
    (others : shallowOther.Approximates deepOther) :
    (shallow.orElse shallowOther).Approximates (deep.orElse deepOther) := by
  rw [approximates_iff] at approximates others ⊢
  exact approximates.orElse others

theorem many (approximates : shallow.Approximates deep) :
    shallow.many.Approximates deep.many := by
  rw [approximates_iff] at approximates ⊢
  exact approximates.many_eq Cursor.inStep_eq.progressTogether

/-- Rules approximate themselves unfolded further, if their bodies keep approximation. -/
theorem recursive
    {ι : Type} {τ : ι → Type}
    {bodies : ((rule : ι) → Parser ν (τ rule)) → (rule : ι) → Parser ν (τ rule)}
    (keeps :
      ∀ shallowRules deepRules, (∀ rule, (shallowRules rule).Approximates (deepRules rule)) →
        ∀ rule, (bodies shallowRules rule).Approximates (bodies deepRules rule))
    {depth deeper : Nat} (le : depth ≤ deeper) (rule : ι) :
    (Parser.recursive bodies depth rule).Approximates (Parser.recursive bodies deeper rule) := by
  induction depth generalizing deeper rule with
  | zero => exact fun _ => .inl rfl
  | succ depth inductionHypothesis =>
      cases deeper with
      | zero => exact absurd le (Nat.not_succ_le_zero depth)
      | succ deeper => exact keeps _ _ (inductionHypothesis (Nat.le_of_succ_le_succ le)) rule

end Parser.Approximates

/-! ## Grammars and rules -/

section Grammars

variable {ν ι α : Type} {τ : ι → Type}

theorem Grammar.approximates
    {shallow deep : (rule : ι) → Parser ν (τ rule)}
    (rules : ∀ rule, (shallow rule).Approximates (deep rule)) (grammar : Grammar τ α) :
    (grammar.parser shallow).Approximates (grammar.parser deep) := by
  rw [Parser.approximates_iff]
  apply grammar.relatedBy Cursor.inStep_eq
  intro rule
  rw [← Parser.approximates_iff]
  exact rules rule

theorem Rules.approximates_of_le
    (rules : Rules τ) {depth deeper : Nat} (deep : depth ≤ deeper) (rule : ι) :
    (rules.parser depth rule : Parser ν (τ rule)).Approximates (rules.parser deeper rule) := by
  apply Parser.Approximates.recursive _ deep
  intro _ _ approximate name
  exact (rules name).approximates approximate

/-- A run that is not cut off is the run at every greater depth. -/
theorem Grammar.parse_eq_of_le
    (rules : Rules τ) {depth deeper : Nat} (deep : depth ≤ deeper)
    (grammar : Grammar τ α) (cursor : Cursor)
    (ends : ((grammar.parser (rules.parser depth) : Parser ν α).parse cursor).ending ≠ .cutOff) :
    (grammar.parser (rules.parser deeper) : Parser ν α).parse cursor =
      (grammar.parser (rules.parser depth)).parse cursor := by
  have approximates := grammar.approximates (rules.approximates_of_le (ν := ν) deep) cursor
  rcases approximates with cut | same
  · exact absurd cut ends
  · exact same.symm

end Grammars

end ParserAlgebra
