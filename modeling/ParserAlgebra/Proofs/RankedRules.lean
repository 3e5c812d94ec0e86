import ParserAlgebra.Proofs.Messages
import ParserAlgebra.Proofs.PositionIndependence
import ParserAlgebra.Proofs.Termination

/-!
# Ranked rules are not cut off

Runs of recursive grammars are compared at one and the same depth of unfolding, where they may both
be cut off. Rules along which a rank falls leave no room for this case: at every place their runs
come to replies once the depth is enough, so that what agrees are the replies themselves. A grammar
that refers to no rules is the case of an empty table, where every depth is enough.
-/

namespace ParserAlgebra

universe u

variable {ν ι α β : Type} {τ : ι → Type}

/-! ## A reply on one side and on the other -/

theorem Run.AgreeFrom.exists_reply
    {leftStart rightStart : Cursor} {left right : Run ν (Reply α)} {reply : Reply α}
    (agree : Run.AgreeFrom leftStart rightStart left right) (replied : left.ending = .done reply) :
    ∃ other, right.ending = .done other := by
  rcases agree.endings with
    ⟨leftCut, _⟩ | ⟨message, _, rightFails⟩ | ⟨value, leftRest, rightRest, _, rightSucceeds, _⟩
  · rw [replied] at leftCut
    cases leftCut
  · exact ⟨_, rightFails⟩
  · exact ⟨_, rightSucceeds⟩

theorem Run.AgreeButMessages.exists_reply
    {left right : Run ν (Reply α)} {reply : Reply α}
    (agree : Run.AgreeButMessages left right) (replied : left.ending = .done reply) :
    ∃ other, right.ending = .done other := by
  rcases agree.endings with
    ⟨leftCut, _⟩ | ⟨message, leftAborts, _⟩ | ⟨leftMessage, rightMessage, _, rightFails⟩ |
      ⟨value, rest, _, rightSucceeds⟩
  · rw [replied] at leftCut
    cases leftCut
  · rw [replied] at leftAborts
    cases leftAborts
  · exact ⟨_, rightFails⟩
  · exact ⟨_, rightSucceeds⟩

/-! ## Depths that are enough -/

/-- Runs that come to values along with runs that settle do so from some depth on. -/
theorem Run.Settle.exists_depth
    {runs : Nat → Run ν α} {others : Nat → Run ν β} (settle : Run.Settle runs)
    (along :
      ∀ depth {value}, (runs depth).ending = .done value →
        ∃ other, (others depth).ending = .done other) :
    ∃ depth, ∀ deeper, depth ≤ deeper →
      (∃ value, (runs deeper).ending = .done value) ∧
        ∃ other, (others deeper).ending = .done other := by
  obtain ⟨log, value, depth, settled⟩ := settle
  refine ⟨depth, ?_⟩
  intro deeper enough
  have ending : (runs deeper).ending = .done value := by
    rw [settled deeper enough]
  exact ⟨⟨value, ending⟩, along deeper ending⟩

section Ranked

variable {ρ : Type u} [LT ρ] [WellFoundedLT ρ]
  {declared : ι → Prop} {rank : ι → ρ} {rules : Rules τ}
  (consistent : ∀ rule, (rules rule).PossiblyEmpty declared → declared rule)
  (decreasing : ∀ rule other, (rules rule).LeadsTo declared other → rank other < rank rule)

include consistent decreasing

/-- From places that are equal under `==`, a grammar over ranked rules comes to replies that agree,
once the rules are unfolded deep enough. -/
theorem Grammar.agreeFrom_of_ranked
    (grammar : Grammar τ α) {left right : Cursor} (same : (left == right) = true) :
    ∃ depth, ∀ deeper, depth ≤ deeper →
      Run.AgreeFrom left right
        ((grammar.parser (rules.parser deeper) : Parser ν α).parse left)
        ((grammar.parser (rules.parser deeper)).parse right) ∧
      (∃ reply,
        ((grammar.parser (rules.parser deeper) : Parser ν α).parse left).ending = .done reply) ∧
      ∃ reply,
        ((grammar.parser (rules.parser deeper) : Parser ν α).parse right).ending =
          .done reply := by
  have settle :
      Parser.SettleAt (fun depth => (grammar.parser (rules.parser depth) : Parser ν α)) left := by
    apply grammar.settleAt consistent left
    intro rule place _
    exact Rules.settleAt consistent decreasing rule place
  have agree (depth : Nat) :
      Run.AgreeFrom left right
        ((grammar.parser (rules.parser depth) : Parser ν α).parse left)
        ((grammar.parser (rules.parser depth)).parse right) :=
    grammar.agreeFrom rules depth ((Cursor.beq_iff left right).1 same)
  obtain ⟨depth, replied⟩ := settle.exists_depth fun depth _ => (agree depth).exists_reply
  exact ⟨depth, fun deeper enough => ⟨agree deeper, replied deeper enough⟩⟩

/-- If the bodies of ranked rules are given other messages, both come to replies, which agree on
everything else, once the rules are unfolded deep enough. -/
theorem Rules.agreeButMessages_of_ranked
    {bodies : ((rule : ι) → Parser ν (τ rule)) → (rule : ι) → Parser ν (τ rule)}
    (reworded :
      ∀ leftRules rightRules,
        (∀ rule, Parser.Congruent Parser.Reworded (leftRules rule) (rightRules rule)) →
          ∀ rule,
            Parser.Congruent Parser.Reworded
              ((rules rule).parser leftRules) (bodies rightRules rule))
    (rule : ι) (cursor : Cursor) :
    ∃ depth, ∀ deeper, depth ≤ deeper →
      Run.AgreeButMessages
        ((rules.parser deeper rule).parse cursor)
        ((Parser.recursive bodies deeper rule).parse cursor) ∧
      (∃ reply,
        ((rules.parser deeper rule : Parser ν (τ rule)).parse cursor).ending = .done reply) ∧
      ∃ reply, ((Parser.recursive bodies deeper rule).parse cursor).ending = .done reply := by
  have settle :
      Parser.SettleAt (fun depth => (rules.parser depth rule : Parser ν (τ rule))) cursor :=
    Rules.settleAt consistent decreasing rule cursor
  have agree (depth : Nat) :
      Run.AgreeButMessages
        ((rules.parser depth rule).parse cursor)
        ((Parser.recursive bodies depth rule).parse cursor) :=
    (Parser.Congruent.recursive reworded depth rule).agreeButMessages cursor
  obtain ⟨depth, replied⟩ := settle.exists_depth fun depth _ => (agree depth).exists_reply
  exact ⟨depth, fun deeper enough => ⟨agree deeper, replied deeper enough⟩⟩

end Ranked

/-- A grammar that refers to no rules comes to a reply at every place. -/
theorem Grammar.exists_reply_of_isEmpty [IsEmpty ι]
    (rules : Rules τ) (depth : Nat) (grammar : Grammar τ α) (place : Cursor) :
    ∃ reply,
      ((grammar.parser (rules.parser depth) : Parser ν α).parse place).ending = .done reply := by
  have settle :
      Parser.SettleAt (fun depth => (grammar.parser (rules.parser depth) : Parser ν α)) place := by
    have noDeclarations : ∀ rule, (rules rule).PossiblyEmpty (fun _ => False) → False :=
      isEmptyElim
    apply grammar.settleAt noDeclarations place
    intro rule
    exact isEmptyElim rule
  obtain ⟨log, reply, enough, settled⟩ := settle
  -- Without rules there is only one table of parsers, whatever the depth.
  have sameRules : (rules.parser depth : (rule : ι) → Parser ν (τ rule)) = rules.parser enough :=
    Subsingleton.elim _ _
  have run :
      (grammar.parser (rules.parser enough) : Parser ν α).parse place = ⟨log, .done reply⟩ :=
    settled enough (Nat.le_refl enough)
  exact ⟨reply, by rw [sameRules, run]⟩

end ParserAlgebra
