import Mathlib.Order.RelClasses
import ParserAlgebra.Proofs.Consumption

/-!
# Recursive grammars without left recursion

Rules that refer to each other are unfolded to a depth, and a run that needs more is cut off. Here
it is shown when some depth is enough. A conservative analysis of a grammar tells whether it may
succeed without consuming anything, and from this which rules it may run before anything has been
consumed. If a rank falls along all of these, then every rule comes to a reply on every text, and
from some depth on it is always the same. The induction is on the bytes that are left, then on the
rank of the rule, then on its body; repetitions need no condition, since they stop by themselves
where nothing is consumed.
-/

namespace ParserAlgebra

universe u

variable {ν ι α β : Type} {τ : ι → Type}

/-! ## What a grammar may do before it consumes anything -/

/-- Whether the form of a grammar admits a success that consumes nothing, where it is declared
which rules admit one. -/
def Grammar.PossiblyEmpty (declared : ι → Prop) : {α : Type} → Grammar τ α → Prop
  | _, .item => False
  | _, .valueOf _ => True
  | _, .failure _ => False
  | _, .map _ operand => operand.PossiblyEmpty declared
  | _, .satisfyOr _ _ operand => operand.PossiblyEmpty declared
  | _, .flatMap operand next =>
      operand.PossiblyEmpty declared ∧ ∃ value, (next value).PossiblyEmpty declared
  | _, .apply operand functions =>
      functions.PossiblyEmpty declared ∧ operand.PossiblyEmpty declared
  | _, .orElse first second => first.PossiblyEmpty declared ∨ second.PossiblyEmpty declared
  | _, .many _ => True
  | _, .some operand => operand.PossiblyEmpty declared
  | _, .lazy factory => (factory ()).PossiblyEmpty declared
  | _, .reference rule => declared rule

/-- Whether a rule may be run before the grammar has consumed anything. -/
def Grammar.LeadsTo (declared : ι → Prop) (rule : ι) : {α : Type} → Grammar τ α → Prop
  | _, .item => False
  | _, .valueOf _ => False
  | _, .failure _ => False
  | _, .map _ operand => operand.LeadsTo declared rule
  | _, .satisfyOr _ _ operand => operand.LeadsTo declared rule
  | _, .flatMap operand next =>
      operand.LeadsTo declared rule ∨
        operand.PossiblyEmpty declared ∧ ∃ value, (next value).LeadsTo declared rule
  | _, .apply operand functions =>
      functions.LeadsTo declared rule ∨
        functions.PossiblyEmpty declared ∧ operand.LeadsTo declared rule
  | _, .orElse first second => first.LeadsTo declared rule ∨ second.LeadsTo declared rule
  | _, .many operand => operand.LeadsTo declared rule
  | _, .some operand => operand.LeadsTo declared rule
  | _, .lazy factory => (factory ()).LeadsTo declared rule
  | _, .reference other => other = rule

/-- A success that consumes nothing is admitted by the form of the grammar. -/
theorem Grammar.goesForward
    {declared : ι → Prop} {rules : (rule : ι) → Parser ν (τ rule)}
    (rulesForward : ∀ rule, (rules rule).GoesForward (declared rule))
    (grammar : Grammar τ α) :
    (grammar.parser rules).GoesForward (grammar.PossiblyEmpty declared) := by
  induction grammar with
  | item => exact .item
  | valueOf value => exact .valueOf value
  | failure message => exact .failure message
  | map mapper _ operand => exact operand.mapM fun _ _ => Run.unaborted_pure _
  | satisfyOr test message _ operand =>
      exact operand.satisfyOrM message fun _ _ => Run.unaborted_pure _
  | flatMap _ _ operand next =>
      apply operand.flatMapM
      · intro value _
        exact Run.unaborted_pure _
      · rintro value following _ ⟨⟩
        exact (next value).mono fun empty => ⟨value, empty⟩
  | apply _ _ operand functions =>
      apply Parser.GoesForward.applyM
      · exact functions.mapM fun _ _ => Run.unaborted_pure _
      · exact operand
      · intro closure value yields _
        exact Parser.unaborted_of_yields_map yields value
  | orElse _ _ first second => exact first.orElse second
  | many _ operand => exact operand.many
  | some _ operand => exact operand.some
  | lazy _ built =>
      rw [parser_lazy]
      exact built ()
  | reference rule =>
      rw [parser_reference]
      exact rulesForward rule

theorem Rules.goesForward
    {declared : ι → Prop} {rules : Rules τ}
    (consistent : ∀ rule, (rules rule).PossiblyEmpty declared → declared rule)
    (depth : Nat) (rule : ι) :
    (rules.parser depth rule : Parser ν (τ rule)).GoesForward (declared rule) := by
  induction depth generalizing rule with
  | zero => exact Parser.GoesForward.cutOff.mono False.elim
  | succ depth inductionHypothesis =>
      have bodyForward := (rules rule).goesForward inductionHypothesis
      exact bodyForward.mono (consistent rule)

/-! ## Runs that settle -/

/-- From some depth on the runs are all the same, and they come to a value. -/
def Run.Settle (runs : Nat → Run ν α) : Prop :=
  ∃ log value depth, ∀ deeper, depth ≤ deeper → runs deeper = ⟨log, .done value⟩

namespace Run.Settle

variable {runs : Nat → Run ν α} {next : Nat → α → Run ν β}

theorem pure (value : α) :
    Settle fun _ => (Pure.pure value : Run ν α) :=
  ⟨[], value, 0, fun _ _ => rfl⟩

theorem emit (event : Event) :
    Settle fun _ => (Run.emit event : Run ν Unit) :=
  ⟨_, _, 0, fun _ _ => rfl⟩

theorem of_succ (settle : Settle fun depth => runs (depth + 1)) :
    Settle runs := by
  obtain ⟨log, value, depth, settled⟩ := settle
  refine ⟨log, value, depth + 1, ?_⟩
  intro deeper deep
  cases deeper with
  | zero => omega
  | succ deeper =>
      have enough : depth ≤ deeper := by omega
      exact settled deeper enough

/-- Runs one after the other settle at the greater depth, where the later ones need to settle
only after values that the earlier ones come to. -/
theorem bind
    (settle : Settle runs)
    (continues :
      ∀ depth value, (runs depth).ending = .done value → Settle fun deeper => next deeper value) :
    Settle fun depth => runs depth >>= next depth := by
  obtain ⟨log, value, depth, settled⟩ := settle
  have ending : (runs depth).ending = .done value := by
    rw [settled depth (Nat.le_refl depth)]
  obtain ⟨nextLog, nextValue, nextDepth, nextSettled⟩ := continues depth value ending
  refine ⟨log ++ nextLog, nextValue, max depth nextDepth, ?_⟩
  intro deeper deep
  have enough : depth ≤ deeper := by omega
  have nextEnough : nextDepth ≤ deeper := by omega
  have same : runs deeper = ⟨log, .done value⟩ := settled deeper enough
  have nextSame : next deeper value = ⟨nextLog, .done nextValue⟩ :=
    nextSettled deeper nextEnough
  simp only [same, done_bind, nextSame]

end Run.Settle

/-! ## Parsers that settle -/

namespace Parser

/-- The parsers, of all depths, come to the same reply at the place from some depth on. -/
def SettleAt (parsers : Nat → Parser ν α) (place : Cursor) : Prop :=
  Run.Settle fun depth => (parsers depth).parse place

namespace SettleAt

variable {parsers : Nat → Parser ν α} {place : Cursor}

/-- What goes on from a parser that settles does so too, if it settles at the places reached. -/
theorem andThenM
    {mayStay : Prop} {next : Nat → α → Cursor → Run ν (Reply β)}
    (settle : SettleAt parsers place)
    (forward : ∀ depth, (parsers depth).GoesForward mayStay)
    (continues :
      ∀ value rest letters, place.Passes letters rest → (letters = [] → mayStay) →
        Run.Settle fun depth => next depth value rest) :
    Run.Settle fun depth => (parsers depth).parse place >>= Reply.andThenM (next depth) := by
  apply Run.Settle.bind settle
  intro depth reply ending
  have advanced : reply.Forward mayStay place := (forward depth place).of_done ending
  cases reply with
  | success value rest =>
      obtain ⟨letters, passes, stays⟩ := advanced
      exact continues value rest letters passes stays
  | failure message => exact .pure _

theorem map (mapper : α → β) (settle : SettleAt parsers place) :
    SettleAt (fun depth => (parsers depth).map mapper) place := by
  unfold SettleAt
  simp only [parse_map, map_eq_pure_bind]
  exact Run.Settle.bind settle fun _ _ _ => .pure _

theorem orElse
    {others : Nat → Parser ν α}
    (settle : SettleAt parsers place) (othersSettle : SettleAt others place) :
    SettleAt (fun depth => (parsers depth).orElse (others depth)) place := by
  apply Run.Settle.bind settle
  intro _ reply _
  cases reply with
  | success value rest => exact .pure _
  | failure message => exact othersSettle

private theorem finish (collected : Collected α) :
    Run.Settle fun _ => (collected.finish : Run ν (Reply (List α))) :=
  (Run.Settle.emit _).bind fun _ _ _ => .pure _

/-- After a success a repetition settles if its further rounds do. -/
private theorem proceed
    {values : List α} {rest : Cursor}
    (further :
      place.Consumed rest →
        Run.Settle fun depth => (parsers depth).rounds ⟨values, rest⟩) :
    Run.Settle fun depth =>
      if place.Consumed rest then
        (parsers depth).rounds ⟨values, rest⟩
      else
        Collected.stop ⟨values, rest⟩ := by
  by_cases fewer : place.Consumed rest
  · simp only [if_pos fewer]
    exact further fewer
  · simp only [if_neg fewer]
    exact (Run.Settle.emit _).bind fun _ _ _ => finish _

/-- The rounds of a repetition settle if its parser does wherever as few bytes are left. -/
theorem rounds
    {bytes : Nat} (settle : ∀ place : Cursor, place.bytesLeft < bytes → SettleAt parsers place)
    (values : List α) (start : Cursor) (few : start.bytesLeft < bytes) :
    Run.Settle fun depth => (parsers depth).rounds ⟨values, start⟩ := by
  induction size : start.bytesLeft using Nat.strongRecOn generalizing values start with
  | ind bound inductionHypothesis =>
      have unfolded := funext fun depth => rounds_eq (parsers depth) values start
      rw [unfolded]
      apply Run.Settle.bind (settle start few)
      intro _ reply _
      cases reply with
      | success value rest =>
          apply proceed
          intro fewer
          have smaller : rest.bytesLeft < bound := size ▸ fewer
          have fewLater : rest.bytesLeft < bytes := by omega
          exact inductionHypothesis rest.bytesLeft smaller (value :: values) rest fewLater rfl
      | failure message => exact finish _

/-- A repetition settles where its parser does, and wherever fewer bytes are left. -/
theorem some
    (settle : SettleAt parsers place)
    (settleLater : ∀ later : Cursor, place.Consumed later → SettleAt parsers later) :
    SettleAt (fun depth => (parsers depth).some) place := by
  unfold SettleAt
  simp only [parse_some]
  apply Run.Settle.bind settle
  intro _ reply _
  cases reply with
  | success value rest =>
      apply proceed
      intro fewer
      exact rounds settleLater [value] rest fewer
  | failure message => exact .pure _

theorem many
    (settle : SettleAt parsers place)
    (settleLater : ∀ later : Cursor, place.Consumed later → SettleAt parsers later) :
    SettleAt (fun depth => (parsers depth).many) place := by
  have someSettle : SettleAt (fun depth => (parsers depth).some) place :=
    settle.some settleLater
  simp only [many_eq_orElse]
  exact someSettle.orElse (.pure _)

end SettleAt

end Parser

/-! ## Rules that settle -/

/-- The rules settle wherever fewer bytes are left, and those that are led to also where as many
bytes are left. -/
def Rules.Ready (ν : Type) (rules : Rules τ) (bytes : Nat) (ledTo : ι → Prop) : Prop :=
  ∀ rule (place : Cursor),
    place.bytesLeft < bytes ∨ place.bytesLeft = bytes ∧ ledTo rule →
      Parser.SettleAt (fun depth => (rules.parser depth rule : Parser ν (τ rule))) place

namespace Rules.Ready

variable {rules : Rules τ} {bytes : Nat} {ledTo ledToLater : ι → Prop}

theorem mono
    (fewer : ∀ rule, ledToLater rule → ledTo rule) (ready : rules.Ready ν bytes ledTo) :
    rules.Ready ν bytes ledToLater := by
  intro rule place reached
  apply ready rule place
  rcases reached with shorter | ⟨same, led⟩
  · exact .inl shorter
  · exact .inr ⟨same, fewer rule led⟩

theorem shorter
    {bytesLater : Nat} (shorter : bytesLater < bytes) (ready : rules.Ready ν bytes ledTo) :
    rules.Ready ν bytesLater ledToLater := by
  intro rule place reached
  have fewer : place.bytesLeft < bytes := by omega
  exact ready rule place (.inl fewer)

/-- After letters have been passed, other rules may be led to, unless there were none. -/
theorem after
    {start rest : Cursor} {letters : List Char}
    (passes : start.Passes letters rest)
    (stays : letters = [] → ∀ rule, ledToLater rule → ledTo rule)
    (ready : rules.Ready ν start.bytesLeft ledTo) :
    rules.Ready ν rest.bytesLeft ledToLater := by
  by_cases none : letters = []
  · have same : start.bytesLeft = rest.bytesLeft := by
      rw [passes.bytesLeft_eq, none, utf8Length_nil, Nat.zero_add]
    rw [← same]
    exact ready.mono (stays none)
  · have fewer : start.Consumed rest := passes.consumed_iff.2 none
    exact ready.shorter fewer

end Rules.Ready

/-- A grammar settles where the rules are ready that it leads to; induction on the grammar. -/
theorem Grammar.settleAt
    {declared : ι → Prop} {rules : Rules τ}
    (consistent : ∀ rule, (rules rule).PossiblyEmpty declared → declared rule)
    (grammar : Grammar τ α) (start : Cursor)
    (ready : rules.Ready ν start.bytesLeft fun rule => grammar.LeadsTo declared rule) :
    Parser.SettleAt (fun depth => (grammar.parser (rules.parser depth) : Parser ν α)) start := by
  have forward {γ : Type} (operand : Grammar τ γ) (depth : Nat) :
      (operand.parser (rules.parser depth) : Parser ν γ).GoesForward
        (operand.PossiblyEmpty declared) :=
    operand.goesForward (Rules.goesForward consistent depth)
  induction grammar generalizing start with
  | item =>
      unfold Parser.SettleAt
      simp only [Grammar.parser, Parser.parse_item]
      cases start.next? <;> exact .pure _
  | valueOf value => exact .pure _
  | failure message => exact .pure _
  | map mapper _ operand => exact (operand start ready).map mapper
  | satisfyOr test message operand operandSettles =>
      unfold Parser.SettleAt
      simp only [Grammar.parser, Parser.parse_satisfyOr]
      apply (operandSettles start ready).andThenM (forward operand)
      intro value rest _ _ _
      exact .pure _
  | flatMap operand next operandSettles nextSettles =>
      unfold Parser.SettleAt
      simp only [Grammar.parser, Parser.parse_flatMap]
      have operandReady :
          rules.Ready ν start.bytesLeft fun rule => operand.LeadsTo declared rule :=
        ready.mono fun rule leads => Or.inl leads
      apply (operandSettles start operandReady).andThenM (forward operand)
      intro value rest letters passes stays
      have nextReady :
          rules.Ready ν rest.bytesLeft fun rule => (next value).LeadsTo declared rule := by
        apply ready.after passes
        intro none rule leads
        exact .inr ⟨stays none, value, leads⟩
      exact nextSettles value rest nextReady
  | apply operand functions operandSettles functionsSettle =>
      unfold Parser.SettleAt
      simp only [Grammar.parser, Parser.parse_apply]
      have functionsReady :
          rules.Ready ν start.bytesLeft fun rule => functions.LeadsTo declared rule :=
        ready.mono fun rule leads => Or.inl leads
      apply (functionsSettle start functionsReady).andThenM (forward functions)
      intro function rest letters passes stays
      have operandReady :
          rules.Ready ν rest.bytesLeft fun rule => operand.LeadsTo declared rule := by
        apply ready.after passes
        intro none rule leads
        exact .inr ⟨stays none, leads⟩
      simpa only [Parser.SettleAt, Parser.parse_map] using
        (operandSettles rest operandReady).map function
  | orElse first second firstSettles secondSettles =>
      have firstReady :
          rules.Ready ν start.bytesLeft fun rule => first.LeadsTo declared rule :=
        ready.mono fun rule leads => Or.inl leads
      have secondReady :
          rules.Ready ν start.bytesLeft fun rule => second.LeadsTo declared rule :=
        ready.mono fun rule leads => Or.inr leads
      exact (firstSettles start firstReady).orElse (secondSettles start secondReady)
  | many operand operandSettles =>
      apply (operandSettles start ready).many
      intro later fewer
      exact operandSettles later (ready.shorter fewer)
  | some operand operandSettles =>
      apply (operandSettles start ready).some
      intro later fewer
      exact operandSettles later (ready.shorter fewer)
  | lazy factory factorySettles =>
      simp only [parser_lazy]
      exact factorySettles () start ready
  | reference rule =>
      simp only [parser_reference]
      exact ready rule start (.inr ⟨rfl, rfl⟩)

/-- Where no rule leads to itself, all rules settle everywhere: by induction on the bytes that are
left, and among the places with as many bytes by induction on the rank of the rule. -/
theorem Rules.settleAt
    {ρ : Type u} [LT ρ] [WellFoundedLT ρ]
    {declared : ι → Prop} {rank : ι → ρ} {rules : Rules τ}
    (consistent : ∀ rule, (rules rule).PossiblyEmpty declared → declared rule)
    (decreasing :
      ∀ rule other, (rules rule).LeadsTo declared other → rank other < rank rule)
    (rule : ι) (place : Cursor) :
    Parser.SettleAt (fun depth => (rules.parser depth rule : Parser ν (τ rule))) place := by
  induction size : place.bytesLeft using Nat.strongRecOn generalizing rule place with
  | ind bytes shorterSettle =>
      induction height : rank rule using WellFoundedLT.induction generalizing rule place with
      | ind height lowerSettle =>
          subst size height
          have ready :
              rules.Ready ν place.bytesLeft fun other => (rules rule).LeadsTo declared other := by
            rintro other later (shorter | ⟨same, leads⟩)
            · exact shorterSettle later.bytesLeft shorter other later rfl
            · have lower : rank other < rank rule := decreasing rule other leads
              exact lowerSettle (rank other) lower other later same rfl
          exact Run.Settle.of_succ ((rules rule).settleAt consistent place ready)

/-- Recursive grammars without left recursion end: with declarations that are consistent with the
bodies and a rank that falls along everything a body leads to, each rule, and each grammar over the
rules, comes to a reply on every text, and the depth of unfolding plays no part if it is enough. -/
theorem reply_of_ranked_rules
    {ρ : Type u} [LT ρ] [WellFoundedLT ρ]
    {declared : ι → Prop} {rank : ι → ρ} {rules : Rules τ}
    (consistent : ∀ rule, (rules rule).PossiblyEmpty declared → declared rule)
    (decreasing :
      ∀ rule other, (rules rule).LeadsTo declared other → rank other < rank rule) :
    (∀ rule (cursor : Cursor), ∃ log reply depth, ∀ deeper, depth ≤ deeper →
      (rules.parser deeper rule : Parser ν (τ rule)).parse cursor = ⟨log, .done reply⟩) ∧
    ∀ {α : Type} (grammar : Grammar τ α) (cursor : Cursor),
      ∃ log reply depth, ∀ deeper, depth ≤ deeper →
        (grammar.parser (rules.parser deeper) : Parser ν α).parse cursor =
          ⟨log, .done reply⟩ := by
  constructor
  · exact Rules.settleAt consistent decreasing
  · intro α grammar cursor
    apply grammar.settleAt consistent cursor
    intro rule place _
    exact Rules.settleAt consistent decreasing rule place

/-- Two rules that are both possibly empty: as many of the second as there are, and a letter before
the first rule or nothing. -/
def nestedRepetition : Rules fun _ : Bool => Nat
  | false => .map List.length (.many (.reference true))
  | true => .orElse (.flatMap .item fun _ => .reference false) (.valueOf 0)

theorem reply_of_nestedRepetition :
    (∀ rule other, (nestedRepetition rule).LeadsTo (fun _ => True) other →
      (!other).toNat < (!rule).toNat) ∧
    ∃ log reply depth, ∀ deeper, depth ≤ deeper →
      (nestedRepetition.parser deeper false : Parser Unit Nat).parse (Cursor.ofText "é(") =
        ⟨log, .done reply⟩ := by
  have decreasing :
      ∀ rule other, (nestedRepetition rule).LeadsTo (fun _ => True) other →
        (!other).toNat < (!rule).toNat := by
    intro rule other leads
    cases rule with
    | false =>
        cases leads
        exact Nat.zero_lt_one
    | true => rcases leads with (none | ⟨none, _⟩) | none <;> exact False.elim none
  have replies := reply_of_ranked_rules (ν := Unit) (fun _ _ => trivial) decreasing
  exact ⟨decreasing, replies.1 false (Cursor.ofText "é(")⟩

end ParserAlgebra
