import ParserAlgebra.Grammar
import ParserAlgebra.Proofs.Passing

/-!
# What parsers consume

A parser that is put together from the operations of this library, with closures that are not
given up, is not given up itself, and its successes only ever pass letters of the text they were
given. The proof follows the operations: each keeps the property `Parser.GoesForward`, which
also records whether a success may leave its cursor where it was. `Parser.Composed` collects the
parsers that are put together in this way, and `remainder_of_composed` says what this means for
offsets, texts and the test by which repetitions see that nothing was consumed.
-/

namespace ParserAlgebra

/-! ## Runs that are not given up -/

namespace Run

variable {ν α β : Type} {run : Run ν α} {next : α → Run ν β}

/-- The run may come to a value or be cut off, but it is not given up. -/
def Unaborted (run : Run ν α) : Prop :=
  ∀ message, run.ending ≠ .aborted message

/-- The run is not given up, and a value that it comes to is as wanted. -/
def Safe (wanted : α → Prop) (run : Run ν α) : Prop :=
  match run.ending with
  | .done value => wanted value
  | .aborted _ => False
  | .cutOff => True

theorem unaborted_pure (value : α) :
    (pure value : Run ν α).Unaborted := by
  intro message aborted
  cases aborted

theorem Unaborted.safe (unaborted : run.Unaborted) :
    run.Safe fun _ => True := by
  obtain ⟨log, ending⟩ := run
  cases ending with
  | done value => trivial
  | aborted message => exact unaborted message rfl
  | cutOff => trivial

theorem Safe.bind
    {middle : α → Prop} {wanted : β → Prop}
    (safe : run.Safe middle)
    (continues :
      ∀ value, run.ending = .done value → middle value → (next value).Safe wanted) :
    (run >>= next).Safe wanted := by
  obtain ⟨log, ending⟩ := run
  cases ending with
  | done value => exact continues value rfl safe
  | aborted message => exact safe
  | cutOff => trivial

theorem Safe.of_done
    {wanted : α → Prop} {value : α} (safe : run.Safe wanted)
    (ending : run.ending = .done value) :
    wanted value := by
  unfold Safe at safe
  rw [ending] at safe
  exact safe

theorem Safe.unaborted
    {wanted : α → Prop} (safe : run.Safe wanted) :
    run.Unaborted := by
  intro message aborted
  unfold Safe at safe
  rw [aborted] at safe
  exact safe

theorem Safe.mono
    {stronger weaker : α → Prop}
    (implies : ∀ value, stronger value → weaker value) (safe : run.Safe stronger) :
    run.Safe weaker := by
  obtain ⟨log, ending⟩ := run
  cases ending with
  | done value => exact implies value safe
  | aborted message => exact safe
  | cutOff => trivial

end Run

/-! ## Replies that go forward -/

/-- A success passes letters, and it passes none only if it may stay where it was. -/
def Reply.Forward {α : Type} (mayStay : Prop) (start : Cursor) : Reply α → Prop
  | .success _ rest => ∃ letters, start.Passes letters rest ∧ (letters = [] → mayStay)
  | .failure _ => True

namespace Reply.Forward

variable {α : Type} {mayStay mayStayLater : Prop} {start middle : Cursor} {letters : List Char}

theorem mono
    (weaker : mayStay → mayStayLater) :
    ∀ reply : Reply α, reply.Forward mayStay start → reply.Forward mayStayLater start
  | .success _ _, ⟨letters, passes, stays⟩ =>
      ⟨letters, passes, fun none => weaker (stays none)⟩
  | .failure _, _ => trivial

/-- Two stretches one after the other stay where they were only if both may. -/
theorem after
    (passes : start.Passes letters middle) (stays : letters = [] → mayStay) :
    ∀ reply : Reply α,
      reply.Forward mayStayLater middle → reply.Forward (mayStay ∧ mayStayLater) start
  | .success _ _, ⟨later, laterPasses, laterStays⟩ => by
      have bothStay : letters ++ later = [] → mayStay ∧ mayStayLater := by
        intro none
        obtain ⟨first, second⟩ := List.append_eq_nil_iff.1 none
        exact ⟨stays first, laterStays second⟩
      exact ⟨letters ++ later, passes.trans laterPasses, bothStay⟩
  | .failure _, _ => trivial

end Reply.Forward

namespace Parser

variable {ν α β ι : Type} {mayStay mayStayLater : Prop}

/-- The values that a parser can come to. -/
def Yields (parser : Parser ν α) (value : α) : Prop :=
  ∃ cursor rest, (parser.parse cursor).ending = .done (.success value rest)

/-- No run of the parser is given up, and every success goes forward. -/
def GoesForward (mayStay : Prop) (parser : Parser ν α) : Prop :=
  ∀ cursor, (parser.parse cursor).Safe (Reply.Forward mayStay cursor)

namespace GoesForward

variable {parser first second : Parser ν α}

theorem mono
    (weaker : mayStay → mayStayLater) (forward : parser.GoesForward mayStay) :
    parser.GoesForward mayStayLater :=
  fun cursor => (forward cursor).mono (Reply.Forward.mono weaker)

theorem item : (Parser.item : Parser ν Char).GoesForward False := by
  intro cursor
  rw [parse_item]
  cases step : cursor.next? with
  | none => trivial
  | some found =>
      obtain ⟨letter, rest⟩ := found
      have passes : cursor.Passes [letter] rest := Cursor.Passes.of_next? step
      exact ⟨[letter], passes, List.cons_ne_nil letter []⟩

theorem valueOf (value : α) : (Parser.valueOf value : Parser ν α).GoesForward True :=
  fun cursor => ⟨[], Cursor.Passes.nothing cursor, fun _ => trivial⟩

theorem failure (message : String) : (Parser.failure message : Parser ν α).GoesForward False :=
  fun _ => trivial

theorem cutOff : (Parser.cutOff : Parser ν α).GoesForward False :=
  fun _ => trivial

/-- Whatever goes on from the place where a parser stopped goes forward with it. -/
theorem andThenM
    {next : α → Cursor → Run ν (Reply β)}
    (forward : parser.GoesForward mayStay)
    (following :
      ∀ value, parser.Yields value →
        ∀ rest, (next value rest).Safe (Reply.Forward mayStayLater rest))
    (cursor : Cursor) :
    (parser.parse cursor >>= Reply.andThenM next).Safe
      (Reply.Forward (mayStay ∧ mayStayLater) cursor) := by
  apply (forward cursor).bind
  intro reply ending advanced
  cases reply with
  | success value rest =>
      obtain ⟨letters, passes, stays⟩ := advanced
      have yields : parser.Yields value := ⟨cursor, rest, ending⟩
      have later : (next value rest).Safe (Reply.Forward mayStayLater rest) :=
        following value yields rest
      exact later.mono (Reply.Forward.after passes stays)
  | failure message => trivial

private theorem success_forward (value : α) (rest : Cursor) :
    (Reply.success value rest).Forward True rest :=
  ⟨[], Cursor.Passes.nothing rest, fun _ => trivial⟩

/-- What goes on from there without passing letters of its own changes nothing. -/
private theorem andStayM
    {next : α → Cursor → Run ν (Reply β)}
    (forward : parser.GoesForward mayStay)
    (following :
      ∀ value, parser.Yields value →
        ∀ rest, (next value rest).Safe (Reply.Forward True rest))
    (cursor : Cursor) :
    (parser.parse cursor >>= Reply.andThenM next).Safe (Reply.Forward mayStay cursor) := by
  have both := forward.andThenM following cursor
  exact both.mono (Reply.Forward.mono And.left)

theorem mapM
    {mapper : α → Run ν β} (forward : parser.GoesForward mayStay)
    (unaborted : ∀ value, parser.Yields value → (mapper value).Unaborted) :
    (parser.mapM mapper).GoesForward mayStay := by
  intro cursor
  have asNext :
      Reply.mapM mapper =
        Reply.andThenM fun value rest => do return .success (← mapper value) rest := by
    funext reply
    cases reply <;> rfl
  change (parser.parse cursor >>= Reply.mapM mapper).Safe _
  rw [asNext]
  apply forward.andStayM
  intro value yields rest
  have mapped : (mapper value).Safe fun _ => True := (unaborted value yields).safe
  apply mapped.bind
  intro image _ _
  exact success_forward image rest

theorem satisfyOrM
    {test : α → Run ν Bool} (message : String) (forward : parser.GoesForward mayStay)
    (unaborted : ∀ value, parser.Yields value → (test value).Unaborted) :
    (parser.satisfyOrM test message).GoesForward mayStay := by
  apply forward.andStayM
  intro value yields rest
  have tested : (test value).Safe fun _ => True := (unaborted value yields).safe
  apply tested.bind
  intro passed _ _
  cases passed with
  | true => exact success_forward value rest
  | false => trivial

theorem flatMapM
    {next : α → Run ν (Parser ν β)} (forward : parser.GoesForward mayStay)
    (unaborted : ∀ value, parser.Yields value → (next value).Unaborted)
    (following :
      ∀ value following, parser.Yields value → (next value).ending = .done following →
        following.GoesForward mayStayLater) :
    (parser.flatMapM next).GoesForward (mayStay ∧ mayStayLater) := by
  apply forward.andThenM
  intro value yields rest
  have made : (next value).Safe fun _ => True := (unaborted value yields).safe
  apply made.bind
  intro built ending _
  exact following value built yields ending rest

theorem applyM
    {functions : Parser ν (α → Run ν β)}
    (functionsForward : functions.GoesForward mayStay)
    (forward : parser.GoesForward mayStayLater)
    (unaborted :
      ∀ function value, functions.Yields function → parser.Yields value →
        (function value).Unaborted) :
    (parser.applyM functions).GoesForward (mayStay ∧ mayStayLater) := by
  apply functionsForward.andThenM
  intro function yields
  have unabortedArguments :
      ∀ value, parser.Yields value → (function value).Unaborted :=
    fun value => unaborted function value yields
  exact forward.mapM unabortedArguments

theorem orElse
    (firstForward : first.GoesForward mayStay) (secondForward : second.GoesForward mayStayLater) :
    (first.orElse second).GoesForward (mayStay ∨ mayStayLater) := by
  intro cursor
  apply (firstForward cursor).bind
  intro reply _ advanced
  cases reply with
  | success value rest =>
      exact Reply.Forward.mono Or.inl (.success value rest) advanced
  | failure message =>
      have fromStart : (second.parse cursor).Safe (Reply.Forward mayStayLater cursor) :=
        secondForward cursor
      exact fromStart.mono (Reply.Forward.mono Or.inr)

theorem lazyM
    {factory : Unit → Run ν (Parser ν α)} (unaborted : (factory ()).Unaborted)
    (built : ∀ parser, (factory ()).ending = .done parser → parser.GoesForward mayStay) :
    (Parser.lazyM factory).GoesForward mayStay := by
  intro cursor
  apply unaborted.safe.bind
  intro parser ending _
  exact built parser ending cursor

/-- After a success a repetition goes forward if its further rounds do. -/
private theorem proceed
    {cursor rest : Cursor} {letters : List Char} {values : List α}
    (passes : cursor.Passes letters rest) (stays : letters = [] → mayStay)
    (further :
      cursor.Consumed rest →
        (parser.rounds ⟨values, rest⟩).Safe (Reply.Forward True rest)) :
    Run.Safe (Reply.Forward mayStay cursor)
      (if cursor.Consumed rest then
        parser.rounds ⟨values, rest⟩
      else
        Collected.stop ⟨values, rest⟩) := by
  by_cases fewer : cursor.Consumed rest
  · rw [if_pos fewer]
    have joined :
        (parser.rounds ⟨values, rest⟩).Safe (Reply.Forward (mayStay ∧ True) cursor) :=
      (further fewer).mono (Reply.Forward.after passes stays)
    exact joined.mono (Reply.Forward.mono And.left)
  · rw [if_neg fewer]
    exact ⟨letters, passes, stays⟩

/-- The rounds of a repetition go forward together, by induction on the bytes that are left. -/
theorem rounds
    (forward : parser.GoesForward mayStay) (values : List α) (cursor : Cursor) :
    (parser.rounds ⟨values, cursor⟩).Safe (Reply.Forward True cursor) := by
  induction size : cursor.bytesLeft using Nat.strongRecOn generalizing values cursor with
  | ind bound inductionHypothesis =>
      rw [rounds_eq]
      apply (forward cursor).bind
      intro reply _ advanced
      cases reply with
      | success value rest =>
          obtain ⟨letters, passes, _⟩ := advanced
          have further :
              cursor.Consumed rest →
                (parser.rounds ⟨value :: values, rest⟩).Safe (Reply.Forward True rest) := by
            intro fewer
            have smaller : rest.bytesLeft < bound := size ▸ fewer
            exact inductionHypothesis rest.bytesLeft smaller (value :: values) rest rfl
          exact proceed passes (fun _ => trivial) further
      | failure message =>
          exact success_forward values.reverse cursor

theorem some (forward : parser.GoesForward mayStay) :
    parser.some.GoesForward mayStay := by
  intro cursor
  rw [parse_some]
  apply (forward cursor).bind
  intro reply _ advanced
  cases reply with
  | success value rest =>
      obtain ⟨letters, passes, stays⟩ := advanced
      have further : (parser.rounds ⟨[value], rest⟩).Safe (Reply.Forward True rest) :=
        forward.rounds [value] rest
      exact proceed passes stays fun _ => further
  | failure message => trivial

theorem many (forward : parser.GoesForward mayStay) :
    parser.many.GoesForward True := by
  have oneOrNone : (parser.some.orElse (Parser.valueOf [])).GoesForward (mayStay ∨ True) :=
    forward.some.orElse (valueOf [])
  rw [many_eq_orElse]
  exact oneOrNone.mono fun _ => trivial

end GoesForward

/-! ## Composed parsers -/

/-- The parsers that are put together from the operations of this library. Their closures may
write notes, but are not given up on the values that reach them, and the parsers that closures
build are composed in turn. A recursive definition is covered at every depth to which it is
unfolded, since what lies deeper is the parser that is cut off. A handle needs no case of its own,
being the parser that it holds by `Parser.handedOn_eq`. -/
inductive Composed {ν : Type} : {α : Type} → Parser ν α → Prop where
  | item : Composed item
  | valueOf {α : Type} (value : α) : Composed (valueOf value)
  | failure {α : Type} (message : String) : Composed (failure message : Parser ν α)
  | mapM {α β : Type} {mapper : α → Run ν β} {parser : Parser ν α} :
      Composed parser →
      (∀ value, parser.Yields value → (mapper value).Unaborted) →
      Composed (parser.mapM mapper)
  | satisfyOrM {α : Type} {test : α → Run ν Bool} (message : String) {parser : Parser ν α} :
      Composed parser →
      (∀ value, parser.Yields value → (test value).Unaborted) →
      Composed (parser.satisfyOrM test message)
  | flatMapM {α β : Type} {parser : Parser ν α} {next : α → Run ν (Parser ν β)} :
      Composed parser →
      (∀ value, parser.Yields value → (next value).Unaborted) →
      (∀ value following, parser.Yields value → (next value).ending = .done following →
        Composed following) →
      Composed (parser.flatMapM next)
  | applyM {α β : Type} {parser : Parser ν α} {functions : Parser ν (α → Run ν β)} :
      Composed functions →
      Composed parser →
      (∀ function value, functions.Yields function → parser.Yields value →
        (function value).Unaborted) →
      Composed (parser.applyM functions)
  | orElse {α : Type} {first second : Parser ν α} :
      Composed first → Composed second → Composed (first.orElse second)
  | many {α : Type} {parser : Parser ν α} : Composed parser → Composed parser.many
  | some {α : Type} {parser : Parser ν α} : Composed parser → Composed parser.some
  | lazyM {α : Type} {factory : Unit → Run ν (Parser ν α)} :
      (factory ()).Unaborted →
      (∀ parser, (factory ()).ending = .done parser → Composed parser) →
      Composed (lazyM factory)
  | cutOff {α : Type} : Composed (cutOff : Parser ν α)

theorem Composed.goesForward {parser : Parser ν α} (composed : parser.Composed) :
    parser.GoesForward True := by
  induction composed with
  | item => exact GoesForward.item.mono False.elim
  | valueOf value => exact GoesForward.valueOf value
  | failure message => exact (GoesForward.failure message).mono False.elim
  | mapM _ unaborted forward => exact forward.mapM unaborted
  | satisfyOrM message _ unaborted forward => exact forward.satisfyOrM message unaborted
  | flatMapM _ unaborted _ forward following =>
      exact (forward.flatMapM unaborted following).mono And.left
  | applyM _ _ unaborted functionsForward forward =>
      exact (functionsForward.applyM forward unaborted).mono And.left
  | orElse _ _ firstForward secondForward =>
      exact (firstForward.orElse secondForward).mono fun _ => trivial
  | many _ forward => exact forward.many
  | some _ forward => exact forward.some
  | lazyM unaborted _ built => exact GoesForward.lazyM unaborted built
  | cutOff => exact GoesForward.cutOff.mono False.elim

/-- A run of a composed parser that ends comes to a reply, and what a success leaves is a
remainder of the text behind the place where it began. -/
theorem remainder_of_composed
    {parser : Parser ν α} (composed : parser.Composed) (start : Cursor)
    (ends : (parser.parse start).ending ≠ .cutOff) :
    ∃ reply, (parser.parse start).ending = .done reply ∧
      ∀ value rest, reply = .success value rest → start.Remainder rest := by
  have safe : (parser.parse start).Safe (Reply.Forward True start) :=
    composed.goesForward start
  cases ending : (parser.parse start).ending with
  | done reply =>
      have remainders :
          ∀ value rest, reply = .success value rest → start.Remainder rest := by
        rintro value rest rfl
        obtain ⟨letters, passes, _⟩ := safe.of_done ending
        exact passes.remainder
      exact ⟨reply, rfl, remainders⟩
  | aborted message => exact False.elim (safe.unaborted message ending)
  | cutOff => exact False.elim (ends ending)

theorem remainder_between_accents :
    ((item : Parser Unit Char).satisfyOr (fun letter => letter != 'x') "x").some.Composed ∧
      ∃ reply,
        (((item : Parser Unit Char).satisfyOr (fun letter => letter != 'x') "x").some.parse
          ⟨Segment.ofList ['é'], Segment.ofList ['𝄞', '\n', 'x']⟩).ending = .done reply ∧
        ∀ value rest, reply = .success value rest →
          Cursor.Remainder ⟨Segment.ofList ['é'], Segment.ofList ['𝄞', '\n', 'x']⟩ rest := by
  have composed :
      ((item : Parser Unit Char).satisfyOr (fun letter => letter != 'x') "x").some.Composed :=
    .some (.satisfyOrM "x" .item fun _ _ => Run.unaborted_pure _)
  have ends :
      (((item : Parser Unit Char).satisfyOr (fun letter => letter != 'x') "x").some.parse
        ⟨Segment.ofList ['é'], Segment.ofList ['𝄞', '\n', 'x']⟩).ending ≠ .cutOff := by
    decide +kernel
  exact ⟨composed, remainder_of_composed composed _ ends⟩

/-- Bodies that make composed parsers from composed parsers are composed at every depth. -/
theorem Composed.recursive
    {τ : ι → Type}
    {bodies : ((rule : ι) → Parser ν (τ rule)) → (rule : ι) → Parser ν (τ rule)}
    (keeps :
      ∀ parsers, (∀ rule, (parsers rule).Composed) → ∀ rule, (bodies parsers rule).Composed)
    (depth : Nat) (rule : ι) :
    (Parser.recursive bodies depth rule).Composed := by
  induction depth generalizing rule with
  | zero => exact Composed.cutOff
  | succ depth inductionHypothesis => exact keeps _ inductionHypothesis rule

end Parser

/-! ## Grammars -/

section Grammars

variable {ν ι α : Type} {τ : ι → Type}

theorem Parser.unaborted_of_yields_map
    {β : Type} {functions : Parser ν (α → β)} {closure : α → Run ν β}
    (yields :
      (functions.map fun function value => (pure (function value) : Run ν β)).Yields closure)
    (value : α) :
    (closure value).Unaborted := by
  obtain ⟨cursor, rest, ending⟩ := yields
  rw [Parser.parse_map, Run.ending_map] at ending
  obtain ⟨reply, _, image⟩ := Ending.exists_of_bind_eq_done ending
  cases reply with
  | success function _ =>
      cases image
      exact Run.unaborted_pure (function value)
  | failure message => cases image

theorem Grammar.composed
    {rules : (rule : ι) → Parser ν (τ rule)} (composedRules : ∀ rule, (rules rule).Composed)
    (grammar : Grammar τ α) :
    (grammar.parser rules).Composed := by
  induction grammar with
  | item => exact .item
  | valueOf value => exact .valueOf value
  | failure message => exact .failure message
  | map mapper _ operand => exact .mapM operand fun value _ => Run.unaborted_pure _
  | satisfyOr test message _ operand =>
      exact .satisfyOrM message operand fun value _ => Run.unaborted_pure _
  | flatMap _ _ operand next =>
      apply Parser.Composed.flatMapM operand
      · intro value _
        exact Run.unaborted_pure _
      · rintro value following _ ⟨⟩
        exact next value
  | apply _ _ operand functions =>
      apply Parser.Composed.applyM
      · exact .mapM functions fun function _ => Run.unaborted_pure _
      · exact operand
      · intro closure value yields _
        exact Parser.unaborted_of_yields_map yields value
  | orElse _ _ first second => exact .orElse first second
  | many _ operand => exact .many operand
  | some _ operand => exact .some operand
  | lazy _ built =>
      rw [parser_lazy]
      exact built ()
  | reference rule =>
      rw [parser_reference]
      exact composedRules rule

theorem Rules.composed (rules : Rules τ) (depth : Nat) (rule : ι) :
    (rules.parser depth rule : Parser ν (τ rule)).Composed :=
  Parser.Composed.recursive
    (fun _ composedRules name => (rules name).composed composedRules) depth rule

end Grammars

end ParserAlgebra
