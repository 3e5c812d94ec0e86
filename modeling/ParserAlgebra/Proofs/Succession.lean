import Mathlib.Data.List.Induction
import ParserAlgebra.Parser.Sequence
import ParserAlgebra.Proofs.Calls

/-!
# Parsers run in order

Parsers that are run in order are nested with the last of them outermost, since each is applied to
what those before it have listed. The order in which they run is nevertheless that of the list:
each begins where the one before it stopped, and the first that does not succeed is the last one
that is run. All proofs here follow the nesting, so that they go by induction at the end of a list.
-/

namespace ParserAlgebra

variable {ν κ α β : Type}

/-! ## Endings that are passed on -/

/-- Without a success there is nothing to go on with, and the ending is passed on to whoever would
have gone on: the same message of a failure, the same text of a run that was given up. -/
inductive Ending.PassedOn : Ending (Reply α) → Ending (Reply β) → Prop where
  | failure (message : String) :
      PassedOn (.done (.failure message)) (.done (.failure message))
  | aborted (message : String) : PassedOn (.aborted message) (.aborted message)
  | cutOff : PassedOn .cutOff .cutOff

namespace Ending

theorem success_or_passedOn (β : Type) (ending : Ending (Reply α)) :
    (∃ value rest, ending = .done (.success value rest)) ∨
      ∃ passed : Ending (Reply β), ending.PassedOn passed := by
  rcases ending with (⟨value, rest⟩ | message) | message | _
  · exact .inl ⟨value, rest, rfl⟩
  · exact .inr ⟨_, .failure message⟩
  · exact .inr ⟨_, .aborted message⟩
  · exact .inr ⟨_, .cutOff⟩

theorem PassedOn.ne_success
    {ending : Ending (Reply α)} {passed : Ending (Reply β)} (passes : ending.PassedOn passed)
    (value : β) (rest : Cursor) :
    passed ≠ .done (.success value rest) := by
  cases passes <;> simp

theorem PassedOn.again
    {ending : Ending (Reply α)} {passed : Ending (Reply β)} (passes : ending.PassedOn passed) :
    passed.PassedOn passed := by
  cases passes with
  | failure message => exact .failure message
  | aborted message => exact .aborted message
  | cutOff => exact .cutOff

end Ending

theorem Run.bind_of_passedOn
    {run : Run ν (Reply α)} {passed : Ending (Reply β)} (passes : run.ending.PassedOn passed)
    (next : α → Cursor → Run ν (Reply β)) :
    run >>= Reply.andThenM next = ⟨run.log, passed⟩ := by
  obtain ⟨log, ending⟩ := run
  cases passes with
  | failure message =>
      rw [done_bind]
      simp [Reply.andThenM]
  | aborted message => rfl
  | cutOff => rfl

/-! ## One parser more -/

namespace Parser

variable {parsers : List (Parser ν α)} {parser : Parser ν α} {start place : Cursor}
  {values : List α}

/-- One parser more runs where the others have stopped, and its value comes last. -/
theorem parse_inOrder_concat
    (parsers : List (Parser ν α)) (parser : Parser ν α) (start : Cursor) :
    (inOrder (parsers ++ [parser])).parse start =
      (inOrder parsers).parse start >>= Reply.andThenM fun values place =>
        parser.parse place >>= Reply.andThenM fun value rest =>
          pure (.success (values ++ [value]) rest) := by
  have nested :
      inOrder (parsers ++ [parser]) =
        parser.apply ((inOrder parsers).map fun values value => values ++ [value]) := by
    simp [inOrder]
  rw [nested, parse_apply, parse_map, bind_map_left]
  congr 1
  funext reply
  cases reply with
  | success values place =>
      simp only [Reply.map, Reply.andThenM]
      rw [map_eq_pure_bind]
      congr 1
      funext reply
      cases reply <;> rfl
  | failure message => rfl

theorem parse_inOrder_concat_of_success
    (done : ((inOrder parsers).parse start).ending = .done (.success values place))
    {value : α} {rest : Cursor}
    (ending : (parser.parse place).ending = .done (.success value rest)) :
    (inOrder (parsers ++ [parser])).parse start =
      ⟨((inOrder parsers).parse start).log ++ (parser.parse place).log,
        .done (.success (values ++ [value]) rest)⟩ := by
  rw [parse_inOrder_concat, Run.bind_of_done done]
  simp only [Reply.andThenM]
  rw [Run.bind_of_done ending]
  simp [Reply.andThenM]

theorem parse_inOrder_concat_of_passedOn
    (done : ((inOrder parsers).parse start).ending = .done (.success values place))
    {passed : Ending (Reply (List α))} (passes : (parser.parse place).ending.PassedOn passed) :
    (inOrder (parsers ++ [parser])).parse start =
      ⟨((inOrder parsers).parse start).log ++ (parser.parse place).log, passed⟩ := by
  rw [parse_inOrder_concat, Run.bind_of_done done]
  simp only [Reply.andThenM]
  rw [Run.bind_of_passedOn passes]

/-- Parsers that come after one that does not succeed play no part. -/
theorem parse_inOrder_append_of_passedOn
    (passes :
      ((inOrder parsers).parse start).ending.PassedOn ((inOrder parsers).parse start).ending)
    (after : List (Parser ν α)) :
    (inOrder (parsers ++ after)).parse start = (inOrder parsers).parse start := by
  induction after using List.reverseRecOn with
  | nil => rw [List.append_nil]
  | append_singleton after parser inductionHypothesis =>
      -- the parser that was added last is asked for only behind a success of those before it
      rw [← List.append_assoc, parse_inOrder_concat, inductionHypothesis,
        Run.bind_of_passedOn passes]

end Parser

/-! ## Successes one after the other -/

/-- A call of a named parser that has succeeded: where it began, and the value that it came to. -/
structure Call (κ α : Type) where
  name : κ
  place : Cursor
  value : α

/-- Named parsers succeed one after the other, every one from where the one before it stopped. -/
inductive Succession (parsers : κ → Parser ν α) (start : Cursor) :
    List (Call κ α) → Cursor → Prop where
  | nil : Succession parsers start [] start
  | snoc {earlier : List (Call κ α)} {place rest : Cursor} {name : κ} {value : α} :
      Succession parsers start earlier place →
      ((parsers name).parse place).ending = .done (.success value rest) →
      Succession parsers start (earlier ++ [⟨name, place, value⟩]) rest

namespace Succession

variable {parsers others : κ → Parser ν α} {start stop : Cursor} {calls : List (Call κ α)}

theorem of_ending_eq
    (same :
      ∀ name cursor, ((others name).parse cursor).ending = ((parsers name).parse cursor).ending)
    (succession : Succession parsers start calls stop) :
    Succession others start calls stop := by
  induction succession with
  | nil => exact .nil
  | snoc _ ending inductionHypothesis =>
      apply inductionHypothesis.snoc
      rw [same, ending]

/-- Either all of the named parsers succeed one after the other, or those in front of one that does
not succeed where they have stopped. -/
theorem all_or_before (parsers : κ → Parser ν α) (start : Cursor) (names : List κ) :
    (∃ calls stop,
      Succession parsers start calls stop ∧ names = calls.map Call.name) ∨
    ∃ calls place name after, ∃ passed : Ending (Reply (List α)),
      Succession parsers start calls place ∧
        names = calls.map Call.name ++ name :: after ∧
        ((parsers name).parse place).ending.PassedOn passed := by
  induction names using List.reverseRecOn with
  | nil => exact .inl ⟨[], start, .nil, rfl⟩
  | append_singleton names name inductionHypothesis =>
      rcases inductionHypothesis with
        ⟨calls, place, succession, rfl⟩ |
          ⟨calls, place, stopping, after, passed, succession, rfl, passes⟩
      · rcases Ending.success_or_passedOn (List α) ((parsers name).parse place).ending with
          ⟨value, rest, ending⟩ | ⟨passed, passes⟩
        · exact .inl ⟨_, rest, succession.snoc ending, by simp⟩
        · exact .inr ⟨calls, place, name, [], passed, succession, rfl, passes⟩
      · exact
          .inr ⟨calls, place, stopping, after ++ [name], passed, succession, by simp, passes⟩

theorem parse_inOrder (succession : Succession parsers start calls stop) :
    (Parser.inOrder ((calls.map Call.name).map parsers)).parse start =
      ⟨calls.flatMap fun call => ((parsers call.name).parse call.place).log,
        .done (.success (calls.map Call.value) stop)⟩ := by
  induction succession with
  | nil => rfl
  | @snoc earlier place rest name value _ ending inductionHypothesis =>
      have earlierDone := congrArg Run.ending inductionHypothesis
      have earlierLog := congrArg Run.log inductionHypothesis
      have listed :
          ((earlier ++ [(⟨name, place, value⟩ : Call κ α)]).map Call.name).map parsers =
            (earlier.map Call.name).map parsers ++ [parsers name] := by
        simp
      rw [listed, Parser.parse_inOrder_concat_of_success earlierDone ending, earlierLog]
      simp

theorem parse_inOrder_of_passedOn
    (succession : Succession parsers start calls stop) {name : κ}
    {passed : Ending (Reply (List α))}
    (passes : ((parsers name).parse stop).ending.PassedOn passed) (after : List κ) :
    (Parser.inOrder ((calls.map Call.name ++ name :: after).map parsers)).parse start =
      ⟨(calls.flatMap fun call => ((parsers call.name).parse call.place).log) ++
          ((parsers name).parse stop).log, passed⟩ := by
  have earlierDone := congrArg Run.ending succession.parse_inOrder
  have earlierLog := congrArg Run.log succession.parse_inOrder
  have stopped := Parser.parse_inOrder_concat_of_passedOn earlierDone passes
  have split :
      (calls.map Call.name ++ name :: after).map parsers =
        ((calls.map Call.name).map parsers ++ [parsers name]) ++ after.map parsers := by
    simp
  rw [split, Parser.parse_inOrder_append_of_passedOn, stopped, earlierLog]
  rw [stopped]
  exact passes.again

end Succession

/-! ## The run of parsers in order -/

/-- The run of the named parsers in order is made up of the given calls, each of a named parser from
a place, and ends as given. With all parsers announced, the notes in its log tell of just these
calls. -/
structure RunsThrough (parsers : κ → Parser ν α) (names : List κ) (start : Cursor)
    (calls : List (κ × Cursor)) (ending : Ending (Reply (List α))) : Prop where
  run_eq :
    (Parser.inOrder (names.map parsers)).parse start =
      ⟨calls.flatMap fun call => ((parsers call.1).parse call.2).log, ending⟩
  announced_eq :
    ∀ mark : κ → Cursor → ν,
      (Parser.inOrder (names.map fun name => (parsers name).announced (mark name))).parse start =
        ⟨calls.flatMap fun call =>
          .note (mark call.1 call.2) :: ((parsers call.1).parse call.2).log, ending⟩

/-- What is called in a call that has succeeded, and from where. -/
def Call.target (call : Call κ α) : κ × Cursor :=
  (call.name, call.place)

namespace Succession

variable {parsers : κ → Parser ν α} {start stop : Cursor} {calls : List (Call κ α)}

theorem announced (succession : Succession parsers start calls stop) (mark : κ → Cursor → ν) :
    Succession (fun name => (parsers name).announced (mark name)) start calls stop :=
  succession.of_ending_eq fun name cursor =>
    Parser.ending_parse_announced (mark name) (parsers name) cursor

theorem runsThrough (succession : Succession parsers start calls stop) :
    RunsThrough parsers (calls.map Call.name) start (calls.map Call.target)
      (.done (.success (calls.map Call.value) stop)) := by
  constructor
  · rw [succession.parse_inOrder, List.flatMap_map]
    rfl
  · intro mark
    have run := (succession.announced mark).parse_inOrder
    rw [List.map_map] at run ⊢
    rw [List.flatMap_map]
    exact run

theorem runsThrough_of_passedOn
    (succession : Succession parsers start calls stop) {name : κ}
    {passed : Ending (Reply (List α))}
    (passes : ((parsers name).parse stop).ending.PassedOn passed) (after : List κ) :
    RunsThrough parsers (calls.map Call.name ++ name :: after) start
      (calls.map Call.target ++ [(name, stop)]) passed := by
  constructor
  · rw [succession.parse_inOrder_of_passedOn passes]
    simp [List.flatMap_map, Call.target]
  · intro mark
    have run := (succession.announced mark).parse_inOrder_of_passedOn passes after
    rw [run]
    simp [List.flatMap_map, Call.target]

end Succession

theorem ending_inOrder_eq_success_iff
    (parsers : κ → Parser ν α) (names : List κ) (start : Cursor) (values : List α)
    (stop : Cursor) :
    ((Parser.inOrder (names.map parsers)).parse start).ending = .done (.success values stop) ↔
      ∃ calls,
        Succession parsers start calls stop ∧
          names = calls.map Call.name ∧
          values = calls.map Call.value := by
  constructor
  · intro done
    rcases Succession.all_or_before parsers start names with
      ⟨calls, place, succession, rfl⟩ |
        ⟨calls, place, name, after, passed, succession, rfl, passes⟩
    · rw [succession.parse_inOrder] at done
      cases done
      exact ⟨calls, succession, rfl, rfl⟩
    · rw [succession.parse_inOrder_of_passedOn passes] at done
      exact absurd done (passes.ne_success values stop)
  · rintro ⟨calls, succession, rfl, rfl⟩
    rw [succession.parse_inOrder]

/-- Parsers in order succeed just if they succeed one after the other, with their values in order
and with what the last of them leaves, and then each of them is run once. Otherwise they are run up
to the first that does not succeed, each from where the one before it stopped, and the run ends as
that one does; those behind it are not run. -/
theorem run_of_succession
    (parsers : κ → Parser ν α) (names : List κ) (start : Cursor) :
    (∀ values stop,
      ((Parser.inOrder (names.map parsers)).parse start).ending = .done (.success values stop) ↔
        ∃ calls,
          Succession parsers start calls stop ∧
            names = calls.map Call.name ∧
            values = calls.map Call.value) ∧
    ((∃ calls stop,
        Succession parsers start calls stop ∧
          names = calls.map Call.name ∧
          RunsThrough parsers names start (calls.map Call.target)
            (.done (.success (calls.map Call.value) stop))) ∨
      ∃ calls place name after, ∃ passed : Ending (Reply (List α)),
        Succession parsers start calls place ∧
          names = calls.map Call.name ++ name :: after ∧
          ((parsers name).parse place).ending.PassedOn passed ∧
          RunsThrough parsers names start (calls.map Call.target ++ [(name, place)]) passed) := by
  constructor
  · exact ending_inOrder_eq_success_iff parsers names start
  · rcases Succession.all_or_before parsers start names with
      ⟨calls, stop, succession, rfl⟩ |
        ⟨calls, place, name, after, passed, succession, rfl, passes⟩
    · have runs := succession.runsThrough
      exact .inl ⟨calls, stop, succession, rfl, runs⟩
    · have runs := succession.runsThrough_of_passedOn passes after
      exact .inr ⟨calls, place, name, after, passed, succession, rfl, passes, runs⟩

end ParserAlgebra
