import ParserAlgebra.Proofs.Consumption
import ParserAlgebra.Proofs.Rounds

/-!
# Repetitions that are repeated

A repetition leaves nothing for its parser to do. Where it has stopped, the parser either fails or
succeeds without moving, and then with the value that the repetition has kept as its last one. To
repeat once more from there therefore brings at most that value again, and a repetition of a
repetition has one round, or two if the first one moved. For parsers that cannot stay where they
are there is only the first case: behind its repetition such a parser fails.
-/

namespace ParserAlgebra

namespace Parser

variable {ν α : Type} {parser : Parser ν α} {start last place rest : Cursor} {value : α}
  {values : List α}

/-! ## Staying and moving -/

namespace GoesForward

theorem eq_of_not_fewer
    (forward : parser.GoesForward True)
    (ending : (parser.parse place).ending = .done (.success value rest))
    (notFewer : place.bytesLeft ≤ rest.bytesLeft) :
    rest = place := by
  obtain ⟨letters, passes, _⟩ := (forward place).of_done ending
  by_cases nothing : letters = []
  · subst nothing
    exact passes.eq_of_nothing
  · have fewer : place.Consumed rest := passes.consumed_iff.2 nothing
    omega

theorem fewer_of_ne
    (forward : parser.GoesForward True)
    (ending : (parser.parse place).ending = .done (.success value rest))
    (moved : rest ≠ place) :
    place.Consumed rest := by
  by_cases fewer : place.Consumed rest
  · exact fewer
  · have stayed : rest = place := forward.eq_of_not_fewer ending (Nat.not_lt.1 fewer)
    exact absurd stayed moved

theorem ne_of_success
    (forward : parser.GoesForward False)
    (ending : (parser.parse place).ending = .done (.success value rest)) :
    rest ≠ place := by
  obtain ⟨letters, passes, stays⟩ := (forward place).of_done ending
  have fewer : place.Consumed rest := passes.consumed_iff.2 stays
  rintro rfl
  omega

end GoesForward

theorem FailsAt.stopsAt (fails : parser.FailsAt place) : parser.StopsAt place := by
  obtain ⟨message, failed⟩ := fails
  intro value rest ending
  rw [failed] at ending
  cases ending

theorem stopsAt_of_stays
    (stays : (parser.parse place).ending = .done (.success value place)) :
    parser.StopsAt place := by
  intro other rest ending
  rw [stays] at ending
  cases ending
  exact Nat.le_refl _

/-! ## Where a repetition stops -/

/-- A repetition ends as the last call does, besides that a failure of it does not count. -/
theorem ending_many_of_progress
    {rounds : List (Round α)}
    (progress : parser.Progress start rounds last) (stops : parser.StopsAt last) :
    (parser.many.parse start).ending =
      (parser.parse last).ending.bind fun reply =>
        match reply with
        | .success value rest => .done (.success (rounds.map Round.value ++ [value]) rest)
        | .failure _ => .done (.success (rounds.map Round.value) last) := by
  rw [ending_parse_many, parse_some_of_progress progress stops]
  rcases ending : (parser.parse last).ending with (⟨value, rest⟩ | message) | message | _
  · rfl
  · cases progress with
    | nil => simp [assembled, closing, Ending.bind]
    | cons => simp [assembled, closing, Ending.bind]
  · rfl
  · rfl

/-- A repetition that a failure has ended fails with it only if there is no value yet. -/
theorem ending_some_of_failure
    {rounds : List (Round α)} {message : String}
    (progress : parser.Progress start rounds last)
    (failed : (parser.parse last).ending = .done (.failure message)) :
    (parser.some.parse start).ending =
      .done
        (if rounds.map Round.value = [] then .failure message
        else .success (rounds.map Round.value) last) := by
  have stops : parser.StopsAt last := FailsAt.stopsAt ⟨message, failed⟩
  rw [parse_some_of_progress progress stops, failed]
  cases rounds with
  | nil => rfl
  | cons round others => rfl

theorem ending_many_of_failsAt (fails : parser.FailsAt place) :
    (parser.many.parse place).ending = .done (.success [] place) := by
  rw [ending_many_of_progress (.nil place) fails.stopsAt]
  obtain ⟨message, failed⟩ := fails
  rw [failed]
  rfl

theorem ending_many_of_stays
    (stays : (parser.parse place).ending = .done (.success value place)) :
    (parser.many.parse place).ending = .done (.success [value] place) := by
  rw [ending_many_of_progress (.nil place) (stopsAt_of_stays stays), stays]
  rfl

theorem ending_many_of_moves
    {latest : α} (moves : (parser.parse start).ending = .done (.success value place))
    (fewer : start.Consumed place)
    (stays : (parser.parse place).ending = .done (.success latest place)) :
    (parser.many.parse start).ending = .done (.success [value, latest] place) := by
  have progress : parser.Progress start [⟨start, value⟩] place := .cons moves fewer (.nil place)
  rw [ending_many_of_progress progress (stopsAt_of_stays stays), stays]
  rfl

/-! ## Repeating once more -/

/-- What is left for a parser to bring at a place to which a repetition of it has come with the
given values: nothing if it fails there, and the last of the values again if it stays there. -/
inductive Exhausted (parser : Parser ν α) (values : List α) (place : Cursor) :
    List α → Prop where
  | fails : parser.FailsAt place → Exhausted parser values place []
  | stays {value : α} :
      values.getLast? = some value →
      (parser.parse place).ending = .done (.success value place) →
      Exhausted parser values place [value]

theorem Exhausted.ending_many {again : List α} (exhausted : parser.Exhausted values place again) :
    (parser.many.parse place).ending = .done (.success again place) := by
  cases exhausted with
  | fails fails => exact ending_many_of_failsAt fails
  | stays _ stays => exact ending_many_of_stays stays

theorem exists_exhausted
    (forward : parser.GoesForward True)
    (ending : (parser.many.parse start).ending = .done (.success values place)) :
    ∃ again, parser.Exhausted values place again := by
  obtain ⟨rounds, last, progress, stops⟩ := parser.exists_progress start
  rw [ending_many_of_progress progress stops] at ending
  obtain ⟨reply, lastEnding, image⟩ := Ending.exists_of_bind_eq_done ending
  cases reply with
  | success value rest =>
      have stayed : rest = last :=
        forward.eq_of_not_fewer lastEnding (stops value rest lastEnding)
      subst stayed
      cases image
      exact ⟨[value], .stays (by simp) lastEnding⟩
  | failure message =>
      cases image
      exact ⟨[], .fails ⟨message, lastEnding⟩⟩

theorem ending_many_many
    {again : List α} (forward : parser.GoesForward True)
    (ending : (parser.many.parse start).ending = .done (.success values place))
    (endingAgain : (parser.many.parse place).ending = .done (.success again place)) :
    (parser.many.many.parse start).ending =
      .done
        (if place = start then .success [values] start
        else .success [values, again] place) := by
  by_cases stayed : place = start
  · subst stayed
    rw [if_pos rfl, ending_many_of_stays ending]
  · have fewer : start.Consumed place := forward.many.fewer_of_ne ending stayed
    rw [if_neg stayed, ending_many_of_moves ending fewer endingAgain]

/-- Behind its own repetition a parser that always moves finds nothing, unless one of the calls does
not come to an end. -/
theorem failsAt_behind_many
    (forward : parser.GoesForward True)
    (moves :
      ∀ place value rest,
        (parser.parse place).ending = .done (.success value rest) → rest ≠ place)
    (start : Cursor) :
    (parser.many.flatMap fun _ => parser).FailsAt start ∨
      ∃ rounds last,
        parser.Progress start rounds last ∧
          (parser.parse last).ending = .cutOff ∧
          ((parser.many.flatMap fun _ => parser).parse start).ending = .cutOff := by
  obtain ⟨rounds, last, progress, stops⟩ := parser.exists_progress start
  have manyEnding := ending_many_of_progress progress stops
  unfold FailsAt
  rw [parse_flatMap, Run.ending_bind, manyEnding]
  rcases ending : (parser.parse last).ending with (⟨value, rest⟩ | message) | message | _
  · have stayed : rest = last := forward.eq_of_not_fewer ending (stops value rest ending)
    exact absurd stayed (moves last value rest ending)
  · left
    exact ⟨message, ending⟩
  · exact absurd ending ((forward last).unaborted message)
  · right
    exact ⟨rounds, last, progress, ending, rfl⟩

/-- Where a repetition has stopped its parser is exhausted, so that repeating once more brings what
is left to it and does not move, and a repetition of the repetition brings the two together. If the
parser always moves, it fails behind its repetition wherever the calls of it come to an end. -/
theorem exhausted_of_composed
    (composed : parser.Composed) :
    (∀ start values place,
      (parser.many.parse start).ending = .done (.success values place) →
        ∃ again,
          parser.Exhausted values place again ∧
          (parser.many.parse place).ending = .done (.success again place) ∧
          (parser.many.many.parse start).ending =
            .done
              (if place = start then .success [values] start
              else .success [values, again] place)) ∧
    ((∀ place value rest,
        (parser.parse place).ending = .done (.success value rest) → rest ≠ place) →
      ∀ start,
        (parser.many.flatMap fun _ => parser).FailsAt start ∨
          ∃ rounds last,
            parser.Progress start rounds last ∧
              (parser.parse last).ending = .cutOff ∧
              ((parser.many.flatMap fun _ => parser).parse start).ending = .cutOff) := by
  have forward : parser.GoesForward True := composed.goesForward
  constructor
  · intro start values place ending
    obtain ⟨again, exhausted⟩ := exists_exhausted forward ending
    have endingAgain := exhausted.ending_many
    exact ⟨again, exhausted, endingAgain, ending_many_many forward ending endingAgain⟩
  · exact failsAt_behind_many forward

/-- The letter é. -/
def accent : Parser ν Char :=
  item.satisfyOr (fun letter => letter == 'é') "no accent"

theorem exhausted_of_composed_accents :
    (accent : Parser Unit Char).many.Composed ∧
    ((accent : Parser Unit Char).many.many.parse (Cursor.ofText "ééx")).ending =
      .done (.success [['é', 'é'], []] ⟨Segment.ofList ['é', 'é'], Segment.ofList ['x']⟩) ∧
    (accent : Parser Unit Char).many.Exhausted [['é', 'é'], []]
      ⟨Segment.ofList ['é', 'é'], Segment.ofList ['x']⟩ [[]] ∧
    ((accent : Parser Unit Char).many.many.many.parse (Cursor.ofText "ééx")).ending =
      .done (.success [[['é', 'é'], []], [[]]]
        ⟨Segment.ofList ['é', 'é'], Segment.ofList ['x']⟩) ∧
    (accent : Parser Unit Char).Composed ∧
    ((accent : Parser Unit Char).many.flatMap fun _ => accent).FailsAt (Cursor.ofText "ééx") := by
  have composed : (accent : Parser Unit Char).Composed :=
    .satisfyOrM "no accent" .item fun _ _ => Run.unaborted_pure _
  have moves :
      ∀ place value rest,
        ((accent : Parser Unit Char).parse place).ending = .done (.success value rest) →
          rest ≠ place := by
    intro place value rest ending
    have forward : (accent : Parser Unit Char).GoesForward False :=
      GoesForward.item.satisfyOrM "no accent" fun _ _ => Run.unaborted_pure _
    exact forward.ne_of_success ending
  have once :
      ((accent : Parser Unit Char).many.many.parse (Cursor.ofText "ééx")).ending =
        .done (.success [['é', 'é'], []]
          ⟨Segment.ofList ['é', 'é'], Segment.ofList ['x']⟩) := by
    decide +kernel
  have onceMore :
      ((accent : Parser Unit Char).many.many.parse
        ⟨Segment.ofList ['é', 'é'], Segment.ofList ['x']⟩).ending =
        .done (.success [[]] ⟨Segment.ofList ['é', 'é'], Segment.ofList ['x']⟩) := by
    decide +kernel
  have ends :
      (((accent : Parser Unit Char).many.flatMap fun _ => accent).parse
        (Cursor.ofText "ééx")).ending ≠ .cutOff := by
    decide +kernel
  obtain ⟨again, exhausted, endingAgain, twice⟩ :=
    (exhausted_of_composed (.many composed)).1 (Cursor.ofText "ééx") _ _ once
  rw [onceMore] at endingAgain
  cases endingAgain
  rw [if_neg (by decide)] at twice
  rcases (exhausted_of_composed composed).2 moves (Cursor.ofText "ééx") with
    fails | ⟨_, _, _, _, cut⟩
  · exact ⟨.many composed, once, exhausted, twice, composed, fails⟩
  · exact absurd cut ends

end Parser

end ParserAlgebra
