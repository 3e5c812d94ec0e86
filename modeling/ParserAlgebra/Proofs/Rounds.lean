import ParserAlgebra.Parser.Repetition
import ParserAlgebra.Proofs.Calls

/-!
# The rounds of a repetition

A repetition calls its parser from the place where it begins, and after each call that shortens the
text again from where that call stopped. The first call that does not shorten the text is the last
one. From this one list of calls everything else follows: what the run writes is what the calls
write, in order, and then the reports of the repetition; the values are those of the calls that
succeed; and since every call but the last consumes a byte, there is at most one call more than
there are bytes.
-/

namespace ParserAlgebra

namespace Parser

variable {ν α : Type} {parser : Parser ν α} {start last : Cursor}

/-! ## Progress -/

/-- A call that has shortened the text: where it began, and the value that it came to. -/
structure Round (α : Type) where
  place : Cursor
  value : α

/-- The parser comes from the first place to the last by calls that each shorten the text, every
one from where the one before it stopped. -/
inductive Progress (parser : Parser ν α) : Cursor → List (Round α) → Cursor → Prop where
  | nil (cursor : Cursor) : Progress parser cursor [] cursor
  | cons {cursor rest last : Cursor} {value : α} {later : List (Round α)} :
      (parser.parse cursor).ending = .done (.success value rest) →
      cursor.Consumed rest →
      Progress parser rest later last →
      Progress parser cursor (⟨cursor, value⟩ :: later) last

/-- The call from this place does not shorten the text: it has no value, or no fewer bytes are left
behind it. -/
def StopsAt (parser : Parser ν α) (cursor : Cursor) : Prop :=
  ∀ value rest,
    (parser.parse cursor).ending = .done (.success value rest) →
      cursor.bytesLeft ≤ rest.bytesLeft

theorem exists_progress (parser : Parser ν α) (start : Cursor) :
    ∃ rounds last, parser.Progress start rounds last ∧ parser.StopsAt last := by
  induction size : start.bytesLeft using Nat.strongRecOn generalizing start with
  | ind bound inductionHypothesis =>
      by_cases stops : parser.StopsAt start
      · exact ⟨[], start, .nil start, stops⟩
      · simp only [StopsAt, Classical.not_forall, Nat.not_le, exists_prop] at stops
        obtain ⟨value, rest, ending, fewer⟩ := stops
        have smaller : rest.bytesLeft < bound := size ▸ fewer
        obtain ⟨later, last, progress, stopsLast⟩ :=
          inductionHypothesis rest.bytesLeft smaller rest rfl
        exact ⟨⟨start, value⟩ :: later, last, .cons ending fewer progress, stopsLast⟩

/-- Progress is a matter of how calls end, whatever they write. -/
theorem Progress.of_ending_eq
    {other : Parser ν α} {rounds : List (Round α)}
    (same : ∀ cursor, (other.parse cursor).ending = (parser.parse cursor).ending)
    (progress : parser.Progress start rounds last) :
    other.Progress start rounds last := by
  induction progress with
  | nil cursor => exact .nil cursor
  | @cons cursor _ _ _ _ ending fewer _ inductionHypothesis =>
      have otherEnding := same cursor
      rw [ending] at otherEnding
      exact .cons otherEnding fewer inductionHypothesis

/-- Each round takes at least one byte. -/
theorem Progress.length_add_bytesLeft_le
    {rounds : List (Round α)} (progress : parser.Progress start rounds last) :
    rounds.length + last.bytesLeft ≤ start.bytesLeft := by
  induction progress with
  | nil cursor => simp
  | cons ending fewer _ inductionHypothesis =>
      rw [List.length_cons]
      omega

/-- The value at each index comes from the call at that index, where the last call may have one
value more; and all calls before the last shorten the text. -/
theorem Progress.exists_call
    {rounds : List (Round α)} {final : Option α}
    (progress : parser.Progress start rounds last)
    (lastCall :
      ∀ value, final = some value →
        ∃ rest, (parser.parse last).ending = .done (.success value rest))
    (index : Nat) (value : α)
    (found : (rounds.map Round.value ++ final.toList)[index]? = some value) :
    ∃ place rest,
      (rounds.map Round.place ++ [last])[index]? = some place ∧
        (parser.parse place).ending = .done (.success value rest) ∧
        (index < rounds.length → place.Consumed rest) := by
  induction progress generalizing index with
  | nil cursor =>
      cases final with
      | none => simp at found
      | some given =>
          cases index with
          | zero =>
              obtain rfl : given = value := by simpa using found
              obtain ⟨rest, ending⟩ := lastCall given rfl
              exact ⟨cursor, rest, rfl, ending, by simp⟩
          | succ index => simp at found
  | @cons cursor rest _ given later ending fewer _ inductionHypothesis =>
      cases index with
      | zero =>
          obtain rfl : given = value := by simpa using found
          exact ⟨cursor, rest, rfl, ending, fun _ => fewer⟩
      | succ index =>
          have foundLater : (later.map Round.value ++ final.toList)[index]? = some value := by
            simpa using found
          obtain ⟨place, behind, calledLater, endingLater, fewerLater⟩ :=
            inductionHypothesis lastCall index foundLater
          refine ⟨place, behind, by simpa using calledLater, endingLater, ?_⟩
          intro within
          exact fewerLater (Nat.lt_of_succ_lt_succ within)

/-! ## The run of a repetition -/

/-- What a repetition reports after its last call, and how it ends, where it has the given values
before that call. -/
def closing (values : List α) (last : Cursor) : Ending (Reply α) → Run ν (Reply (List α))
  | .done (.success value rest) =>
      ⟨[.event (.noProgress (values.length + 1)),
        .event (.repetitionFinished (values.length + 1))],
        .done (.success (values ++ [value]) rest)⟩
  | .done (.failure message) =>
      match values with
      | [] => ⟨[], .done (.failure message)⟩
      | _ :: _ => ⟨[.event (.repetitionFinished values.length)], .done (.success values last)⟩
  | .aborted message => ⟨[], .aborted message⟩
  | .cutOff => ⟨[], .cutOff⟩

/-- The run that consists of calls in the given rounds and from the last place, where it is given
what each call writes and how the last one ends. -/
def assembled
    (written : Cursor → List (Entry ν)) (rounds : List (Round α)) (last : Cursor)
    (ending : Ending (Reply α)) : Run ν (Reply (List α)) :=
  ⟨(rounds.map Round.place ++ [last]).flatMap written ++
      (closing (ν := ν) (rounds.map Round.value) last ending).log,
    (closing (ν := ν) (rounds.map Round.value) last ending).ending⟩

theorem stop_eq_closing (values : List α) (value : α) (rest last : Cursor) :
    (Collected.stop ⟨value :: values, rest⟩ : Run ν (Reply (List α))) =
      closing values.reverse last (.done (.success value rest)) := by
  have counts : values.reverse.length + 1 = (value :: values).length := by simp
  simp only [closing, counts, ← List.reverse_cons]
  rfl

theorem finish_eq_closing (latest : α) (earlier : List α) (last : Cursor) (message : String) :
    (Collected.finish ⟨latest :: earlier, last⟩ : Run ν (Reply (List α))) =
      closing (latest :: earlier).reverse last (.done (.failure message)) := by
  have counts : (latest :: earlier).reverse.length = (latest :: earlier).length := by simp
  cases values : (latest :: earlier).reverse with
  | nil => simp at values
  | cons first others =>
      simp only [closing, ← values, counts]
      rfl

theorem rounds_of_success
    {value : α} {rest : Cursor} (values : List α)
    (ending : (parser.parse start).ending = .done (.success value rest))
    (fewer : start.Consumed rest) :
    parser.rounds ⟨values, start⟩ =
      ⟨(parser.parse start).log ++ (parser.rounds ⟨value :: values, rest⟩).log,
        (parser.rounds ⟨value :: values, rest⟩).ending⟩ := by
  rw [rounds_eq, Run.bind_of_done ending]
  simp only [if_pos fewer]

/-- If what follows the last call is closed after a failure and after a success that does not
shorten the text, then it is closed however the call ends. -/
theorem bind_of_stopsAt
    (values : List α) {next : Reply α → Run ν (Reply (List α))} (stops : parser.StopsAt last)
    (afterFailure :
      ∀ message, next (.failure message) = closing values last (.done (.failure message)))
    (afterSuccess :
      ∀ value rest, ¬ last.Consumed rest →
        next (.success value rest) = closing values last (.done (.success value rest))) :
    parser.parse last >>= next =
      ⟨(parser.parse last).log ++
          (closing (ν := ν) values last (parser.parse last).ending).log,
        (closing (ν := ν) values last (parser.parse last).ending).ending⟩ := by
  cases ending : (parser.parse last).ending with
  | done reply =>
      rw [Run.bind_of_done ending]
      cases reply with
      | success value rest =>
          have notFewer : ¬ last.Consumed rest :=
            Nat.not_lt.2 (stops value rest ending)
          rw [afterSuccess value rest notFewer]
      | failure message => rw [afterFailure message]
  | aborted message =>
      rw [Run.bind_of_aborted ending]
      simp [closing]
  | cutOff =>
      rw [Run.bind_of_cutOff ending]
      simp [closing]

/-- The rounds of a repetition that has values already; induction on the calls that it makes. -/
theorem rounds_of_progress
    {rounds : List (Round α)} (latest : α) (earlier : List α)
    (progress : parser.Progress start rounds last) (stops : parser.StopsAt last) :
    parser.rounds ⟨latest :: earlier, start⟩ =
      ⟨(rounds.map Round.place ++ [last]).flatMap (fun place => (parser.parse place).log) ++
          (closing (ν := ν) ((latest :: earlier).reverse ++ rounds.map Round.value) last
            (parser.parse last).ending).log,
        (closing (ν := ν) ((latest :: earlier).reverse ++ rounds.map Round.value) last
          (parser.parse last).ending).ending⟩ := by
  induction progress generalizing latest earlier with
  | nil cursor =>
      rw [rounds_eq, bind_of_stopsAt (latest :: earlier).reverse stops]
      · simp
      · intro message
        exact finish_eq_closing latest earlier cursor message
      · intro value rest notFewer
        simp only [if_neg notFewer]
        exact stop_eq_closing (latest :: earlier) value rest cursor
  | @cons cursor rest last value later ending fewer _ inductionHypothesis =>
      rw [rounds_of_success _ ending fewer, inductionHypothesis value (latest :: earlier) stops]
      simp

theorem parse_some_of_progress
    {rounds : List (Round α)}
    (progress : parser.Progress start rounds last) (stops : parser.StopsAt last) :
    parser.some.parse start =
      assembled (fun place => (parser.parse place).log) rounds last (parser.parse last).ending := by
  cases progress with
  | nil cursor =>
      rw [parse_some, bind_of_stopsAt [] stops]
      · simp [assembled]
      · intro message
        rfl
      · intro value rest notFewer
        simp only [if_neg notFewer]
        exact stop_eq_closing [] value rest start
  | @cons _ rest _ value later ending fewer progress =>
      rw [parse_some, Run.bind_of_done ending]
      simp only [if_pos fewer, rounds_of_progress value [] progress stops]
      simp [assembled]

/-! ## The same without failure -/

theorem log_parse_many (parser : Parser ν α) (cursor : Cursor) :
    (parser.many.parse cursor).log = (parser.some.parse cursor).log := by
  rw [parse_many]
  cases ending : (parser.some.parse cursor).ending with
  | done reply =>
      rw [Run.bind_of_done ending]
      cases reply <;> simp [Reply.orElseM]
  | aborted message => rw [Run.bind_of_aborted ending]
  | cutOff => rw [Run.bind_of_cutOff ending]

theorem ending_parse_many (parser : Parser ν α) (cursor : Cursor) :
    (parser.many.parse cursor).ending =
      (parser.some.parse cursor).ending.bind fun reply =>
        match reply with
        | .success values rest => .done (.success values rest)
        | .failure _ => .done (.success [] cursor) := by
  rw [parse_many, Run.ending_bind]
  congr 1
  funext reply
  cases reply <;> rfl

/-! ## Announced calls -/

theorem Progress.announced
    {rounds : List (Round α)} (progress : parser.Progress start rounds last)
    (mark : Cursor → ν) :
    (parser.announced mark).Progress start rounds last :=
  progress.of_ending_eq fun cursor => ending_parse_announced mark parser cursor

theorem StopsAt.announced (stops : parser.StopsAt last) (mark : Cursor → ν) :
    (parser.announced mark).StopsAt last := by
  intro value rest ending
  rw [ending_parse_announced] at ending
  exact stops value rest ending

theorem parse_some_announced
    {rounds : List (Round α)}
    (progress : parser.Progress start rounds last) (stops : parser.StopsAt last)
    (mark : Cursor → ν) :
    (parser.announced mark).some.parse start =
      assembled (fun place => .note (mark place) :: (parser.parse place).log) rounds last
        (parser.parse last).ending := by
  have run := parse_some_of_progress (progress.announced mark) (stops.announced mark)
  simpa using run

/-- The run of a repetition is made up of its calls, which make progress up to the last one, and of
its reports, whatever the parser writes and also if it is given up. With the parser announced, the
notes in the log tell of just these calls. The other form of repetition writes the same. -/
theorem run_of_repetition (parser : Parser ν α) (start : Cursor) :
    ∃ rounds last,
      parser.Progress start rounds last ∧
      parser.StopsAt last ∧
      parser.some.parse start =
        assembled (fun place => (parser.parse place).log) rounds last (parser.parse last).ending ∧
      (∀ mark : Cursor → ν,
        (parser.announced mark).some.parse start =
          assembled (fun place => .note (mark place) :: (parser.parse place).log) rounds last
            (parser.parse last).ending) ∧
      (parser.many.parse start).log = (parser.some.parse start).log ∧
      ∀ mark : Cursor → ν,
        ((parser.announced mark).many.parse start).log =
          ((parser.announced mark).some.parse start).log := by
  obtain ⟨rounds, last, progress, stops⟩ := parser.exists_progress start
  have run := parse_some_of_progress progress stops
  have announcedRun := parse_some_announced progress stops
  have sameLog := parser.log_parse_many start
  have sameAnnouncedLog (mark : Cursor → ν) := (parser.announced mark).log_parse_many start
  exact ⟨rounds, last, progress, stops, run, announcedRun, sameLog, sameAnnouncedLog⟩

/-! ## How many calls there are -/

/-- The reports of a repetition are details of its run. -/
theorem exists_reports_of_closing
    (values : List α) (last : Cursor) (ending : Ending (Reply α)) :
    ∃ reports : List Event,
      (closing values last ending : Run ν (Reply (List α))).log = reports.map .event ∧
        ∀ report ∈ reports, report.level = .trace := by
  have finished :
      ∀ report ∈ [Event.repetitionFinished values.length], report.level = .trace := by
    simp [Event.level]
  have stopped :
      ∀ report ∈
        [Event.noProgress (values.length + 1), Event.repetitionFinished (values.length + 1)],
        report.level = .trace := by
    simp [Event.level]
  rcases ending with (⟨value, rest⟩ | message) | message | _
  · exact ⟨_, rfl, stopped⟩
  · cases values with
    | nil => exact ⟨[], rfl, by simp⟩
    | cons first others => exact ⟨_, rfl, finished⟩
  · exact ⟨[], rfl, by simp⟩
  · exact ⟨[], rfl, by simp⟩

/-- If the last call answers, the values are those of the rounds and its own, if it has one. -/
theorem exists_values_of_done
    {rounds : List (Round α)} {reply : Reply α}
    (progress : parser.Progress start rounds last) (stops : parser.StopsAt last)
    (ending : (parser.parse last).ending = .done reply) :
    ∃ final : Option α,
      (∀ value, final = some value → ∃ rest, reply = .success value rest) ∧
      (∃ rest,
        (parser.many.parse start).ending =
          .done (.success (rounds.map Round.value ++ final.toList) rest)) ∧
      ((∃ rest,
          (parser.some.parse start).ending =
            .done (.success (rounds.map Round.value ++ final.toList) rest)) ∨
        rounds.map Round.value ++ final.toList = [] ∧
          ∃ message, (parser.some.parse start).ending = .done (.failure message)) := by
  have someEnding :
      (parser.some.parse start).ending =
        (closing (ν := ν) (rounds.map Round.value) last (.done reply)).ending := by
    rw [parse_some_of_progress progress stops, ending]
    rfl
  rw [ending_parse_many, someEnding]
  cases reply with
  | success value rest =>
      refine ⟨some value, ?_, ⟨rest, rfl⟩, .inl ⟨rest, rfl⟩⟩
      intro given same
      obtain rfl : value = given := by simpa using same
      exact ⟨rest, rfl⟩
  | failure message =>
      refine ⟨none, by simp, ?_⟩
      cases rounds with
      | nil => exact ⟨⟨start, rfl⟩, .inr ⟨rfl, message, rfl⟩⟩
      | cons round others => simp [closing, Ending.bind]

/-- A repetition of a parser that always answers comes to an end, wherever the successes of the
parser lead. It calls the parser at most once more than there are bytes left at the start, and the
value at each index comes from the call at that index; of the calls that give values all but the
last shorten the text. -/
theorem bounded_of_answers
    {answer : Cursor → Reply α}
    (answers : ∀ cursor, (parser.parse cursor).ending = .done (answer cursor))
    (start : Cursor) :
    ∃ (places : List Cursor) (values : List α),
      places.length ≤ start.bytesLeft + 1 ∧
      values.length ≤ start.bytesLeft + 1 ∧
      (∀ mark : Cursor → ν,
        ∃ reports : List Event,
          ((parser.announced mark).some.parse start).log =
            places.flatMap (fun place => .note (mark place) :: (parser.parse place).log) ++
              reports.map .event ∧
          ((parser.announced mark).many.parse start).log =
            ((parser.announced mark).some.parse start).log) ∧
      (∃ rest, (parser.many.parse start).ending = .done (.success values rest)) ∧
      ((∃ rest, (parser.some.parse start).ending = .done (.success values rest)) ∨
        values = [] ∧ ∃ message, (parser.some.parse start).ending = .done (.failure message)) ∧
      ∀ index value, values[index]? = some value →
        ∃ place rest,
          places[index]? = some place ∧
            answer place = .success value rest ∧
            (index + 1 < values.length → rest.bytesLeft < place.bytesLeft) := by
  obtain ⟨rounds, last, progress, stops⟩ := parser.exists_progress start
  have lastEnding := answers last
  obtain ⟨final, finalAnswered, manyEnds, someEnds⟩ :=
    exists_values_of_done progress stops lastEnding
  have roundsBounded : rounds.length + last.bytesLeft ≤ start.bytesLeft :=
    progress.length_add_bytesLeft_le
  have finalBounded : final.toList.length ≤ 1 := by
    cases final <;> simp
  have lastCall :
      ∀ value, final = some value →
        ∃ rest, (parser.parse last).ending = .done (.success value rest) := by
    intro value given
    obtain ⟨rest, answered⟩ := finalAnswered value given
    rw [answered] at lastEnding
    exact ⟨rest, lastEnding⟩
  refine ⟨rounds.map Round.place ++ [last], rounds.map Round.value ++ final.toList,
    ?_, ?_, ?_, manyEnds, someEnds, ?_⟩
  · simp only [List.length_append, List.length_map, List.length_singleton]
    omega
  · simp only [List.length_append, List.length_map]
    omega
  · intro mark
    obtain ⟨reports, reportsEq, _⟩ :=
      exists_reports_of_closing (ν := ν) (rounds.map Round.value) last (.done (answer last))
    refine ⟨reports, ?_, (parser.announced mark).log_parse_many start⟩
    rw [parse_some_announced progress stops, lastEnding, ← reportsEq]
    rfl
  · intro index value found
    obtain ⟨place, rest, called, ending, fewer⟩ :=
      progress.exists_call lastCall index value found
    rw [answers place] at ending
    refine ⟨place, rest, called, by simpa using ending, ?_⟩
    intro notLast
    apply fewer
    simp only [List.length_append, List.length_map] at notLast
    omega

/-- The next letter, but behind a stop goes the start of another text. -/
def leap (cursor : Cursor) : Reply Char :=
  match cursor.next? with
  | some (letter, rest) =>
      if letter = '.' then .success letter (Cursor.ofText "another text") else .success letter rest
  | none => .failure noInput

theorem bounded_of_answers_leap :
    (∀ cursor, ((ofReply leap : Parser Cursor Char).parse cursor).ending = .done (leap cursor)) ∧
    ∃ (places : List Cursor) (values : List Char),
      places.length ≤ 5 ∧
      values.length ≤ 5 ∧
      (∃ rest,
        ((ofReply leap : Parser Cursor Char).many.parse (Cursor.ofText "é.x")).ending =
          .done (.success values rest)) ∧
      ∀ index value, values[index]? = some value →
        ∃ place rest,
          places[index]? = some place ∧
            leap place = .success value rest ∧
            (index + 1 < values.length → rest.bytesLeft < place.bytesLeft) := by
  have answers (cursor : Cursor) :
      ((ofReply leap : Parser Cursor Char).parse cursor).ending = .done (leap cursor) :=
    rfl
  have bytes : (Cursor.ofText "é.x").bytesLeft = 4 := by
    decide
  obtain ⟨places, values, fewPlaces, fewValues, _, manyEnds, _, explained⟩ :=
    bounded_of_answers answers (Cursor.ofText "é.x")
  rw [bytes] at fewPlaces fewValues
  exact ⟨answers, places, values, fewPlaces, fewValues, manyEnds, explained⟩

end Parser

end ParserAlgebra
