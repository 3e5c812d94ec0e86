import ParserAlgebra.Proofs.Repetition
import ParserAlgebra.Proofs.Watching

/-!
# The last complaint

A failure may be given up for another alternative, may end a repetition, or may be passed on. In
each case the message with which a parser fails in the end is the one that was complained about
last. A run with this property keeps it under every operation: what comes after an earlier failure
either succeeds, or fails with a later complaint of its own.
-/

namespace ParserAlgebra

variable {ν α β : Type}

/-- If the run fails, it does so with the message of its last complaint. -/
def Run.BlamesLast (run : Run (ν ⊕ Complaint) (Reply α)) : Prop :=
  ∀ message, run.ending = .done (.failure message) →
    ∃ origin, run.complaints.getLast? = some ⟨origin, message⟩

namespace Run.BlamesLast

theorem success (value : α) (rest : Cursor) :
    BlamesLast (pure (.success value rest) : Run (ν ⊕ Complaint) (Reply α)) := by
  intro message fails
  cases fails

theorem of_next
    {run : Run (ν ⊕ Complaint) α} {next : α → Run (ν ⊕ Complaint) (Reply β)}
    (blames : ∀ value, run.ending = .done value → (next value).BlamesLast) :
    BlamesLast (run >>= next) := by
  intro message fails
  rw [ending_bind] at fails
  obtain ⟨value, ending, failsNext⟩ := Ending.exists_of_bind_eq_done fails
  obtain ⟨origin, last⟩ := blames value ending message failsNext
  rw [complaints_bind_of_done ending, List.getLast?_append, last]
  exact ⟨origin, rfl⟩

theorem passOn
    {run : Run (ν ⊕ Complaint) (Reply α)} {next : Reply α → Run (ν ⊕ Complaint) (Reply β)}
    (blames : run.BlamesLast)
    (passes : ∀ message, next (.failure message) = pure (.failure message))
    (successes : ∀ value rest, (next (.success value rest)).BlamesLast) :
    BlamesLast (run >>= next) := by
  intro message fails
  rw [ending_bind] at fails
  obtain ⟨reply, ending, failsNext⟩ := Ending.exists_of_bind_eq_done fails
  rw [complaints_bind_of_done ending]
  cases reply with
  | success value rest =>
      obtain ⟨origin, last⟩ := successes value rest message failsNext
      rw [List.getLast?_append, last]
      exact ⟨origin, rfl⟩
  | failure earlier =>
      -- The failure was complained about in the run, and nothing has been written since.
      rw [passes] at failsNext ⊢
      cases failsNext
      obtain ⟨origin, last⟩ := blames message ending
      have nothingLater :
          (pure (.failure message) : Run (ν ⊕ Complaint) (Reply β)).complaints = [] := rfl
      rw [nothingLater, List.append_nil]
      exact ⟨origin, last⟩

end Run.BlamesLast

namespace Parser

/-- If the parser fails, it does so with the message of its last complaint. -/
def BlamesLast (parser : Parser (ν ⊕ Complaint) α) : Prop :=
  ∀ cursor, (parser.parse cursor).BlamesLast

theorem blamesLast_watch (origin : Origin) (parser : Parser (ν ⊕ Complaint) α) :
    (parser.watch origin).BlamesLast := by
  intro cursor
  apply Run.BlamesLast.of_next
  rintro (⟨value, rest⟩ | message) _
  · exact .success value rest
  · intro _ fails
    cases fails
    exact ⟨origin, rfl⟩

theorem blamesLast_rounds
    (parser : Parser (ν ⊕ Complaint) α) (values : List α) (cursor : Cursor) :
    (parser.rounds ⟨values, cursor⟩).BlamesLast := by
  intro message fails
  rw [ending_rounds] at fails
  obtain ⟨found, _, succeeds⟩ := Ending.exists_of_bind_eq_done fails
  cases succeeds

namespace BlamesLast

variable {parser : Parser (ν ⊕ Complaint) α}

theorem valueOf (value : α) : (Parser.valueOf value : Parser (ν ⊕ Complaint) α).BlamesLast :=
  fun cursor => Run.BlamesLast.success value cursor

theorem mapM (blames : parser.BlamesLast) (mapper : α → Run (ν ⊕ Complaint) β) :
    (parser.mapM mapper).BlamesLast := by
  intro cursor
  apply Run.BlamesLast.passOn (blames cursor)
  · exact fun _ => rfl
  · intro value rest
    apply Run.BlamesLast.of_next
    intro image _
    exact .success image rest

theorem flatMapM
    {next : α → Run (ν ⊕ Complaint) (Parser (ν ⊕ Complaint) β)}
    (blames : parser.BlamesLast)
    (nexts : ∀ value following, (next value).ending = .done following → following.BlamesLast) :
    (parser.flatMapM next).BlamesLast := by
  intro cursor
  apply Run.BlamesLast.passOn (blames cursor)
  · exact fun _ => rfl
  · intro value rest
    apply Run.BlamesLast.of_next
    intro following ending
    exact nexts value following ending rest

theorem applyM
    {functions : Parser (ν ⊕ Complaint) (α → Run (ν ⊕ Complaint) β)}
    (blames : parser.BlamesLast) (functionsBlame : functions.BlamesLast) :
    (parser.applyM functions).BlamesLast := by
  intro cursor
  apply Run.BlamesLast.passOn (functionsBlame cursor)
  · exact fun _ => rfl
  · intro function rest
    exact blames.mapM function rest

theorem orElse
    {first second : Parser (ν ⊕ Complaint) α} (blames : second.BlamesLast) :
    (first.orElse second).BlamesLast := by
  intro cursor
  apply Run.BlamesLast.of_next
  rintro (⟨value, rest⟩ | message) _
  · exact .success value rest
  · exact blames cursor

theorem some (blames : parser.BlamesLast) : parser.some.BlamesLast := by
  intro cursor
  rw [parse_some]
  apply Run.BlamesLast.passOn (blames cursor)
  · exact fun _ => rfl
  · intro value rest
    by_cases fewer : cursor.Consumed rest
    · simp only [if_pos fewer]
      exact parser.blamesLast_rounds [value] rest
    · simp only [if_neg fewer]
      intro message fails
      cases fails

theorem many (parser : Parser (ν ⊕ Complaint) α) : parser.many.BlamesLast :=
  -- The second alternative is the empty list, which does not fail.
  (BlamesLast.valueOf []).orElse

theorem lazyM
    {factory : Unit → Run (ν ⊕ Complaint) (Parser (ν ⊕ Complaint) α)}
    (built : ∀ parser, (factory ()).ending = .done parser → parser.BlamesLast) :
    (Parser.lazyM factory).BlamesLast := by
  intro cursor
  apply Run.BlamesLast.of_next
  intro parser ending
  exact built parser ending cursor

end BlamesLast

private theorem eq_of_ending_effect
    {effect : Run ν Unit} {given following : Parser (ν ⊕ Complaint) α}
    (ending :
      (do effect.lifted; pure given : Run (ν ⊕ Complaint) (Parser (ν ⊕ Complaint) α)).ending =
        .done following) :
    given = following := by
  rw [Run.ending_bind] at ending
  obtain ⟨_, _, same⟩ := Ending.exists_of_bind_eq_done ending
  cases same
  rfl

theorem Watched.blamesLast
    {written : String → Prop} {plain : Parser ν α} {watched : Parser (ν ⊕ Complaint) α}
    (watches : Watched written plain watched) :
    watched.BlamesLast := by
  -- What is watched blames itself; all other operations keep the property.
  induction watches with
  | item => exact blamesLast_watch .item _
  | valueOf value => exact .valueOf value
  | failure _ => exact blamesLast_watch .failure _
  | mapM mapper _ blames => exact blames.mapM _
  | satisfyOrM test _ _ _ => exact blamesLast_watch .test _
  | flatMapM effect _ _ blames nexts =>
      apply blames.flatMapM
      intro value following ending
      rw [← eq_of_ending_effect ending]
      exact nexts value
  | applyM _ _ blames functionsBlame =>
      apply blames.applyM
      exact functionsBlame.mapM _
  | orElse _ _ _ blames => exact blames.orElse
  | many _ _ => exact .many _
  | some _ blames => exact blames.some
  | lazyM effect _ blames =>
      apply BlamesLast.lazyM
      intro parser ending
      rw [← eq_of_ending_effect ending]
      exact blames
  | cutOff =>
      intro cursor message fails
      cases fails

end Parser

/-- A watched parser runs like the plain one besides its complaints, and when the plain parser
fails, its message is that of the last complaint, and one of those that may be told. -/
theorem last_complaint_of_failure
    {written : String → Prop} {plain : Parser ν α} {watched : Parser (ν ⊕ Complaint) α}
    (watches : Parser.Watched written plain watched) (cursor : Cursor) :
    (watched.parse cursor).unwatched = plain.parse cursor ∧
    ∀ message, (plain.parse cursor).ending = .done (.failure message) →
      (∃ origin, (watched.parse cursor).complaints.getLast? = some ⟨origin, message⟩) ∧
        (message = Parser.noInput ∨ message = Parser.predicateNotSatisfied ∨ written message) := by
  have unwatched : (watched.parse cursor).unwatched = plain.parse cursor :=
    watches.unwatched_parse cursor
  refine ⟨unwatched, ?_⟩
  intro message fails
  have watchedFails : (watched.parse cursor).ending = .done (.failure message) := by
    rw [← unwatched] at fails
    exact fails
  exact ⟨watches.blamesLast cursor message watchedFails, watches.told fails⟩

/-- The bracket is followed by nothing, but the last complaint is that it is no digit. -/
theorem last_complaint_of_failure_bracketedDigit :
    ((Parser.recursive (Parser.bracketedDigit (ν := Unit)) 2 ()).parse (Cursor.ofText "(")).ending =
      .done (.failure "digit expected") ∧
    ∃ origin,
      ((Parser.recursive (Parser.bracketedDigitWatched (ν := Unit)) 2 ()).parse
        (Cursor.ofText "(")).complaints.getLast? = some ⟨origin, "digit expected"⟩ := by
  have fails :
      ((Parser.recursive (Parser.bracketedDigit (ν := Unit)) 2 ()).parse
        (Cursor.ofText "(")).ending = .done (.failure "digit expected") := by
    decide +kernel
  have watches := Parser.watched_bracketedDigit (ν := Unit) 2
  have named := last_complaint_of_failure watches (Cursor.ofText "(")
  exact ⟨fails, (named.2 _ fails).1⟩

end ParserAlgebra
