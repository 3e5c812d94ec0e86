import Mathlib.Data.List.TakeWhile
import ParserAlgebra.Proofs.Saturation

/-!
# Spans of letters

A repetition of single letters that pass a test reads the longest stretch of such letters at the
start of what is left. It stops in front of the first letter that is refused, or at the end of the
text, and it moves by the bytes of the stretch. If the stretch is empty, the form of repetition that
wants at least one letter fails, and its message tells the two ways of stopping apart.
-/

namespace ParserAlgebra

namespace Parser

variable {ν : Type} {test : Char → Bool} {message : String} {start rest : Cursor}

/-! ## One letter -/

/-- Why no letter is read at a place where the next one is refused, or there is none. -/
def refusal (message : String) (cursor : Cursor) : String :=
  if cursor.isEmpty then noInput else message

theorem parse_satisfyOr_item
    (test : Char → Bool) (message : String) (cursor : Cursor) :
    (item.satisfyOr test message : Parser ν Char).parse cursor =
      match cursor.next? with
      | some (letter, rest) =>
          pure (if test letter then .success letter rest else .failure message)
      | none => pure (.failure noInput) := by
  rw [parse_satisfyOr, parse_item]
  cases cursor.next? with
  | none => exact pure_bind _ _
  | some found => exact pure_bind _ _

theorem ending_satisfyOr_item_of_accepted
    {letter : Char} (step : start.next? = some (letter, rest)) (accepted : test letter = true) :
    ((item.satisfyOr test message : Parser ν Char).parse start).ending =
      .done (.success letter rest) := by
  rw [parse_satisfyOr_item, step]
  simp [accepted]

theorem ending_satisfyOr_item_of_refused
    (refused : ∀ letter rest, start.next? = some (letter, rest) → test letter = false) :
    ((item.satisfyOr test message : Parser ν Char).parse start).ending =
      .done (.failure (refusal message start)) := by
  have emptiness := start.isEmpty_iff
  rw [← Cursor.next?_eq_none_iff] at emptiness
  rw [parse_satisfyOr_item]
  cases step : start.next? with
  | none =>
      have atEnd : start.isEmpty = true := emptiness.2 step
      simp [refusal, atEnd]
  | some found =>
      obtain ⟨letter, rest⟩ := found
      have notAtEnd : ¬ start.isEmpty = true := by
        intro atEnd
        rw [emptiness.1 atEnd] at step
        cases step
      simp [refusal, notAtEnd, refused letter rest step]

/-! ## The stretch of accepted letters -/

/-- A repetition goes on through the longest stretch of accepted letters, and the parser fails
behind it; induction on the letters that are left. -/
theorem exists_stretch (test : Char → Bool) (message : String) (start : Cursor) :
    ∃ rounds last,
      (item.satisfyOr test message : Parser ν Char).Progress start rounds last ∧
      rounds.map Round.value = start.rest.letters.takeWhile test ∧
      start.Passes (start.rest.letters.takeWhile test) last ∧
      ((item.satisfyOr test message : Parser ν Char).parse last).ending =
        .done (.failure (refusal message last)) := by
  induction left : start.rest.letters generalizing start with
  | nil =>
      have refused :
          ∀ letter rest, start.next? = some (letter, rest) → test letter = false := by
        intro letter rest step
        rw [(Cursor.next?_eq_none_iff start).2 left] at step
        cases step
      have failed :
          ((item.satisfyOr test message : Parser ν Char).parse start).ending =
            .done (.failure (refusal message start)) :=
        ending_satisfyOr_item_of_refused refused
      exact ⟨[], start, .nil start, rfl, .nothing start, failed⟩
  | cons letter suffix inductionHypothesis =>
      obtain ⟨rest, step, restLeft⟩ := Cursor.exists_next? left
      by_cases accepted : test letter = true
      · obtain ⟨rounds, last, progress, values, passes, fails⟩ :=
          inductionHypothesis rest restLeft
        have passesOne : start.Passes [letter] rest := .of_next? step
        have fewer : start.Consumed rest :=
          passesOne.consumed_iff.2 (List.cons_ne_nil letter [])
        have ending :
            ((item.satisfyOr test message : Parser ν Char).parse start).ending =
              .done (.success letter rest) :=
          ending_satisfyOr_item_of_accepted step accepted
        have taken : (letter :: suffix).takeWhile test = letter :: suffix.takeWhile test := by
          simp [accepted]
        rw [taken]
        refine ⟨⟨start, letter⟩ :: rounds, last, .cons ending fewer progress, ?_, ?_, fails⟩
        · rw [List.map_cons, values]
        · exact passesOne.trans passes
      · have refused :
            ∀ other behind, start.next? = some (other, behind) → test other = false := by
          intro other behind otherStep
          rw [step] at otherStep
          cases otherStep
          simpa using accepted
        have taken : (letter :: suffix).takeWhile test = [] := by
          simp [accepted]
        rw [taken]
        have failed :
            ((item.satisfyOr test message : Parser ν Char).parse start).ending =
              .done (.failure (refusal message start)) :=
          ending_satisfyOr_item_of_refused refused
        exact ⟨[], start, .nil start, rfl, .nothing start, failed⟩

/-! ## What is read -/

theorem exists_span (test : Char → Bool) (message : String) (start : Cursor) :
    ∃ rest,
      start.Passes (start.rest.letters.takeWhile test) rest ∧
      ((item.satisfyOr test message : Parser ν Char).many.parse start).ending =
        .done (.success (start.rest.letters.takeWhile test) rest) ∧
      ((item.satisfyOr test message : Parser ν Char).some.parse start).ending =
        .done
          (if start.rest.letters.takeWhile test = [] then .failure (refusal message start)
          else .success (start.rest.letters.takeWhile test) rest) := by
  obtain ⟨rounds, last, progress, values, passes, failed⟩ :=
    exists_stretch (ν := ν) test message start
  have manyEnding := ending_many_of_progress progress (FailsAt.stopsAt ⟨_, failed⟩)
  have someEnding := ending_some_of_failure progress failed
  rw [failed, values] at manyEnding
  rw [values] at someEnding
  refine ⟨last, passes, manyEnding, ?_⟩
  rw [someEnding]
  by_cases nothing : start.rest.letters.takeWhile test = []
  · -- where nothing is read the repetition fails at its own start
    rw [nothing] at passes
    rw [passes.eq_of_nothing]
  · rw [if_neg nothing, if_neg nothing]

/-- Repeating the next letter as long as it passes a test reads the longest stretch of letters that
do, in order, and moves behind them by their bytes. At least one letter is wanted by the second form
of repetition, which fails at the end of the text with the one message and before a letter that is
refused with the other. If every letter passes, all of them are read. -/
theorem span_of_repetition (test : Char → Bool) (message : String) (start : Cursor) :
    (∃ rest : Cursor,
      rest.source = start.source ∧
      rest.text = String.ofList (start.text.toList.dropWhile test) ∧
      rest.offset =
        start.offset + (String.ofList (start.text.toList.takeWhile test)).utf8ByteSize ∧
      ((item.satisfyOr test message : Parser ν Char).many.parse start).ending =
        .done (.success (start.text.toList.takeWhile test) rest) ∧
      ((item.satisfyOr test message : Parser ν Char).some.parse start).ending =
        .done
          (if start.text.toList.takeWhile test = [] then .failure (refusal message start)
          else .success (start.text.toList.takeWhile test) rest)) ∧
    ∃ rest : Cursor,
      rest.source = start.source ∧
      rest.text = "" ∧
      rest.offset = start.source.utf8ByteSize ∧
      ((item.satisfyOr (fun _ => true) message : Parser ν Char).many.parse start).ending =
        .done (.success start.text.toList rest) := by
  have letters : start.text.toList = start.rest.letters := String.toList_ofList
  rw [letters]
  constructor
  · obtain ⟨rest, passes, manyEnding, someEnding⟩ := exists_span (ν := ν) test message start
    have restLetters : rest.rest.letters = start.rest.letters.dropWhile test :=
      passes.rest_eq_of_append List.takeWhile_append_dropWhile.symm
    have restText : rest.text = String.ofList (start.rest.letters.dropWhile test) := by
      rw [Cursor.text, restLetters]
    have restOffset :
        rest.offset =
          start.offset + (String.ofList (start.rest.letters.takeWhile test)).utf8ByteSize := by
      rw [passes.offset_eq, utf8ByteSize_ofList]
    exact ⟨rest, passes.source_eq, restText, restOffset, manyEnding, someEnding⟩
  · obtain ⟨rest, passes, manyEnding, _⟩ := exists_span (ν := ν) (fun _ => true) message start
    have all : start.rest.letters.takeWhile (fun _ => true) = start.rest.letters :=
      List.takeWhile_eq_self_iff.2 fun _ _ => rfl
    rw [all] at passes manyEnding
    have nothingLeft : rest.rest.letters = [] :=
      passes.rest_eq_of_append (List.append_nil _).symm
    have restText : rest.text = "" := by
      rw [Cursor.text, nothingLeft, String.ofList_nil]
    exact ⟨rest, passes.source_eq, restText, passes.offset_eq_of_all, manyEnding⟩

end Parser

end ParserAlgebra
