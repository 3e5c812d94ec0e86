import ParserAlgebra.ParseError
import ParserAlgebra.Proofs.Delimiting

/-!
# The texts of errors

An error can be told from its text alone. The first letter says which of the two errors it is. A
message is all that follows the fixed words; a location and a rest are written so that it shows
where each of them ends, whatever letters are in the rest and whichever of them are hidden.
-/

namespace ParserAlgebra

open Text

/-! ## Locations -/

theorem selfDelimiting_decimal
    (initial : List Char) {stop : Char} (noDigit : ∀ digit, Nat.digitChar digit ≠ stop) :
    SelfDelimiting fun number => initial ++ (Nat.toDigits 10 number ++ [stop]) :=
  (SelfDelimiting.number (by decide) (by decide) noDigit).behind initial

/-- Each of the three numbers is ended by the letter with which the words behind it begin. -/
theorem Location.selfDelimiting_text :
    SelfDelimiting fun location : Location => location.text.toList := by
  have line := selfDelimiting_decimal "line ".toList fun _ => Nat.digitChar_ne ',' rfl
  have lineOffset := selfDelimiting_decimal " offset ".toList fun _ => Nat.digitChar_ne ' ' rfl
  have position :=
    selfDelimiting_decimal "(absolute position: ".toList fun _ => Nat.digitChar_ne ')' rfl
  have injective :
      Function.Injective fun location : Location =>
        (location.line, location.lineOffset, location.position) := by
    rintro ⟨⟩ ⟨⟩ same
    simpa using same
  have written := (line.pair (lineOffset.pair position)).comp injective
  have form (location : Location) :
      location.text.toList =
        "line ".toList ++ (Nat.toDigits 10 location.line ++ [',']) ++
          (" offset ".toList ++ (Nat.toDigits 10 location.lineOffset ++ [' ']) ++
            ("(absolute position: ".toList ++ (Nat.toDigits 10 location.position ++ [')']))) := by
    simp [Location.text]
  simp only [form]
  exact written

/-! ## Errors -/

namespace ParseError

variable {hidden : Char → Bool}

theorem toList_textWith_failed (hidden : Char → Bool) (message : String) :
    ((failed message).textWith hidden).toList = "parse failed: ".toList ++ message.toList :=
  String.toList_append

theorem toList_textWith_trailing (hidden : Char → Bool) (location : Location) (rest : String) :
    ((trailing location rest).textWith hidden).toList =
      "unparsed input at ".toList ++
        (location.text.toList ++ (": ".toList ++ (quoteWith hidden rest).toList)) := by
  change ("unparsed input at " ++ location.text ++ ": " ++ quoteWith hidden rest).toList = _
  rw [String.toList_append, String.toList_append, String.toList_append, List.append_assoc,
    List.append_assoc]

theorem message_eq_of_textWith_eq
    {left right : String}
    (same : (failed left).textWith hidden = (failed right).textWith hidden) :
    left = right := by
  have sameLetters := congrArg String.toList same
  rw [toList_textWith_failed, toList_textWith_failed] at sameLetters
  exact String.toList_injective (List.append_cancel_left sameLetters)

theorem parts_eq_of_textWith_eq
    {left right : Location} {leftRest rightRest : String}
    (same :
      (trailing left leftRest).textWith hidden = (trailing right rightRest).textWith hidden) :
    left = right ∧ leftRest = rightRest := by
  have sameLetters := congrArg String.toList same
  rw [toList_textWith_trailing, toList_textWith_trailing] at sameLetters
  obtain ⟨sameLocation, sameBehind⟩ :=
    Location.selfDelimiting_text left right _ _ (List.append_cancel_left sameLetters)
  have sameQuoted : (quoteWith hidden leftRest).toList = (quoteWith hidden rightRest).toList :=
    List.append_cancel_left sameBehind
  exact ⟨sameLocation, (selfDelimiting_quoteWith hidden).injective sameQuoted⟩

theorem textWith_failed_ne_textWith_trailing
    (message : String) (location : Location) (rest : String) :
    (failed message).textWith hidden ≠ (trailing location rest).textWith hidden := by
  intro same
  have sameFirst := congrArg (fun text => text.toList.head?) same
  simp only [toList_textWith_failed, toList_textWith_trailing] at sameFirst
  exact absurd sameFirst (by simp)

/-- Errors that read the same are the same, whatever letters their messages and rests have and
whichever letters are written by their number. -/
theorem textWith_eq_iff (hidden : Char → Bool) (left right : ParseError) :
    left.textWith hidden = right.textWith hidden ↔ left = right := by
  constructor
  · intro same
    cases left with
    | failed leftMessage =>
        cases right with
        | failed rightMessage => rw [message_eq_of_textWith_eq same]
        | trailing location rest =>
            exact absurd same (textWith_failed_ne_textWith_trailing leftMessage location rest)
    | trailing leftLocation leftRest =>
        cases right with
        | failed message =>
            exact absurd same.symm
              (textWith_failed_ne_textWith_trailing message leftLocation leftRest)
        | trailing rightLocation rightRest =>
            obtain ⟨sameLocation, sameRest⟩ := parts_eq_of_textWith_eq same
            rw [sameLocation, sameRest]
  · rintro rfl
    rfl

end ParseError

end ParserAlgebra
