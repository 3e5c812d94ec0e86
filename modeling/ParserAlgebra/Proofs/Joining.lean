import ParserAlgebra.Proofs.Reaching

/-!
# Locations in joined texts

A location that is told from the middle of a text can be told from its start. Lines and positions
add up, but a line that begins behind the middle begins where it did before, so that the letters in
front of the middle count only for places on the line of the middle itself. `Location.onward` puts
the two tellings together, and the locations behind joined letters are put together by it.
-/

namespace ParserAlgebra

namespace Location

variable {front inner : Location}

/-- The place that the second location tells if its letters are counted from the first on. -/
def onward (front inner : Location) : Location where
  line := front.line + inner.line - 1
  lineOffset :=
    if inner.line = 1 then
      front.lineOffset + inner.lineOffset
    else
      inner.lineOffset
  position := front.position + inner.position

theorem onward_start (front : Location) : front.onward start = front :=
  rfl

/-- One more letter moves the inner place and the place put together in the same way. -/
theorem onward_step (onLine : 1 ≤ inner.line) (letter : Char) :
    front.onward (inner.step letter) = (front.onward inner).step letter := by
  by_cases feed : letter = '\n'
  · have laterLine : ¬ inner.line + 1 = 1 := by omega
    have lines : front.line + (inner.line + 1) - 1 = front.line + inner.line - 1 + 1 := by omega
    simp only [onward, step, if_pos feed, if_neg laterLine, lines, Nat.add_assoc]
  · by_cases firstLine : inner.line = 1
    · simp only [onward, step, if_neg feed, if_pos firstLine, Nat.add_assoc]
    · simp only [onward, step, if_neg feed, if_neg firstLine, Nat.add_assoc]

theorem one_le_line_after (letters : List Char) : 1 ≤ (after letters).line := by
  rw [(isBehind_after letters).line_eq]
  exact Nat.le_add_right 1 _

/-- Induction at the end of the second letters, where the pass over them goes on. -/
theorem after_append (initial letters : List Char) :
    after (initial ++ letters) = (after initial).onward (after letters) := by
  induction letters using List.reverseRecOn with
  | nil =>
      rw [List.append_nil, after_nil, onward_start]
  | append_singleton letters letter inductionHypothesis =>
      have onLine : 1 ≤ (after letters).line := one_le_line_after letters
      rw [← List.append_assoc, after_append_singleton, after_append_singleton, onward_step onLine,
        inductionHypothesis]

end Location

namespace Cursor

variable {ν : Type}

/-- What is passed and what is left where two texts are joined. -/
theorem exists_advance_ofText (initial final : String) :
    ∃ behind,
      ((ofText (initial ++ final)).advance initial.length : Run ν Cursor) = pure behind ∧
        behind.text = final ∧
        behind.location = Location.after initial.toList := by
  have within : 0 + initial.length ≤ (initial ++ final).length := by
    simp
  obtain ⟨behind, advanced, stands⟩ :=
    (isAt_ofText (initial ++ final)).exists_advance (ν := ν) initial.length within
  have letters : (initial ++ final).toList = initial.toList ++ final.toList := by
    simp
  have count : 0 + initial.length = initial.toList.length := by
    rw [String.length_toList, Nat.zero_add]
  refine ⟨behind, advanced, ?_, ?_⟩
  · rw [text, stands.rest_eq, letters, count, List.drop_left, String.ofList_toList]
  · rw [location, stands.reverse_eq, letters, count, List.take_left]

/-- A location that is told from where a first text ends is put together with the location of that
end to the location in the whole text, whatever the two texts are and whatever follows them. It is
the one that is counted from all letters of both. -/
theorem location_of_joined_texts (initial middle final : String) :
    ∃ front inner whole : Cursor,
      ((ofText (initial ++ middle ++ final)).advance initial.length : Run ν Cursor) = pure front ∧
      ((ofText (middle ++ final)).advance middle.length : Run ν Cursor) = pure inner ∧
      ((ofText (initial ++ middle ++ final)).advance (initial ++ middle).length : Run ν Cursor) =
        pure whole ∧
      front.text = middle ++ final ∧
      inner.text = final ∧
      whole.text = final ∧
      whole.location = front.location.onward inner.location ∧
      Location.IsBehind (initial ++ middle).toList whole.location := by
  obtain ⟨front, frontAdvanced, frontText, frontLocation⟩ :=
    exists_advance_ofText (ν := ν) initial (middle ++ final)
  obtain ⟨inner, innerAdvanced, innerText, innerLocation⟩ :=
    exists_advance_ofText (ν := ν) middle final
  obtain ⟨whole, wholeAdvanced, wholeText, wholeLocation⟩ :=
    exists_advance_ofText (ν := ν) (initial ++ middle) final
  rw [← String.append_assoc] at frontAdvanced
  have joined : whole.location = front.location.onward inner.location := by
    rw [wholeLocation, frontLocation, innerLocation, String.toList_append, Location.after_append]
  have behind : Location.IsBehind (initial ++ middle).toList whole.location :=
    (Location.isBehind_iff _ _).2 wholeLocation
  exact ⟨front, inner, whole, frontAdvanced, innerAdvanced, wholeAdvanced, frontText, innerText,
    wholeText, joined, behind⟩

end Cursor

end ParserAlgebra
