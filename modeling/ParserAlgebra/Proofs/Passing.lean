import ParserAlgebra.Cursor

/-!
# Passing letters

A parser that consumes text moves its cursor past some letters and leaves the rest of the
cursor's text as it was. `Cursor.Passes cursor letters rest` says that `rest` is reached from
`cursor` in this way. The letters fix everything that can be asked about the two places: they lie
in the same text, their offsets differ by the bytes of the letters, and fewer bytes are left
exactly when there is a letter among them.
-/

namespace ParserAlgebra

theorem utf8ByteSize_ofList (letters : List Char) :
    (String.ofList letters).utf8ByteSize = utf8Length letters := by
  induction letters with
  | nil =>
      rfl
  | cons letter suffix inductionHypothesis =>
      have split :
          String.ofList (letter :: suffix) =
            String.singleton letter ++ String.ofList suffix := by
        rw [String.singleton_eq_ofList, ← String.ofList_append]
        rfl
      rw [split, String.utf8ByteSize_append, String.utf8ByteSize_singleton,
        inductionHypothesis, utf8Length_cons]

namespace Cursor

/-! ## Places in their texts -/

theorem offset_eq (cursor : Cursor) :
    cursor.offset = utf8Length cursor.passed.letters :=
  cursor.passed.bytes_eq

theorem bytesLeft_eq (cursor : Cursor) :
    cursor.bytesLeft = utf8Length cursor.rest.letters :=
  cursor.rest.bytes_eq

theorem isEmpty_iff_text (cursor : Cursor) :
    cursor.isEmpty = true ↔ cursor.text = "" := by
  rw [isEmpty_iff, text, String.ofList_eq_empty_iff]

/-- The offset splits the text into what has been passed and what is left. -/
theorem source_eq_append (cursor : Cursor) :
    cursor.source =
      String.ofList cursor.passed.letters.reverse ++ cursor.text := by
  rw [source, text, letters, String.ofList_append]

theorem offset_eq_utf8ByteSize (cursor : Cursor) :
    cursor.offset =
      (String.ofList cursor.passed.letters.reverse).utf8ByteSize := by
  rw [utf8ByteSize_ofList, utf8Length_reverse, offset_eq]

theorem offset_isValid (cursor : Cursor) :
    (⟨cursor.offset⟩ : String.Pos.Raw).IsValid cursor.source := by
  rw [String.Pos.Raw.isValid_iff_exists_append]
  have initialEnd :
      (⟨cursor.offset⟩ : String.Pos.Raw) =
        (String.ofList cursor.passed.letters.reverse).rawEndPos := by
    rw [offset_eq_utf8ByteSize]
    rfl
  exact ⟨_, _, cursor.source_eq_append, initialEnd⟩

theorem utf8ByteSize_text (cursor : Cursor) :
    cursor.text.utf8ByteSize = cursor.bytesLeft := by
  rw [text, utf8ByteSize_ofList, bytesLeft_eq]

theorem utf8ByteSize_source (cursor : Cursor) :
    cursor.source.utf8ByteSize = cursor.offset + cursor.bytesLeft := by
  rw [source_eq_append, String.utf8ByteSize_append, ← offset_eq_utf8ByteSize, utf8ByteSize_text]

theorem offset_le_utf8ByteSize (cursor : Cursor) :
    cursor.offset ≤ cursor.source.utf8ByteSize := by
  have sizes : cursor.source.utf8ByteSize = cursor.offset + cursor.bytesLeft :=
    cursor.utf8ByteSize_source
  omega

/-- The first of the letters that are left is the next one. -/
theorem exists_next?
    {cursor : Cursor} {letter : Char} {suffix : List Char}
    (left : cursor.rest.letters = letter :: suffix) :
    ∃ behind, cursor.next? = some (letter, behind) ∧ behind.rest.letters = suffix := by
  cases step : cursor.next? with
  | none =>
      rw [next?_eq_none_iff, left] at step
      cases step
  | some found =>
      obtain ⟨first, behind⟩ := found
      have moved : cursor.rest.letters = first :: behind.rest.letters :=
        ((next?_eq_some_iff cursor behind first).1 step).1
      rw [left] at moved
      injection moved with sameLetter sameSuffix
      subst sameLetter
      exact ⟨behind, rfl, sameSuffix.symm⟩

/-! ## From one place to a later one -/

/-- The second place is reached from the first by passing the letters between them. -/
structure Passes (cursor : Cursor) (letters : List Char) (rest : Cursor) : Prop where
  left_eq : cursor.rest.letters = letters ++ rest.rest.letters
  passed_eq : rest.passed.letters = letters.reverse ++ cursor.passed.letters

/-- What may be left of the text behind a place: the same text from a later place on, where as
many letters of what was left have been dropped, and where bytes tell whether any has been. -/
structure Remainder (start rest : Cursor) : Prop where
  source_eq : rest.source = start.source
  offset_le : start.offset ≤ rest.offset
  offset_le_utf8ByteSize : rest.offset ≤ start.source.utf8ByteSize
  offset_isValid : (⟨rest.offset⟩ : String.Pos.Raw).IsValid start.source
  dropped :
    ∃ count ≤ start.length,
      rest.text = String.ofList (start.text.toList.drop count) ∧
        (start.Consumed rest ↔ 0 < count)

namespace Passes

variable {start middle stop : Cursor} {letters later : List Char}

theorem nothing (cursor : Cursor) :
    cursor.Passes [] cursor :=
  ⟨rfl, rfl⟩

theorem of_next?
    {letter : Char} (moved : start.next? = some (letter, stop)) :
    start.Passes [letter] stop := by
  rw [next?_eq_some_iff] at moved
  exact ⟨moved.1, moved.2⟩

theorem trans
    (first : start.Passes letters middle) (second : middle.Passes later stop) :
    start.Passes (letters ++ later) stop := by
  constructor
  · rw [first.left_eq, second.left_eq, List.append_assoc]
  · rw [second.passed_eq, first.passed_eq, List.reverse_append, List.append_assoc]

theorem source_eq (passes : start.Passes letters stop) :
    stop.source = start.source := by
  rw [source, source, Cursor.letters, Cursor.letters, passes.left_eq, passes.passed_eq]
  simp only [List.reverse_append, List.reverse_reverse, List.append_assoc]

theorem offset_eq (passes : start.Passes letters stop) :
    stop.offset = start.offset + utf8Length letters := by
  rw [Cursor.offset_eq, Cursor.offset_eq, passes.passed_eq, utf8Length_append,
    utf8Length_reverse, Nat.add_comm]

theorem bytesLeft_eq (passes : start.Passes letters stop) :
    start.bytesLeft = utf8Length letters + stop.bytesLeft := by
  rw [Cursor.bytesLeft_eq, Cursor.bytesLeft_eq, passes.left_eq, utf8Length_append]

/-- What is left afterwards is what was left before without as many letters. -/
theorem text_eq (passes : start.Passes letters stop) :
    stop.text = String.ofList (start.text.toList.drop letters.length) := by
  rw [text, text, String.toList_ofList, passes.left_eq, List.drop_left]

/-- What was left before is the letters and then what is left afterwards. -/
theorem text_eq_append (passes : start.Passes letters stop) :
    start.text = String.ofList letters ++ stop.text := by
  rw [text, text, passes.left_eq, String.ofList_append]

theorem length_le (passes : start.Passes letters stop) :
    letters.length ≤ start.length := by
  have lengths : start.length = letters.length + stop.length := by
    rw [length, passes.left_eq, List.length_append, length]
  omega

/-- Bytes tell apart whether a letter has been passed. -/
theorem consumed_iff (passes : start.Passes letters stop) :
    start.Consumed stop ↔ letters ≠ [] := by
  have difference : start.bytesLeft = utf8Length letters + stop.bytesLeft :=
    passes.bytesLeft_eq
  have noBytes : utf8Length letters = 0 ↔ letters = [] :=
    utf8Length_eq_zero_iff letters
  constructor
  · rintro fewer rfl
    rw [utf8Length_nil] at difference
    omega
  · intro someLetter
    have someByte : utf8Length letters ≠ 0 := fun zero => someLetter (noBytes.1 zero)
    omega

theorem remainder (passes : start.Passes letters stop) :
    start.Remainder stop where
  source_eq := passes.source_eq
  offset_le := by
    have further : stop.offset = start.offset + utf8Length letters := passes.offset_eq
    omega
  offset_le_utf8ByteSize := by
    rw [← passes.source_eq]
    exact stop.offset_le_utf8ByteSize
  offset_isValid := by
    rw [← passes.source_eq]
    exact stop.offset_isValid
  dropped := by
    have consumedIff : start.Consumed stop ↔ 0 < letters.length := by
      rw [passes.consumed_iff, List.length_pos_iff]
    exact ⟨letters.length, passes.length_le, passes.text_eq, consumedIff⟩

/-- The places leave no choice of the letters between them. -/
theorem letters_unique
    (passes : start.Passes letters stop) (otherPasses : start.Passes later stop) :
    later = letters := by
  have sameAppended :
      later ++ stop.rest.letters = letters ++ stop.rest.letters := by
    rw [← otherPasses.left_eq, passes.left_eq]
  exact List.append_cancel_right sameAppended

/-- What is left is what stood behind the passed letters. -/
theorem rest_eq_of_append
    (passes : start.Passes letters stop) (split : start.rest.letters = letters ++ later) :
    stop.rest.letters = later := by
  rw [passes.left_eq] at split
  exact List.append_cancel_left split

/-- The same letters lead from places with the same rest to places with the same rest. -/
theorem rest_eq_of_rest_eq
    {otherStart otherStop : Cursor}
    (passes : start.Passes letters stop)
    (otherPasses : otherStart.Passes letters otherStop)
    (same : start.rest.letters = otherStart.rest.letters) :
    stop.rest.letters = otherStop.rest.letters := by
  apply passes.rest_eq_of_append
  rw [same, otherPasses.left_eq]

theorem eq_of_nothing (passes : start.Passes [] stop) : stop = start := by
  apply Cursor.ext
  · apply Segment.ext
    simpa using passes.passed_eq
  · apply Segment.ext
    simpa using passes.left_eq.symm

/-- With everything passed that was left, the end of the text is reached. -/
theorem offset_eq_of_all (passes : start.Passes start.rest.letters stop) :
    stop.offset = start.source.utf8ByteSize := by
  have nothingLeft : stop.rest.letters = [] :=
    passes.rest_eq_of_append (List.append_nil _).symm
  have noBytesLeft : stop.bytesLeft = 0 := by
    rw [Cursor.bytesLeft_eq, nothingLeft, utf8Length_nil]
  have sizes : start.source.utf8ByteSize = stop.offset + stop.bytesLeft := by
    rw [← passes.source_eq, utf8ByteSize_source]
  omega

end Passes

end Cursor

end ParserAlgebra
