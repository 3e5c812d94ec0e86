import Mathlib.Logic.Equiv.Defs
import ParserAlgebra.Cut
import ParserAlgebra.Proofs.Passing

/-!
# Cursors as cuts

The letters on both sides of a cursor fix a text and a byte of it, and a text with a byte to cut it
at fixes the letters on both sides. So cursors and cuts are two forms of the same places, and they
show the same, count as equal in the same cases and move in the same steps. What is proved of
cursors is thereby true of a text with an offset, from which both parts are sliced off.
-/

namespace ParserAlgebra

namespace Cursor

variable {ν : Type}

/-- The text of a cursor, cut at the byte that the cursor has come to. -/
def toCut (cursor : Cursor) : Cut :=
  ⟨cursor.source, cursor.offset, cursor.offset_isValid⟩

@[simp]
theorem source_toCut (cursor : Cursor) :
    cursor.toCut.source = cursor.source :=
  rfl

@[simp]
theorem offset_toCut (cursor : Cursor) :
    cursor.toCut.offset = cursor.offset :=
  rfl

/-- The cursor between the letters of the two parts. -/
def ofCut (cut : Cut) : Cursor :=
  ⟨Segment.ofList cut.front.toList.reverse, Segment.ofList cut.text.toList⟩

@[simp]
theorem letters_passed_ofCut (cut : Cut) :
    (ofCut cut).passed.letters = cut.front.toList.reverse := by
  rw [ofCut, Segment.letters_ofList]

@[simp]
theorem letters_rest_ofCut (cut : Cut) :
    (ofCut cut).rest.letters = cut.text.toList := by
  rw [ofCut, Segment.letters_ofList]

/-! ## The two parts -/

theorem splits_toCut (cursor : Cursor) :
    cursor.toCut.pos.Splits (String.ofList cursor.passed.letters.reverse) cursor.text where
  eq_append := cursor.source_eq_append
  offset_eq_rawEndPos := congrArg String.Pos.Raw.mk cursor.offset_eq_utf8ByteSize

@[simp]
theorem front_toCut (cursor : Cursor) :
    cursor.toCut.front = String.ofList cursor.passed.letters.reverse :=
  cursor.toCut.splits.eq_left cursor.splits_toCut

@[simp]
theorem text_toCut (cursor : Cursor) :
    cursor.toCut.text = cursor.text :=
  cursor.toCut.splits.eq_right cursor.splits_toCut

theorem toList_text_toCut (cursor : Cursor) :
    cursor.toCut.text.toList = cursor.rest.letters := by
  rw [text_toCut, text, String.toList_ofList]

theorem ofCut_toCut (cursor : Cursor) :
    ofCut cursor.toCut = cursor := by
  apply Cursor.ext
  · apply Segment.ext
    rw [letters_passed_ofCut, front_toCut, String.toList_ofList, List.reverse_reverse]
  · apply Segment.ext
    rw [letters_rest_ofCut, toList_text_toCut]

theorem toCut_ofCut (cut : Cut) :
    (ofCut cut).toCut = cut := by
  apply Cut.ext
  · rw [source_toCut, source, letters, letters_passed_ofCut, letters_rest_ofCut,
      List.reverse_reverse, ← String.toList_append, String.ofList_toList]
    exact cut.splits.eq_append.symm
  · rw [offset_toCut, offset_eq, letters_passed_ofCut, utf8Length_reverse, ← utf8ByteSize_ofList,
      String.ofList_toList, cut.offset_eq_utf8ByteSize]

/-- Cursors and cuts are the same places. -/
def equivCut : Cursor ≃ Cut where
  toFun := toCut
  invFun := ofCut
  left_inv := ofCut_toCut
  right_inv := toCut_ofCut

/-! ## The starts of texts -/

theorem toCut_ofText (source : String) :
    (ofText source).toCut = Cut.ofText source := by
  apply Cut.ext
  · exact String.ofList_toList
  · rfl

theorem toCut_empty :
    empty.toCut = Cut.empty := by
  rw [empty, toCut_ofText, Cut.empty]

theorem toCut_ofText? (source : Option String) :
    (ofText? source).toCut = Cut.ofText? source := by
  cases source with
  | some text => exact toCut_ofText text
  | none => exact toCut_empty

/-! ## What is shown -/

theorem isEmpty_iff_offset (cursor : Cursor) :
    cursor.isEmpty = true ↔ cursor.source.utf8ByteSize ≤ cursor.offset := by
  have sizes : cursor.source.utf8ByteSize = cursor.offset + cursor.bytesLeft :=
    cursor.utf8ByteSize_source
  have emptiness : cursor.isEmpty = true ↔ cursor.bytesLeft = 0 := by
    simp [isEmpty]
  rw [emptiness]
  omega

@[simp]
theorem isEmpty_toCut (cursor : Cursor) :
    cursor.toCut.isEmpty = cursor.isEmpty := by
  rw [Bool.eq_iff_iff, isEmpty_iff_offset]
  exact decide_eq_true_iff

@[simp]
theorem length_toCut (cursor : Cursor) :
    cursor.toCut.length = cursor.length := by
  rw [Cut.length, text_toCut, text, String.length_ofList]
  rfl

@[simp]
theorem location_toCut (cursor : Cursor) :
    cursor.toCut.location = cursor.location := by
  rw [Cut.location, front_toCut, String.toList_ofList]
  rfl

@[simp]
theorem describe_toCut (cursor : Cursor) :
    cursor.toCut.describe = cursor.describe :=
  rfl

@[simp]
theorem beq_toCut (left right : Cursor) :
    (left.toCut == right.toCut) = (left == right) := by
  rw [Bool.eq_iff_iff, beq_iff]
  change (left.toCut.text == right.toCut.text) = true ↔ _
  rw [text_toCut, text_toCut, beq_iff_eq, text, text, String.ofList_inj]

@[simp]
theorem hash_toCut (cursor : Cursor) :
    hash cursor.toCut = hash cursor := by
  change hash cursor.toCut.text = hash cursor.text
  rw [text_toCut]

@[simp]
theorem consumed_toCut (before after : Cursor) :
    before.toCut.Consumed after.toCut ↔ before.Consumed after := by
  rw [Cut.Consumed, text_toCut, text_toCut, utf8ByteSize_text, utf8ByteSize_text]

/-! ## Moving -/

@[simp]
theorem head_toCut (cursor : Cursor) :
    (cursor.toCut.head : Run ν Char) = cursor.head := by
  unfold Cut.head head
  rw [toList_text_toCut]
  cases left : cursor.rest.letters with
  | nil =>
      rw [(next?_eq_none_iff cursor).2 left]
  | cons letter suffix =>
      obtain ⟨behind, moved, _⟩ := exists_next? left
      rw [moved]

@[simp]
theorem tail_toCut (cursor : Cursor) :
    (cursor.toCut.tail : Run ν Cut) = toCut <$> cursor.tail := by
  unfold Cut.tail tail
  split
  case h_1 letter suffix left =>
    rw [toList_text_toCut] at left
    obtain ⟨behind, moved, _⟩ := exists_next? left
    have passes : cursor.Passes [letter] behind := .of_next? moved
    rw [moved, map_pure]
    -- A text and an offset determine the cut, however it was shown to be one.
    apply congrArg pure
    apply Cut.ext
    · exact passes.source_eq.symm
    · exact passes.offset_eq.symm
  case h_2 left =>
    rw [toList_text_toCut] at left
    rw [(next?_eq_none_iff cursor).2 left]
    rfl

/-- Any number of steps leads to the same place in both forms, or is given up in both. -/
theorem advance_toCut (cursor : Cursor) (count : Nat) :
    (cursor.toCut.advance count : Run ν Cut) = toCut <$> cursor.advance count := by
  induction count generalizing cursor with
  | zero => rw [Cut.advance, advance, map_pure]
  | succ count inductionHypothesis =>
      rw [Cut.advance, advance, tail_toCut, bind_map_left, map_bind]
      simp only [inductionHypothesis]

end Cursor

end ParserAlgebra
