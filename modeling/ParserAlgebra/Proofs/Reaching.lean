import ParserAlgebra.Proofs.Cuts
import ParserAlgebra.Proofs.Locations

/-!
# Places that are reached step by step

A cursor is made at the start of a text, which may be absent, and moves by one letter at a time. How
often it has moved fixes which letters have been passed and which are left, and with them everything
that it shows: its offset is that of the boundary between these letters, so that the text can be cut
there, and it counts as empty just when no letter is left.
-/

namespace ParserAlgebra

namespace Run

variable {ν α : Type}

theorem pure_eq_pure_iff (left right : α) :
    (pure left : Run ν α) = pure right ↔ left = right := by
  constructor
  · intro equality
    cases equality
    rfl
  · rintro rfl
    rfl

theorem abort_ne_pure (message : String) (value : α) :
    (abort message : Run ν α) ≠ pure value := by
  intro equality
  cases equality

end Run

namespace Cursor

variable {ν : Type} {source : String} {count : Nat} {cursor behind : Cursor} {letter : Char}

/-! ## The letters on both sides -/

/-- So many letters of the text have been passed, and the others are left. -/
structure IsAt (source : String) (count : Nat) (cursor : Cursor) : Prop where
  count_le : count ≤ source.length
  passed_eq : cursor.passed.letters = (source.toList.take count).reverse
  rest_eq : cursor.rest.letters = source.toList.drop count

theorem isAt_ofText (source : String) : (ofText source).IsAt source 0 where
  count_le := Nat.zero_le _
  passed_eq := rfl
  rest_eq := rfl

namespace IsAt

theorem getElem?_eq
    (stands : cursor.IsAt source count) (moved : cursor.next? = some (letter, behind)) :
    source.toList[count]? = some letter := by
  have left : source.toList.drop count = letter :: behind.rest.letters := by
    rw [← stands.rest_eq]
    exact ((next?_eq_some_iff cursor behind letter).1 moved).1
  have first : (source.toList.drop count).head? = some letter := by
    rw [left, List.head?_cons]
  rwa [List.head?_drop] at first

theorem next
    (stands : cursor.IsAt source count) (moved : cursor.next? = some (letter, behind)) :
    behind.IsAt source (count + 1) := by
  have found : source.toList[count]? = some letter := stands.getElem?_eq moved
  rw [next?_eq_some_iff] at moved
  constructor
  · obtain ⟨within, _⟩ := List.getElem?_eq_some_iff.1 found
    rw [String.length_toList] at within
    exact within
  · rw [moved.2, stands.passed_eq, List.take_add_one, found]
    simp
  · have left : source.toList.drop count = letter :: behind.rest.letters := by
      rw [← stands.rest_eq, moved.1]
    rw [← List.drop_drop, left]
    rfl

theorem next?_eq_none_iff (stands : cursor.IsAt source count) :
    cursor.next? = none ↔ count = source.length := by
  have bound : count ≤ source.length := stands.count_le
  rw [Cursor.next?_eq_none_iff, stands.rest_eq, List.drop_eq_nil_iff, String.length_toList]
  omega

theorem exists_next?
    (stands : cursor.IsAt source count) (within : count < source.length) :
    ∃ letter behind, cursor.next? = some (letter, behind) := by
  cases step : cursor.next? with
  | none =>
      have atEnd : count = source.length := stands.next?_eq_none_iff.1 step
      omega
  | some found => exact ⟨found.1, found.2, rfl⟩

theorem reverse_eq (stands : cursor.IsAt source count) :
    cursor.passed.letters.reverse = source.toList.take count := by
  rw [stands.passed_eq, List.reverse_reverse]

theorem source_eq (stands : cursor.IsAt source count) : cursor.source = source := by
  rw [Cursor.source, letters, stands.passed_eq, stands.rest_eq, List.reverse_reverse,
    List.take_append_drop, String.ofList_toList]

/-- The text and the number of letters that have been passed leave no choice of place. -/
theorem unique
    {other : Cursor} (stands : cursor.IsAt source count) (otherStands : other.IsAt source count) :
    cursor = other := by
  apply Cursor.ext
  · apply Segment.ext
    rw [stands.passed_eq, otherStands.passed_eq]
  · apply Segment.ext
    rw [stands.rest_eq, otherStands.rest_eq]

end IsAt

/-! ## What a cursor shows -/

/-- The text can be cut at the offset, and what is left is the part behind the cut. -/
theorem exists_slices (cursor : Cursor) :
    ∃ cut : cursor.source.Pos,
      cut.offset.byteIdx = cursor.offset ∧
      (cursor.source.sliceFrom cut).copy = cursor.text ∧
      (cursor.source.sliceTo cut).copy ++ cursor.text = cursor.source := by
  have joined : cursor.toCut.front ++ cursor.toCut.text = cursor.source :=
    cursor.toCut.splits.eq_append.symm
  rw [text_toCut] at joined
  exact ⟨cursor.toCut.pos, rfl, cursor.text_toCut, joined⟩

theorem head_eq_pure_iff (cursor : Cursor) (letter : Char) :
    (cursor.head : Run ν Char) = pure letter ↔
      ∃ behind, cursor.next? = some (letter, behind) := by
  unfold head
  rcases cursor.next? with _ | ⟨first, rest⟩
  · simp [Run.abort_ne_pure]
  · simp [Run.pure_eq_pure_iff]

theorem tail_eq_pure_iff (cursor behind : Cursor) :
    (cursor.tail : Run ν Cursor) = pure behind ↔
      ∃ letter, cursor.next? = some (letter, behind) := by
  unfold tail
  rcases cursor.next? with _ | ⟨first, rest⟩
  · simp [Run.abort_ne_pure]
  · simp [Run.pure_eq_pure_iff]

theorem head_eq_abort_iff (cursor : Cursor) :
    (cursor.head : Run ν Char) = Run.abort headOfEmpty ↔ cursor.next? = none := by
  unfold head
  rcases cursor.next? with _ | ⟨first, rest⟩
  · simp
  · simp [(Run.abort_ne_pure _ _).symm]

theorem tail_eq_abort_iff (cursor : Cursor) :
    (cursor.tail : Run ν Cursor) = Run.abort headOfEmpty ↔ cursor.next? = none := by
  unfold tail
  rcases cursor.next? with _ | ⟨first, rest⟩
  · simp
  · simp [(Run.abort_ne_pure _ _).symm]

/-- As far as there are letters, a cursor can be advanced at once. -/
theorem IsAt.exists_advance
    (stands : cursor.IsAt source count) (further : Nat) (within : count + further ≤ source.length) :
    ∃ behind,
      (cursor.advance further : Run ν Cursor) = pure behind ∧
        behind.IsAt source (count + further) := by
  induction further generalizing cursor count with
  | zero => exact ⟨cursor, rfl, stands⟩
  | succ further inductionHypothesis =>
      obtain ⟨letter, next, step⟩ := stands.exists_next? (by omega)
      obtain ⟨behind, advanced, standsBehind⟩ := inductionHypothesis (stands.next step) (by omega)
      have moved : (cursor.tail : Run ν Cursor) = pure next :=
        (tail_eq_pure_iff cursor next).2 ⟨letter, step⟩
      refine ⟨behind, ?_, ?_⟩
      · rw [advance, moved, pure_bind, advanced]
      · rwa [Nat.add_right_comm] at standsBehind

/-- Everything that a cursor shows which has passed so many letters of a text. -/
structure Shows (ν : Type) (source : String) (count : Nat) (cursor : Cursor) : Prop where
  count_le : count ≤ source.length
  source_eq : cursor.source = source
  offset_eq : cursor.offset = utf8Length (source.toList.take count)
  text_eq : cursor.text = String.ofList (source.toList.drop count)
  slices_eq :
    ∃ cut : source.Pos,
      cut.offset.byteIdx = cursor.offset ∧
      (source.sliceFrom cut).copy = cursor.text ∧
      (source.sliceTo cut).copy ++ cursor.text = source
  length_eq : cursor.length = source.length - count
  position_eq : cursor.location.position = count
  isEmpty_iff : cursor.isEmpty = true ↔ count = source.length
  isEmpty_iff_text : cursor.isEmpty = true ↔ cursor.text = ""
  isEmpty_iff_offset : cursor.isEmpty = true ↔ source.utf8ByteSize ≤ cursor.offset
  head_eq_pure_iff :
    ∀ letter, (cursor.head : Run ν Char) = pure letter ↔ source.toList[count]? = some letter
  head_eq_abort_iff : (cursor.head : Run ν Char) = Run.abort headOfEmpty ↔ count = source.length
  tail_eq_pure_iff :
    (∃ behind, (cursor.tail : Run ν Cursor) = pure behind) ↔ count < source.length
  tail_eq_abort_iff : (cursor.tail : Run ν Cursor) = Run.abort headOfEmpty ↔ count = source.length

theorem IsAt.shows (stands : cursor.IsAt source count) : cursor.Shows ν source count where
  count_le := stands.count_le
  source_eq := stands.source_eq
  offset_eq := by
    rw [offset_eq, stands.passed_eq, utf8Length_reverse]
  text_eq := by
    rw [text, stands.rest_eq]
  slices_eq := stands.source_eq ▸ cursor.exists_slices
  length_eq := by
    rw [length, stands.rest_eq, List.length_drop, String.length_toList]
  position_eq := by
    have behind := Location.isBehind_after cursor.passed.letters.reverse
    have passed : cursor.passed.letters.reverse.length = count := by
      rw [stands.passed_eq, List.reverse_reverse, List.length_take, String.length_toList]
      exact Nat.min_eq_left stands.count_le
    rw [location, behind.position_eq, passed]
  isEmpty_iff := by
    rw [Cursor.isEmpty_iff, ← Cursor.next?_eq_none_iff, stands.next?_eq_none_iff]
  isEmpty_iff_text := cursor.isEmpty_iff_text
  isEmpty_iff_offset := by
    rw [cursor.isEmpty_iff_offset, stands.source_eq]
  head_eq_pure_iff := by
    intro letter
    rw [Cursor.head_eq_pure_iff]
    constructor
    · rintro ⟨behind, moved⟩
      exact stands.getElem?_eq moved
    · intro found
      obtain ⟨within, _⟩ := List.getElem?_eq_some_iff.1 found
      rw [String.length_toList] at within
      obtain ⟨first, behind, moved⟩ := stands.exists_next? within
      rw [stands.getElem?_eq moved] at found
      cases found
      exact ⟨behind, moved⟩
  head_eq_abort_iff := by
    rw [Cursor.head_eq_abort_iff, stands.next?_eq_none_iff]
  tail_eq_pure_iff := by
    simp only [Cursor.tail_eq_pure_iff]
    constructor
    · rintro ⟨behind, letter, moved⟩
      exact (stands.next moved).count_le
    · intro within
      obtain ⟨letter, behind, moved⟩ := stands.exists_next? within
      exact ⟨behind, letter, moved⟩
  tail_eq_abort_iff := by
    rw [Cursor.tail_eq_abort_iff, stands.next?_eq_none_iff]

/-! ## All cursors that can be reached -/

/-- The cursor has been made at the start of the text, in one of the ways there are, and has been
moved so many times by steps that have succeeded. -/
inductive Reached (ν : Type) : (source : String) → (count : Nat) → Cursor → Prop where
  | ofText (source : String) : Reached ν source 0 (ofText source)
  | ofText? (source : Option String) : Reached ν (source.getD "") 0 (ofText? source)
  | empty : Reached ν "" 0 empty
  | default : Reached ν "" 0 default
  | tail {source : String} {count : Nat} {cursor behind : Cursor} :
      Reached ν source count cursor →
      (cursor.tail : Run ν Cursor) = pure behind →
      Reached ν source (count + 1) behind

theorem Reached.isAt (reached : Reached ν source count cursor) : cursor.IsAt source count := by
  induction reached with
  | ofText source => exact isAt_ofText source
  | ofText? source =>
      cases source with
      | none => exact isAt_ofText ""
      | some text => exact isAt_ofText text
  | empty => exact isAt_ofText ""
  | default => exact isAt_ofText ""
  | tail _ moved stands =>
      obtain ⟨letter, step⟩ := (tail_eq_pure_iff _ _).1 moved
      exact stands.next step

/-- The cut that is moved as often from the front of the text comes to the cut of the cursor. -/
theorem Reached.advance_ofText (reached : Reached ν source count cursor) :
    ((Cut.ofText source).advance count : Run ν Cut) = pure cursor.toCut := by
  have within : 0 + count ≤ source.length := by
    rw [Nat.zero_add]
    exact reached.isAt.count_le
  obtain ⟨behind, advanced, stands⟩ := (isAt_ofText source).exists_advance (ν := ν) count within
  rw [Nat.zero_add] at stands
  have same : behind = cursor := stands.unique reached.isAt
  rw [← toCut_ofText, advance_toCut, advanced, map_pure, same]

/-- What a cursor shows is fixed by the text and by how often the cursor has moved, and it counts as
equal to another one, of any text, just if the same letters are left. -/
theorem shows_of_reached (reached : Reached ν source count cursor) :
    cursor.Shows ν source count ∧
    ∀ {otherSource : String} {otherCount : Nat} {other : Cursor},
      Reached ν otherSource otherCount other →
        ((cursor == other) = true ↔
          source.toList.drop count = otherSource.toList.drop otherCount) := by
  have stands : cursor.IsAt source count := reached.isAt
  constructor
  · exact stands.shows
  · intro otherSource otherCount other otherReached
    rw [beq_iff, stands.rest_eq, otherReached.isAt.rest_eq]

/-- The third letter of a text, which is the only one of another. -/
theorem shows_of_reached_clef :
    Reached Unit "é\n𝄞" 2 ⟨Segment.ofList ['\n', 'é'], Segment.ofList ['𝄞']⟩ ∧
    Shows Unit "é\n𝄞" 2 ⟨Segment.ofList ['\n', 'é'], Segment.ofList ['𝄞']⟩ ∧
    Reached Unit "𝄞" 0 (ofText "𝄞") ∧
    ((⟨Segment.ofList ['\n', 'é'], Segment.ofList ['𝄞']⟩ : Cursor) == ofText "𝄞") = true := by
  have once : Reached Unit "é\n𝄞" 1 ⟨Segment.ofList ['é'], Segment.ofList ['\n', '𝄞']⟩ :=
    .tail (.ofText "é\n𝄞") rfl
  have twice : Reached Unit "é\n𝄞" 2 ⟨Segment.ofList ['\n', 'é'], Segment.ofList ['𝄞']⟩ :=
    once.tail rfl
  obtain ⟨shows, equal_iff⟩ := shows_of_reached twice
  have same : "é\n𝄞".toList.drop 2 = "𝄞".toList.drop 0 := by
    decide
  exact ⟨twice, shows, .ofText "𝄞", (equal_iff (.ofText "𝄞")).2 same⟩

end Cursor

end ParserAlgebra
