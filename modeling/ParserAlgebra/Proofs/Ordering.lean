import Mathlib.Data.Nat.SuccPred
import Mathlib.Data.Prod.Lex
import Mathlib.Order.Interval.Set.Monotone
import ParserAlgebra.Proofs.Joining

/-!
# The order of places

Places in one text can be compared by their offsets, by their positions, and by their lines and, on
one line, by how far into it they are. The offset within a line alone does not grow from place to
place, as it falls back to zero behind each line feed; with the line in front of it, it does. Each
of the three numbers grows with every letter that is passed, so that all of them order the places in
the way in which they are reached, and each of them tells places apart.
-/

namespace ParserAlgebra

namespace Location

/-- The line and, on the same line, the place in the line. -/
def inLines (location : Location) : Lex (Nat × Nat) :=
  toLex (location.line, location.lineOffset)

theorem inLines_lt_step (location : Location) (letter : Char) :
    location.inLines < (location.step letter).inLines := by
  rw [inLines, inLines, Prod.Lex.toLex_lt_toLex]
  by_cases feed : letter = '\n'
  · left
    rw [step, if_pos feed]
    exact Nat.lt_succ_self _
  · right
    rw [step, if_neg feed]
    exact ⟨rfl, Nat.lt_succ_self _⟩

theorem inLines_eq_iff (left right : Location) :
    left.inLines = right.inLines ↔
      left.line = right.line ∧ left.lineOffset = right.lineOffset := by
  rw [inLines, inLines, toLex_inj, Prod.mk.injEq]

end Location

/-! ## What grows with every letter -/

section Growing

variable {κ : Type} [Preorder κ] {measure : List Char → κ}

/-- What is measured becomes more with every letter that is added. -/
def Growing (measure : List Char → κ) : Prop :=
  ∀ letters letter, measure letters < measure (letters ++ [letter])

theorem growing_utf8Length : Growing utf8Length := by
  intro letters letter
  have someByte : 0 < letter.utf8Size := Char.utf8Size_pos letter
  rw [utf8Length_append, utf8Length_cons, utf8Length_nil]
  omega

theorem growing_position : Growing fun letters => (Location.after letters).position := by
  intro letters letter
  simp only [Location.after_append_singleton, Location.position_step]
  exact Nat.lt_succ_self _

theorem growing_inLines : Growing fun letters => (Location.after letters).inLines := by
  intro letters letter
  simp only [Location.after_append_singleton]
  exact Location.inLines_lt_step _ letter

/-- Of the same letters, more of them measure more. -/
theorem Growing.strictMonoOn (growing : Growing measure) (letters : List Char) :
    StrictMonoOn (fun count => measure (letters.take count)) (Set.Iic letters.length) := by
  apply strictMonoOn_Iic_of_lt_succ
  intro count within
  have oneMore : letters.take (Order.succ count) = letters.take count ++ [letters[count]] := by
    rw [Nat.succ_eq_succ, Nat.succ_eq_add_one, List.take_add_one,
      List.getElem?_eq_getElem within]
    rfl
  simp only [oneMore]
  exact growing _ _

end Growing

/-! ## Places in the same text -/

namespace Cursor

variable {ν : Type} {source : String} {count otherCount : Nat} {cursor other : Cursor}

namespace IsAt

theorem mem_Iic (stands : cursor.IsAt source count) :
    count ∈ Set.Iic source.toList.length := by
  rw [Set.mem_Iic, String.length_toList]
  exact stands.count_le

section Measured

variable {κ : Type} [Preorder κ] {measure : List Char → κ}

theorem lt_iff
    (growing : Growing measure)
    (stands : cursor.IsAt source count) (otherStands : other.IsAt source otherCount) :
    measure cursor.passed.letters.reverse < measure other.passed.letters.reverse ↔
      count < otherCount := by
  rw [stands.reverse_eq, otherStands.reverse_eq]
  exact (growing.strictMonoOn source.toList).lt_iff_lt stands.mem_Iic otherStands.mem_Iic

theorem eq_iff
    (growing : Growing measure)
    (stands : cursor.IsAt source count) (otherStands : other.IsAt source otherCount) :
    measure cursor.passed.letters.reverse = measure other.passed.letters.reverse ↔
      count = otherCount := by
  rw [stands.reverse_eq, otherStands.reverse_eq]
  exact (growing.strictMonoOn source.toList).eq_iff_eq stands.mem_Iic otherStands.mem_Iic

end Measured

theorem eq_iff_count
    (stands : cursor.IsAt source count) (otherStands : other.IsAt source otherCount) :
    cursor = other ↔ count = otherCount := by
  constructor
  · rintro rfl
    exact (stands.eq_iff growing_utf8Length otherStands).1 rfl
  · rintro rfl
    exact stands.unique otherStands

end IsAt

theorem offset_eq_reverse (cursor : Cursor) :
    cursor.offset = utf8Length cursor.passed.letters.reverse := by
  rw [offset_eq, utf8Length_reverse]

/-- Of two places in one text that are reached letter by letter, the one with the smaller offset has
the smaller position, and it comes first by lines and by places in them. Line and place in the line
tell all places apart, and so do locations and offsets. -/
theorem order_of_reached
    (reached : Reached ν source count cursor) (otherReached : Reached ν source otherCount other) :
    (cursor.offset < other.offset ↔ cursor.location.position < other.location.position) ∧
    (cursor.location.position < other.location.position ↔
      cursor.location.inLines < other.location.inLines) ∧
    (cursor.location.line = other.location.line ∧
        cursor.location.lineOffset = other.location.lineOffset ↔
      cursor = other) ∧
    (cursor.location = other.location ↔ cursor.offset = other.offset) := by
  have stands : cursor.IsAt source count := reached.isAt
  have otherStands : other.IsAt source otherCount := otherReached.isAt
  have byOffset : cursor.offset < other.offset ↔ count < otherCount := by
    rw [offset_eq_reverse, offset_eq_reverse]
    exact stands.lt_iff growing_utf8Length otherStands
  have byPosition :
      cursor.location.position < other.location.position ↔ count < otherCount :=
    stands.lt_iff growing_position otherStands
  have byLines : cursor.location.inLines < other.location.inLines ↔ count < otherCount :=
    stands.lt_iff growing_inLines otherStands
  have sameOffset : cursor.offset = other.offset ↔ count = otherCount := by
    rw [offset_eq_reverse, offset_eq_reverse]
    exact stands.eq_iff growing_utf8Length otherStands
  have sameLines : cursor.location.inLines = other.location.inLines ↔ count = otherCount :=
    stands.eq_iff growing_inLines otherStands
  have samePlace : cursor = other ↔ count = otherCount := stands.eq_iff_count otherStands
  refine ⟨byOffset.trans byPosition.symm, byPosition.trans byLines.symm, ?_, ?_⟩
  · rw [← Location.inLines_eq_iff]
    exact sameLines.trans samePlace.symm
  · constructor
    · intro sameLocation
      exact sameOffset.2 (sameLines.1 (congrArg Location.inLines sameLocation))
    · intro offsets
      exact congrArg location (samePlace.2 (sameOffset.1 offsets))

/-- The places in front of a line feed and behind it, of which the second is less far into its
line. -/
theorem order_of_reached_over_feed :
    Reached Unit "é\n𝄞" 1 ⟨Segment.ofList ['é'], Segment.ofList ['\n', '𝄞']⟩ ∧
    Reached Unit "é\n𝄞" 2 ⟨Segment.ofList ['\n', 'é'], Segment.ofList ['𝄞']⟩ ∧
    (⟨Segment.ofList ['\n', 'é'], Segment.ofList ['𝄞']⟩ : Cursor).location.lineOffset <
      (⟨Segment.ofList ['é'], Segment.ofList ['\n', '𝄞']⟩ : Cursor).location.lineOffset ∧
    (⟨Segment.ofList ['é'], Segment.ofList ['\n', '𝄞']⟩ : Cursor).location.inLines <
      (⟨Segment.ofList ['\n', 'é'], Segment.ofList ['𝄞']⟩ : Cursor).location.inLines ∧
    (⟨Segment.ofList ['é'], Segment.ofList ['\n', '𝄞']⟩ : Cursor).location ≠
      (⟨Segment.ofList ['\n', 'é'], Segment.ofList ['𝄞']⟩ : Cursor).location := by
  have reached : Reached Unit "é\n𝄞" 1 ⟨Segment.ofList ['é'], Segment.ofList ['\n', '𝄞']⟩ :=
    .tail (.ofText "é\n𝄞") rfl
  have behind : Reached Unit "é\n𝄞" 2 ⟨Segment.ofList ['\n', 'é'], Segment.ofList ['𝄞']⟩ :=
    reached.tail rfl
  obtain ⟨byPosition, byLines, _, byLocation⟩ := order_of_reached reached behind
  refine ⟨reached, behind, by decide, byLines.1 (byPosition.1 (by decide)), ?_⟩
  intro sameLocation
  exact absurd (byLocation.1 sameLocation) (by decide)

end Cursor

end ParserAlgebra
