import ParserAlgebra.Cursor

/-!
# Cuts of a text

A place in a text can be kept as the text itself and the number of bytes in front of the place, at
which the text can be cut between two letters. Everything that is asked about the place is then read
off the two parts, each of which is sliced off the text at that byte. A cursor keeps the letters of
the two parts instead, so that it need not count the bytes from the start of the text again.
-/

namespace ParserAlgebra

/-- A text, and an offset in bytes at which it can be cut. -/
@[ext]
structure Cut where
  source : String
  offset : Nat
  isBoundary : (⟨offset⟩ : String.Pos.Raw).IsValid source

namespace Cut

/-! ## Texts to cuts -/

/-- The cut in front of a text. -/
def ofText (source : String) : Cut :=
  ⟨source, 0, String.Pos.Raw.isValid_zero⟩

/-- The cut of the text without letters. -/
def empty : Cut :=
  ofText ""

/-- The cut in front of a text that may be absent; an absent text has no letters. -/
def ofText? (source : Option String) : Cut :=
  match source with
  | some text => ofText text
  | none => empty

instance : Inhabited Cut :=
  ⟨empty⟩

/-! ## What a cut shows -/

/-- The place of the cut among the places of its text. -/
def pos (cut : Cut) : cut.source.Pos :=
  ⟨⟨cut.offset⟩, cut.isBoundary⟩

/-- The part of the text in front of the cut. -/
def front (cut : Cut) : String :=
  (cut.source.sliceTo cut.pos).copy

/-- The part of the text behind the cut. -/
def text (cut : Cut) : String :=
  (cut.source.sliceFrom cut.pos).copy

/-- Whether the offset is not short of the end of the text. -/
def isEmpty (cut : Cut) : Bool :=
  decide (cut.source.utf8ByteSize ≤ cut.offset)

/-- The number of letters behind the cut. -/
def length (cut : Cut) : Nat :=
  cut.text.length

/-- Where the cut is for a reader. -/
def location (cut : Cut) : Location :=
  Location.after cut.front.toList

/-- A cut as a record. -/
def describe (cut : Cut) : String :=
  Text.record "Input"
    [("source", Text.quote cut.source), ("offset", toString cut.offset)]

/-- There are fewer bytes behind the second cut than behind the first. -/
def Consumed (before after : Cut) : Prop :=
  after.text.utf8ByteSize < before.text.utf8ByteSize

instance : BEq Cut :=
  ⟨fun left right => left.text == right.text⟩

instance : Hashable Cut :=
  ⟨fun cut => hash cut.text⟩

/-! ## Moving -/

theorem splits (cut : Cut) :
    cut.pos.Splits cut.front cut.text :=
  cut.pos.splits

theorem offset_eq_utf8ByteSize (cut : Cut) :
    cut.offset = cut.front.utf8ByteSize :=
  congrArg String.Pos.Raw.byteIdx cut.splits.offset_eq_rawEndPos

/-- Behind the first letter of what is left, the text can be cut again. -/
theorem isBoundary_add_utf8Size
    {cut : Cut} {letter : Char} {suffix : List Char}
    (left : cut.text.toList = letter :: suffix) :
    (⟨cut.offset + letter.utf8Size⟩ : String.Pos.Raw).IsValid cut.source := by
  have textSplit : cut.text = String.singleton letter ++ String.ofList suffix := by
    rw [← String.ofList_cons, ← left, String.ofList_toList]
  have sourceSplit :
      cut.source = (cut.front ++ String.singleton letter) ++ String.ofList suffix := by
    rw [String.append_assoc, ← textSplit]
    exact cut.splits.eq_append
  have bytes :
      cut.offset + letter.utf8Size = (cut.front ++ String.singleton letter).utf8ByteSize := by
    rw [String.utf8ByteSize_append, String.utf8ByteSize_singleton,
      cut.offset_eq_utf8ByteSize]
  rw [String.Pos.Raw.isValid_iff_exists_append]
  exact ⟨_, _, sourceSplit, congrArg String.Pos.Raw.mk bytes⟩

/-- The next letter. Where none is left the run is given up. -/
def head {ν : Type} (cut : Cut) : Run ν Char :=
  match cut.text.toList with
  | letter :: _ => pure letter
  | [] => Run.abort Cursor.headOfEmpty

/-- The cut as many bytes further on as the next letter takes up. Where none is left the run is
given up. -/
def tail {ν : Type} (cut : Cut) : Run ν Cut :=
  match left : cut.text.toList with
  | letter :: _ =>
      pure ⟨cut.source, cut.offset + letter.utf8Size, isBoundary_add_utf8Size left⟩
  | [] => Run.abort Cursor.headOfEmpty

/-- The cut behind so many letters. Where there are not as many the run is given up. -/
def advance {ν : Type} (cut : Cut) : (count : Nat) → Run ν Cut
  | 0 => pure cut
  | count + 1 => do
      let behind ← cut.tail
      behind.advance count

end Cut

end ParserAlgebra
