import ParserAlgebra.Run
import ParserAlgebra.Segment

/-!
# Cursors

A cursor is a place in a text: the letters that have been passed, the latest first, and the
letters that are left. It moves forward by one letter at a time. Two cursors count as equal under
`==` when the same letters are left, wherever these letters come from; the places themselves are
compared with `=`.
-/

namespace ParserAlgebra

/-- A place in a text. -/
@[ext]
structure Cursor where
  /-- The letters in front of the place, the latest first. -/
  passed : Segment
  /-- The letters behind the place. -/
  rest : Segment
deriving DecidableEq

namespace Cursor

/-! ## Texts to cursors -/

/-- The start of a sequence of letters. -/
def ofList (letters : List Char) : Cursor :=
  ⟨Segment.empty, Segment.ofList letters⟩

/-- The start of a text. -/
def ofText (source : String) : Cursor :=
  ofList source.toList

/-- The start, which is also the end, of the text without letters. -/
def empty : Cursor :=
  ofText ""

/-- The start of a text that may be absent; an absent text has no letters. -/
def ofText? (source : Option String) : Cursor :=
  match source with
  | some text => ofText text
  | none => empty

instance : Inhabited Cursor :=
  ⟨empty⟩

/-! ## What a cursor shows -/

/-- The letters of the whole text. -/
def letters (cursor : Cursor) : List Char :=
  cursor.passed.letters.reverse ++ cursor.rest.letters

/-- The whole text. -/
def source (cursor : Cursor) : String :=
  String.ofList cursor.letters

/-- The text that is left. -/
def text (cursor : Cursor) : String :=
  String.ofList cursor.rest.letters

/-- The number of bytes that have been passed. -/
def offset (cursor : Cursor) : Nat :=
  cursor.passed.bytes

/-- The number of bytes that are left. -/
def bytesLeft (cursor : Cursor) : Nat :=
  cursor.rest.bytes

/-- The number of letters that are left. -/
def length (cursor : Cursor) : Nat :=
  cursor.rest.letters.length

/-- Whether nothing is left. -/
def isEmpty (cursor : Cursor) : Bool :=
  cursor.bytesLeft == 0

/-- Fewer bytes are left at the second place than at the first, which need not lie in the same
text. -/
@[reducible]
def Consumed (before after : Cursor) : Prop :=
  after.bytesLeft < before.bytesLeft

/-- Where the place is for a reader. -/
def location (cursor : Cursor) : Location :=
  Location.after cursor.passed.letters.reverse

/-- A cursor as a record. -/
def describe (cursor : Cursor) : String :=
  Text.record "Input"
    [("source", Text.quote cursor.source), ("offset", toString cursor.offset)]

/-! ## Moving -/

/-- The next letter and the place behind it, unless nothing is left. -/
def next? (cursor : Cursor) : Option (Char × Cursor) :=
  match cursor.rest.uncons? with
  | some (letter, behind) => some (letter, ⟨cursor.passed.cons letter, behind⟩)
  | none => none

/-- The message of a run that asked for a letter where none is left. -/
def headOfEmpty : String :=
  "Input::head called on empty input"

/-- The next letter. Where none is left the run is given up. -/
def head {ν : Type} (cursor : Cursor) : Run ν Char :=
  match cursor.next? with
  | some (letter, _) => pure letter
  | none => Run.abort headOfEmpty

/-- The place behind the next letter. Where none is left the run is given up. -/
def tail {ν : Type} (cursor : Cursor) : Run ν Cursor :=
  match cursor.next? with
  | some (_, behind) => pure behind
  | none => Run.abort headOfEmpty

/-- The place behind so many letters. Where there are not as many the run is given up. -/
def advance {ν : Type} (cursor : Cursor) : (count : Nat) → Run ν Cursor
  | 0 => pure cursor
  | count + 1 => do
      let behind ← cursor.tail
      behind.advance count

theorem next?_eq_none_iff (cursor : Cursor) :
    cursor.next? = none ↔ cursor.rest.letters = [] := by
  rw [← Segment.uncons?_eq_none_iff]
  unfold next?
  cases cursor.rest.uncons? <;> simp

theorem next?_eq_some_iff (cursor behind : Cursor) (letter : Char) :
    cursor.next? = some (letter, behind) ↔
      cursor.rest.letters = letter :: behind.rest.letters ∧
        behind.passed.letters = letter :: cursor.passed.letters := by
  unfold next?
  cases step : cursor.rest.uncons? with
  | none =>
      rw [Segment.uncons?_eq_none_iff] at step
      simp [step]
  | some found =>
      obtain ⟨first, suffix⟩ := found
      rw [Segment.uncons?_eq_some_iff] at step
      simp only [Option.some.injEq, Prod.mk.injEq, step, List.cons.injEq]
      constructor
      · rintro ⟨rfl, rfl⟩
        exact ⟨⟨rfl, rfl⟩, rfl⟩
      · rintro ⟨⟨rfl, sameRest⟩, samePassed⟩
        refine ⟨rfl, Cursor.ext ?_ ?_⟩
        · exact Segment.ext samePassed.symm
        · exact Segment.ext sameRest

theorem isEmpty_iff (cursor : Cursor) :
    cursor.isEmpty = true ↔ cursor.rest.letters = [] := by
  rw [← utf8Length_eq_zero_iff, ← cursor.rest.bytes_eq]
  simp [isEmpty, bytesLeft]

/-! ## Equality of what is left -/

instance : BEq Cursor :=
  ⟨fun left right => left.rest.letters == right.rest.letters⟩

theorem beq_iff (left right : Cursor) :
    (left == right) = true ↔ left.rest.letters = right.rest.letters := by
  change (left.rest.letters == right.rest.letters) = true ↔ _
  exact beq_iff_eq

instance : EquivBEq Cursor where
  rfl := by
    intro cursor
    exact (beq_iff cursor cursor).2 rfl
  symm := by
    intro left right same
    exact (beq_iff right left).2 ((beq_iff left right).1 same).symm
  trans := by
    intro left middle right first second
    exact (beq_iff left right).2
      (((beq_iff left middle).1 first).trans ((beq_iff middle right).1 second))

instance : Hashable Cursor :=
  ⟨fun cursor => hash cursor.text⟩

instance : LawfulHashable Cursor where
  hash_eq := by
    intro left right same
    have sameText : left.text = right.text :=
      congrArg String.ofList ((beq_iff left right).1 same)
    change hash left.text = hash right.text
    rw [sameText]

end Cursor

end ParserAlgebra
