/-!
# Segments of text

A segment is a sequence of letters together with its length in bytes. The length is kept beside
the letters so that it need not be counted again, and a proof that it is the right one belongs to
the segment: two segments with the same letters are the same segment.
-/

namespace ParserAlgebra

/-- The number of bytes that letters take up in UTF-8. -/
def utf8Length (letters : List Char) : Nat :=
  letters.foldr (fun letter total => letter.utf8Size + total) 0

@[simp]
theorem utf8Length_nil :
    utf8Length [] = 0 :=
  rfl

@[simp]
theorem utf8Length_cons (letter : Char) (suffix : List Char) :
    utf8Length (letter :: suffix) = letter.utf8Size + utf8Length suffix :=
  rfl

@[simp]
theorem utf8Length_append (initial suffix : List Char) :
    utf8Length (initial ++ suffix) = utf8Length initial + utf8Length suffix := by
  induction initial with
  | nil => simp
  | cons letter initial inductionHypothesis =>
      simp [inductionHypothesis, Nat.add_assoc]

@[simp]
theorem utf8Length_reverse (letters : List Char) :
    utf8Length letters.reverse = utf8Length letters := by
  induction letters with
  | nil => rfl
  | cons letter suffix inductionHypothesis =>
      simp [inductionHypothesis, Nat.add_comm]

theorem utf8Length_eq_zero_iff (letters : List Char) :
    utf8Length letters = 0 ↔ letters = [] := by
  cases letters with
  | nil => simp
  | cons letter suffix =>
      have positive := Char.utf8Size_pos letter
      simp only [utf8Length_cons, reduceCtorEq, iff_false]
      omega

/-- Letters and their length in bytes. -/
structure Segment where
  letters : List Char
  /-- The number of bytes that the letters take up. -/
  bytes : Nat
  bytes_eq : bytes = utf8Length letters

namespace Segment

/-- A segment is determined by its letters. -/
@[ext]
theorem ext
    {left right : Segment}
    (sameLetters : left.letters = right.letters) :
    left = right := by
  obtain ⟨leftLetters, leftBytes, leftEquality⟩ := left
  obtain ⟨rightLetters, rightBytes, rightEquality⟩ := right
  simp only at sameLetters
  subst sameLetters leftEquality rightEquality
  rfl

instance : DecidableEq Segment := fun left right =>
  decidable_of_iff (left.letters = right.letters)
    ⟨Segment.ext, fun equality => congrArg letters equality⟩

/-- The segment of given letters. -/
def ofList (letters : List Char) : Segment :=
  ⟨letters, utf8Length letters, rfl⟩

/-- The segment without letters. -/
def empty : Segment :=
  ⟨[], 0, rfl⟩

/-- A segment with one more letter in front. -/
def cons (letter : Char) (segment : Segment) : Segment :=
  ⟨letter :: segment.letters, letter.utf8Size + segment.bytes, by
    simp [segment.bytes_eq]⟩

/-- The first letter of a segment and the segment behind it. -/
def uncons? : Segment → Option (Char × Segment)
  | ⟨[], _, _⟩ => none
  | ⟨letter :: suffix, bytes, equality⟩ =>
      some (letter, ⟨suffix, bytes - letter.utf8Size, by
        simp only [equality, utf8Length_cons]
        omega⟩)

@[simp]
theorem letters_ofList (letters : List Char) :
    (ofList letters).letters = letters :=
  rfl

@[simp]
theorem letters_empty :
    empty.letters = [] :=
  rfl

@[simp]
theorem letters_cons (letter : Char) (segment : Segment) :
    (cons letter segment).letters = letter :: segment.letters :=
  rfl

theorem uncons?_eq_none_iff (segment : Segment) :
    segment.uncons? = none ↔ segment.letters = [] := by
  obtain ⟨letters, bytes, equality⟩ := segment
  cases letters <;> simp [uncons?]

theorem uncons?_eq_some_iff (segment behind : Segment) (letter : Char) :
    segment.uncons? = some (letter, behind) ↔
      segment.letters = letter :: behind.letters := by
  obtain ⟨letters, bytes, equality⟩ := segment
  cases letters with
  | nil => simp [uncons?]
  | cons first suffix =>
      simp only [uncons?, Option.some.injEq, Prod.mk.injEq, List.cons.injEq,
        Segment.ext_iff]

end Segment

end ParserAlgebra
