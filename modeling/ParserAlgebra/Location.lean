import ParserAlgebra.Text.Record

/-!
# Locations

A location says where a place in a text is for a reader: on which line, how many letters into
that line, and how many letters into the whole text. Lines are counted from one, letters from
zero, and only the line feed ends a line. The location after some letters is found by one pass
over them.
-/

namespace ParserAlgebra

/-- A place in a text, counted in lines and letters. -/
structure Location where
  /-- The number of the line, from one. -/
  line : Nat
  /-- The number of letters between the start of the line and the place. -/
  lineOffset : Nat
  /-- The number of letters between the start of the text and the place. -/
  position : Nat
deriving DecidableEq, Repr

namespace Location

/-- The start of a text. -/
def start : Location :=
  ⟨1, 0, 0⟩

/-- The place behind one more letter. -/
def step (location : Location) (letter : Char) : Location :=
  if letter = '\n' then
    ⟨location.line + 1, 0, location.position + 1⟩
  else
    ⟨location.line, location.lineOffset + 1, location.position + 1⟩

/-- The place behind the given letters at the start of a text. -/
def after (letters : List Char) : Location :=
  letters.foldl step start

@[simp]
theorem after_nil :
    after [] = start :=
  rfl

theorem after_append_singleton (letters : List Char) (letter : Char) :
    after (letters ++ [letter]) = (after letters).step letter := by
  simp [after]

@[simp]
theorem position_step (location : Location) (letter : Char) :
    (location.step letter).position = location.position + 1 := by
  unfold step
  split <;> rfl

/-- A location as a reader is told it. -/
def text (location : Location) : String :=
  "line " ++ toString location.line ++ ", offset " ++ toString location.lineOffset ++
    " (absolute position: " ++ toString location.position ++ ")"

instance : ToString Location :=
  ⟨text⟩

/-- A location as a record. -/
def describe (location : Location) : String :=
  Text.record "CodeLoc"
    [("line", toString location.line),
     ("line_offset", toString location.lineOffset),
     ("position", toString location.position)]

end Location

end ParserAlgebra
