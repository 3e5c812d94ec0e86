import ParserAlgebra.Reply

/-!
# Parsers

A parser is a function that runs from a cursor to a reply. Any such function is a parser, so a
grammar may contain steps of its own beside those built here. This module has the parsers that
everything begins with: the next letter, a given value, and a given failure. Parsers are equal
when they run in the same way from every cursor.

A parser can also be passed on by a handle: by a reference, which borrows it, by a box, which owns
it, or by a box that is shared, which hides what the parser is built from. A handle runs the parser
that it holds and does nothing else, so it is the same parser, and whatever is proved of a parser,
or of all the ways to build one, is true with handles around any part of it.
-/

namespace ParserAlgebra

/-- A function that runs from a place in a text to a reply, where closures write notes of the
type `ν`. -/
@[ext]
structure Parser (ν : Type) (α : Type) where
  /-- Run the parser from a place. -/
  parse : Cursor → Run ν (Reply α)

namespace Parser

variable {ν α : Type}

instance : Inhabited (Parser ν α) :=
  ⟨⟨fun _ => Run.cutOff⟩⟩

/-- A plain function used as a parser. -/
def ofReply (reply : Cursor → Reply α) : Parser ν α where
  parse cursor := pure (reply cursor)

/-- Why there is no next letter at the end of a text. -/
def noInput : String :=
  "No input"

/-- The next letter. -/
def item : Parser ν Char where
  parse cursor :=
    if cursor.isEmpty then
      pure (.failure noInput)
    else do
      let letter ← cursor.head
      let rest ← cursor.tail
      pure (.success letter rest)

/-- A given value, for which nothing is consumed. -/
def valueOf (value : α) : Parser ν α where
  parse cursor := pure (.success value cursor)

/-- A given failure, whatever the text. -/
def failure (message : String) : Parser ν α where
  parse _ := pure (.failure message)

/-- The next letter in terms of the one motion of a cursor; it never gives up. -/
theorem parse_item (cursor : Cursor) :
    (item : Parser ν Char).parse cursor =
      match cursor.next? with
      | some (letter, rest) => pure (.success letter rest)
      | none => pure (.failure noInput) := by
  have emptiness := cursor.isEmpty_iff
  rw [← Cursor.next?_eq_none_iff] at emptiness
  unfold item Cursor.head Cursor.tail
  cases step : cursor.next? with
  | none =>
      rw [step] at emptiness
      simp [emptiness]
  | some found =>
      rw [step] at emptiness
      simp [emptiness, step]

@[simp]
theorem parse_ofReply (reply : Cursor → Reply α) (cursor : Cursor) :
    (ofReply reply : Parser ν α).parse cursor = pure (reply cursor) :=
  rfl

@[simp]
theorem parse_valueOf (value : α) (cursor : Cursor) :
    (valueOf value : Parser ν α).parse cursor = pure (.success value cursor) :=
  rfl

@[simp]
theorem parse_failure (message : String) (cursor : Cursor) :
    (failure message : Parser ν α).parse cursor = pure (.failure message) :=
  rfl

/-! ## Handles -/

/-- The parser that hands every run on to another one. -/
def handedOn (inner : Parser ν α) : Parser ν α where
  parse cursor := inner.parse cursor

@[simp]
theorem handedOn_eq (inner : Parser ν α) :
    handedOn inner = inner :=
  rfl

/-- A parser behind a reference. -/
def borrowed (inner : Parser ν α) : Parser ν α :=
  handedOn inner

@[simp]
theorem borrowed_eq (inner : Parser ν α) :
    borrowed inner = inner :=
  handedOn_eq inner

/-- A parser in a box of its own. -/
def owned (inner : Parser ν α) : Parser ν α :=
  handedOn inner

@[simp]
theorem owned_eq (inner : Parser ν α) :
    owned inner = inner :=
  handedOn_eq inner

/-- A parser in a box that can be shared. -/
def boxed (inner : Parser ν α) : Parser ν α :=
  handedOn inner

@[simp]
theorem boxed_eq (inner : Parser ν α) :
    boxed inner = inner :=
  handedOn_eq inner

end Parser

end ParserAlgebra
