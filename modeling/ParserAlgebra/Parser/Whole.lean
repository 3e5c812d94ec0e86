import ParserAlgebra.Parser.Basic

/-!
# Parsing whole texts

A parser is run from the start of a text. Of a parse of the whole text it is asked besides that
nothing be left over; why a text is not accepted is both the outcome and an event.
-/

namespace ParserAlgebra.Parser

variable {ν α : Type}

/-- Run a parser from the start of a text. -/
def parseText (parser : Parser ν α) (text : String) : Run ν (Reply α) :=
  parser.parse (Cursor.ofText text)

/-- Run a parser from the start of a text that it must consume to the end. -/
def parseAll (parser : Parser ν α) (text : String) : Run ν (Except ParseError α) := do
  match (← parser.parseText text).toExcept with
  | .error error =>
      Run.emit (.rejected error)
      pure (.error error)
  | .ok (value, rest) =>
      if rest.isEmpty then
        pure (.ok value)
      else do
        Run.emit (.unconsumed rest.location)
        pure (.error (.trailing rest.location rest.text))

end ParserAlgebra.Parser
