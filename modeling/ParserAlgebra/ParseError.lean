import ParserAlgebra.Location
import ParserAlgebra.Text.Quoted

/-!
# Errors of a whole parse

A parse of a whole text goes wrong in one of two ways: the parser fails, or it succeeds and
leaves letters over. The second error says where the rest begins and what it is.
-/

namespace ParserAlgebra

/-- Why a whole text was not accepted. -/
inductive ParseError where
  /-- The parser failed with a message. -/
  | failed (message : String)
  /-- The parser succeeded before the end of the text. -/
  | trailing (location : Location) (rest : String)
deriving DecidableEq, Repr

namespace ParseError

/-- The place at which the rest begins, where there is a rest. -/
def location? : ParseError → Option Location
  | failed _ => none
  | trailing location _ => some location

/-- An error as a reader is told it, for any choice of letters that a quoted text hides. -/
def textWith (hidden : Char → Bool) : ParseError → String
  | failed message => "parse failed: " ++ message
  | trailing location rest =>
      "unparsed input at " ++ location.text ++ ": " ++ Text.quoteWith hidden rest

/-- An error as a reader is told it. -/
def text (error : ParseError) : String :=
  error.textWith Text.isHidden

instance : ToString ParseError :=
  ⟨text⟩

/-- An error as a record. -/
def describe : ParseError → String
  | failed message =>
      Text.record "Failed" [("message", Text.quote message)]
  | trailing location rest =>
      Text.record "TrailingInput"
        [("loc", location.describe), ("remaining", Text.quote rest)]

end ParseError

end ParserAlgebra
