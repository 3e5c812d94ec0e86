import ParserAlgebra.Text.Quoted
import ParserAlgebra.Text.Record

/-!
# Descriptions of parsers

The simplest parsers can be described as records. A function cannot be looked into, nor can a
parser that is passed around as a value, so a fixed text stands in their place.
-/

namespace ParserAlgebra.Parser

/-- What is described of a parser. -/
inductive Description where
  /-- The next letter. -/
  | item
  /-- A given value, of which the text is known. -/
  | valueOf (value : String)
  /-- A given failure of a parser for values of the named type. -/
  | failure (message valueType : String)
  /-- A function that is used as a parser. -/
  | function
  /-- A parser that is passed around as a value. -/
  | shared
deriving DecidableEq, Repr

/-- The record that describes a parser. -/
def Description.text : Description → String
  | item => "Item"
  | valueOf value => Text.record "ValueOf" [("value", value)]
  | failure message valueType =>
      Text.record "Failure"
        [("message", Text.quote message),
         ("_output", "PhantomData<fn() -> " ++ valueType ++ ">")]
  | function => Text.record "FromFn" [("function", Text.quote "<function>")]
  | shared => Text.record "BoxedParser" [("inner", Text.quote "<parser>")]

end ParserAlgebra.Parser
