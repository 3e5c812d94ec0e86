import ParserAlgebra.Parser.Choice
import ParserAlgebra.Parser.Recursion
import ParserAlgebra.Parser.Sequence

/-!
# Nested brackets

Brackets inside brackets are read to the number of their pairs: an opening bracket, what is nested
in it, and a closing bracket, or else nothing. The rule refers to itself by a delayed parser. It
never fails, since nothing is always there to be read.
-/

namespace ParserAlgebra.Nesting

variable {ν : Type}

/-- The next letter, if it is the given bracket. -/
def bracket (expected : Char) : Parser ν Char :=
  Parser.item.satisfy fun letter => letter == expected

/-- A pair of brackets around what is nested in it, or nothing, given the rule itself. -/
def body (rule : Unit → Parser ν Nat) (_ : Unit) : Parser ν Nat :=
  (((bracket '(').flatMap fun _ =>
    (Parser.lazy rule).flatMap fun count =>
      (bracket ')').map fun _ => count + 1).orElse
  (Parser.valueOf 0)).boxed

/-- The number of bracket pairs that stand inside one another, with the rule unfolded to a depth. -/
def nested (depth : Nat) : Parser ν Nat :=
  Parser.recursive body depth ()

/-- The opening brackets at the start of the letters. -/
def openings (letters : List Char) : Nat :=
  (letters.takeWhile (· == '(')).length

/-- The closing brackets right behind the opening ones at the start of the letters. -/
def closings (letters : List Char) : Nat :=
  ((letters.dropWhile (· == '(')).takeWhile (· == ')')).length

end ParserAlgebra.Nesting
