import ParserAlgebra.Parser.Basic

/-!
# Ordered choice

Of two parsers the second runs only if the first fails, and then from the same place as the
first, however far the first had come. If both fail, the message is that of the second.
-/

namespace ParserAlgebra.Parser

variable {ν α : Type}

/-- The first parser, or the second from the same place if the first fails. -/
def orElse (first second : Parser ν α) : Parser ν α where
  parse cursor :=
    first.parse cursor >>= Reply.orElseM fun _ => second.parse cursor

instance : OrElse (Parser ν α) where
  orElse first second := first.orElse (second ())

theorem parse_orElse (first second : Parser ν α) (cursor : Cursor) :
    (first.orElse second).parse cursor =
      first.parse cursor >>= Reply.orElseM fun _ => second.parse cursor :=
  rfl

/-- The first of several parsers that does not fail. -/
def choice (first : Parser ν α) (others : List (Parser ν α)) : Parser ν α :=
  others.foldl orElse first

end ParserAlgebra.Parser
