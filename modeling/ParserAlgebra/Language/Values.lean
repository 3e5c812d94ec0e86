import ParserAlgebra.Parser.Recursion
import ParserAlgebra.Parser.Repetition
import ParserAlgebra.Parser.Sequence

/-!
# Values in writing

Values are integers and lists of values. An integer is written by decimal digits with a minus sign
in front if it is negative, a list by its values with commas between them inside square brackets,
and blanks may stand in front of every token. Which letters are blanks is left open. Integers are
signed words of 64 bits, and it is left open too what becomes of a result that is none. The rules
for values and for lists refer to each other, by a delayed parser for the lists in a value.
-/

namespace ParserAlgebra

/-- Integers and lists of values. -/
inductive Value where
  | int (number : Int64)
  | list (values : List Value)

/-- The number is that of a signed word of 64 bits. -/
def IsWord (number : Int) : Prop :=
  Int64.minValue.toInt ≤ number ∧ number ≤ Int64.maxValue.toInt

instance (number : Int) : Decidable (IsWord number) :=
  inferInstanceAs (Decidable (_ ∧ _))

/-- What arithmetic does with a result that is no word. -/
inductive Overflow where
  /-- The result is reduced to the word that it is congruent to. -/
  | wraps
  /-- The run is given up. -/
  | aborts
deriving DecidableEq, Repr

namespace Overflow

variable {ν : Type}

/-- The word for the exact result of an operation, the name of which is for the case that the run is
given up. -/
def word (overflow : Overflow) (operation : String) (exact : Int) : Run ν Int64 :=
  match overflow with
  | .wraps => pure (Int64.ofInt exact)
  | .aborts =>
      if IsWord exact then
        pure (Int64.ofInt exact)
      else
        Run.abort ("attempt to " ++ operation ++ " with overflow")

/-- The product of two words. -/
def times (overflow : Overflow) (left right : Int64) : Run ν Int64 :=
  overflow.word "multiply" (left.toInt * right.toInt)

/-- The sum of two words. -/
def plus (overflow : Overflow) (left right : Int64) : Run ν Int64 :=
  overflow.word "add" (left.toInt + right.toInt)

end Overflow

namespace Values

variable {ν α : Type} (blank : Char → Bool) (overflow : Overflow)

/-! ## Tokens -/

/-- The next letter, if it is the expected one. -/
def symbol (expected : Char) : Parser ν Char :=
  Parser.item.satisfyOr (fun letter => letter == expected)
    ("expected '" ++ String.singleton expected ++ "'")

/-- All blanks up to the next letter that is none. -/
def spaces : Parser ν (List Char) :=
  (Parser.item.satisfy blank).many

/-- The parser behind the blanks that stand in front. -/
def token (parser : Parser ν α) : Parser ν α :=
  parser.apply ((spaces blank).map fun _ value => value)

/-! ## Integers -/

/-- The number of a decimal digit, which is zero for all other letters. -/
def digitNumber (letter : Char) : Int64 :=
  if letter.isDigit then Int64.ofNat (letter.toNat - '0'.toNat) else 0

/-- The number so far with one more digit behind it. -/
def withDigit (number : Int64) (digit : Char) : Run ν Int64 := do
  let tenfold ← overflow.times number 10
  overflow.plus tenfold (digitNumber digit)

/-- The number that is written by one digit or more. -/
def natural : Parser ν Int64 :=
  (Parser.item.satisfy Char.isDigit).some.mapM fun digits =>
    digits.foldlM (withDigit overflow) 0

/-- Minus one for a minus sign, and one if there is none. -/
def sign : Parser ν Int64 :=
  ((symbol '-').map fun _ => -1).orElse (Parser.valueOf 1)

/-- A number with its sign. -/
def integer : Parser ν Int64 :=
  (natural overflow).applyM (sign.map fun sign number => overflow.times sign number)

/-! ## Values and lists -/

/-- An integer or a list, behind blanks, given the parser of lists. -/
def valueOver (lists : Unit → Parser ν (List Value)) : Parser ν Value :=
  (token blank
    (((integer overflow).map Value.int).orElse ((Parser.lazy lists).map Value.list))).boxed

theorem valueOver_eq (lists : Unit → Parser ν (List Value)) :
    valueOver blank overflow lists =
      token blank (((integer overflow).map Value.int).orElse ((lists ()).map Value.list)) := by
  rw [valueOver, Parser.boxed_eq, Parser.lazy_eq]

section Bodies

variable (value : Parser ν Value)

/-- A comma and a value behind it. -/
def commaValue : Parser ν Value :=
  (token blank (symbol ',')).flatMap fun _ => value

/-- Values with commas between them, or no value at all. -/
def elements : Parser ν (List Value) :=
  ((commaValue blank value).many.apply (value.map fun first others => first :: others)).orElse
    (Parser.valueOf [])

/-- The elements of a list and the bracket behind them. -/
def closed : Parser ν (List Value) :=
  (token blank (symbol ']')).apply ((elements blank value).map fun values _ => values)

/-- The elements of a list between its brackets. -/
def bracketed : Parser ν (List Value) :=
  ((closed blank value).apply ((token blank (symbol '[')).map fun _ values => values)).boxed

theorem bracketed_eq :
    bracketed blank value =
      (closed blank value).apply ((token blank (symbol '[')).map fun _ values => values) :=
  Parser.boxed_eq _

end Bodies

/-- The rule for lists, given the rule itself. -/
def listBody (lists : Unit → Parser ν (List Value)) (_ : Unit) : Parser ν (List Value) :=
  bracketed blank (valueOver blank overflow lists)

/-- The parser of lists, unfolded to a depth. -/
def list (depth : Nat) : Parser ν (List Value) :=
  Parser.recursive (listBody blank overflow) depth ()

/-- The parser of values, in which lists are unfolded to a depth. -/
def value (depth : Nat) : Parser ν Value :=
  valueOver blank overflow fun _ => list blank overflow depth

end Values

end ParserAlgebra
