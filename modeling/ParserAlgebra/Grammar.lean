import ParserAlgebra.Parser.Recursion
import ParserAlgebra.Parser.Repetition
import ParserAlgebra.Parser.Sequence

/-!
# Grammars

A grammar is a parser written down: the tree of the operations it is built from, with plain
functions as its closures and with references to a table of rules. `Grammar.parser` gives the
parser that a grammar stands for, once the rules have parsers; `Rules.parser` unfolds a table of
rules to a depth. What holds of every parser built in this way is stated by recursion on grammars.
-/

namespace ParserAlgebra

/-- Parsers written down as trees, where the rule `rule` has values of the type `τ rule`. A handle
does not show in the tree, for it is the parser that it holds by `Parser.handedOn_eq`. -/
inductive Grammar {ι : Type} (τ : ι → Type) : Type → Type 1 where
  | item : Grammar τ Char
  | valueOf {α : Type} (value : α) : Grammar τ α
  | failure {α : Type} (message : String) : Grammar τ α
  | protected map {α β : Type} (mapper : α → β) (operand : Grammar τ α) : Grammar τ β
  | satisfyOr {α : Type} (test : α → Bool) (message : String) (operand : Grammar τ α) :
      Grammar τ α
  | flatMap {α β : Type} (operand : Grammar τ α) (next : α → Grammar τ β) : Grammar τ β
  /-- A grammar of functions followed by a grammar of arguments. -/
  | apply {α β : Type} (operand : Grammar τ α) (functions : Grammar τ (α → β)) : Grammar τ β
  | orElse {α : Type} (first second : Grammar τ α) : Grammar τ α
  | many {α : Type} (operand : Grammar τ α) : Grammar τ (List α)
  | protected some {α : Type} (operand : Grammar τ α) : Grammar τ (List α)
  /-- A grammar that is built when it is used. -/
  | lazy {α : Type} (factory : Unit → Grammar τ α) : Grammar τ α
  /-- A reference to a rule. -/
  | reference (rule : ι) : Grammar τ (τ rule)

namespace Grammar

variable {ν ι α : Type} {τ : ι → Type}

/-- The parser that a grammar stands for, given the parsers of the rules. -/
def parser (rules : (rule : ι) → Parser ν (τ rule)) :
    {α : Type} → Grammar τ α → Parser ν α
  | _, .item => Parser.item
  | _, .valueOf value => Parser.valueOf value
  | _, .failure message => Parser.failure message
  | _, .map mapper operand => (operand.parser rules).map mapper
  | _, .satisfyOr test message operand => (operand.parser rules).satisfyOr test message
  | _, .flatMap operand next =>
      (operand.parser rules).flatMap fun value => (next value).parser rules
  | _, .apply operand functions => (operand.parser rules).apply (functions.parser rules)
  | _, .orElse first second => (first.parser rules).orElse (second.parser rules)
  | _, .many operand => (operand.parser rules).many
  | _, .some operand => (operand.parser rules).some
  | _, .lazy factory => Parser.lazy fun _ => (factory ()).parser rules
  | _, .reference rule => Parser.lazy fun _ => rules rule

/-- A grammar that is built when it is used stands for the parser of what is built. -/
@[simp]
theorem parser_lazy
    (rules : (rule : ι) → Parser ν (τ rule)) (factory : Unit → Grammar τ α) :
    (Grammar.lazy factory).parser rules = (factory ()).parser rules :=
  Parser.lazy_eq _

/-- A reference stands for the parser of its rule. -/
@[simp]
theorem parser_reference (rules : (rule : ι) → Parser ν (τ rule)) (rule : ι) :
    (Grammar.reference rule).parser rules = rules rule :=
  Parser.lazy_eq _

end Grammar

/-- A table of rules, each with a grammar for its body. -/
def Rules {ι : Type} (τ : ι → Type) : Type 1 :=
  (rule : ι) → Grammar τ (τ rule)

/-- The parsers of a table of rules, unfolded to a depth. -/
def Rules.parser {ν ι : Type} {τ : ι → Type} (rules : Rules τ) (depth : Nat) (rule : ι) :
    Parser ν (τ rule) :=
  Parser.recursive (fun parsers name => (rules name).parser parsers) depth rule

end ParserAlgebra
