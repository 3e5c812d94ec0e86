import ParserAlgebra.Parser.Basic

/-!
# Delayed and recursive parsers

A delayed parser is built anew each time it is run. Recursive grammars rest on this: the
body of a rule refers to the rules themselves by delayed parsers. How often rules may be unfolded
inside one another is bounded by a depth, and a run that would need more is cut off, so that a
cut-off tells of a lack of depth and of nothing else.
-/

namespace ParserAlgebra.Parser

variable {ν α ι : Type}

/-- Build a parser by a closure with effects when it is run. -/
def lazyM (factory : Unit → Run ν (Parser ν α)) : Parser ν α where
  parse cursor := do
    let parser ← factory ()
    parser.parse cursor

/-- Build a parser when it is run. -/
def lazy (factory : Unit → Parser ν α) : Parser ν α :=
  lazyM fun _ => pure (factory ())

@[simp]
theorem lazy_eq (factory : Unit → Parser ν α) :
    lazy factory = factory () := by
  ext1
  funext cursor
  change (pure (factory ()) >>= fun parser : Parser ν α => parser.parse cursor) = _
  simp

/-- The parser every run of which is cut off. -/
def cutOff : Parser ν α where
  parse _ := Run.cutOff

/-- The parsers of a table of rules, whose bodies may refer to all rules, unfolded to a depth. -/
def recursive {τ : ι → Type}
    (bodies : ((rule : ι) → Parser ν (τ rule)) → (rule : ι) → Parser ν (τ rule)) :
    (depth : Nat) → (rule : ι) → Parser ν (τ rule)
  | 0, _ => cutOff
  | depth + 1, rule => bodies (recursive bodies depth) rule

end ParserAlgebra.Parser
