import ParserAlgebra.ParseError

/-!
# Events

What parsers report while they run. A repetition reports how many values it has collected when
it ends, and before that whether it was stopped because nothing was consumed. The parse of a
whole text reports why the text was not accepted. An entry of a log is such an event or a note
that a closure of the grammar has written.
-/

namespace ParserAlgebra

/-- How loud an event is. -/
inductive Level where
  | trace
  | debug
deriving DecidableEq, Repr

/-- The name of a level in a log. -/
def Level.name : Level → String
  | trace => "TRACE"
  | debug => "DEBUG"

/-- What parsers report by themselves. -/
inductive Event where
  /-- A repetition was stopped because its last round consumed nothing. -/
  | noProgress (count : Nat)
  /-- A repetition has ended with so many values. -/
  | repetitionFinished (count : Nat)
  /-- A whole text was rejected. -/
  | rejected (error : ParseError)
  /-- A whole text was accepted only up to a place. -/
  | unconsumed (location : Location)
deriving DecidableEq, Repr

namespace Event

/-- Repetitions report in detail, whole parses report for their user. -/
def level : Event → Level
  | noProgress _ => .trace
  | repetitionFinished _ => .trace
  | rejected _ => .debug
  | unconsumed _ => .debug

/-- The wording of an event. -/
def message : Event → String
  | noProgress _ => "repetition made no progress, stopping"
  | repetitionFinished _ => "repetition finished"
  | rejected _ => "parser rejected input"
  | unconsumed _ => "parser left input unconsumed"

/-- The name and the text of the value that an event carries. -/
def detail : Event → String × String
  | noProgress count => ("count", toString count)
  | repetitionFinished count => ("count", toString count)
  | rejected error => ("error", error.text)
  | unconsumed location => ("loc", location.text)

end Event

/-- One entry of a log, where closures write notes of the type `ν`. -/
inductive Entry (ν : Type) where
  /-- An event that the parsers report by themselves. -/
  | event (event : Event)
  /-- A note of a closure. -/
  | note (note : ν)
deriving DecidableEq, Repr

end ParserAlgebra
