import ParserAlgebra.Parser.Choice

/-!
# Repetition

A parser is run again and again, each time from where it stopped before. The repetition ends at
the first failure, whose message is lost, or at the first success that does not leave fewer bytes
than before, whose value and place are kept. The second rule lets every repetition end, also
that of a parser that consumes nothing or jumps to another text. At its end a repetition
reports how many values it has, and before that, under the second rule, that it was stopped.
-/

namespace ParserAlgebra.Parser

variable {ν α : Type}

/-- How far a repetition has come. -/
structure Collected (α : Type) where
  /-- The values so far, the latest first. -/
  values : List α
  /-- The place behind the latest value. -/
  cursor : Cursor

namespace Collected

/-- The bytes that a repetition may still consume. -/
def bytesLeft (collected : Collected α) : Nat :=
  collected.cursor.bytesLeft

/-- The end of a repetition: its values, from the first to the latest, and its place. -/
def finish (collected : Collected α) : Run ν (Reply (List α)) := do
  Run.emit (.repetitionFinished collected.values.length)
  pure (.success collected.values.reverse collected.cursor)

/-- The end of a repetition whose latest round consumed nothing. -/
def stop (collected : Collected α) : Run ν (Reply (List α)) := do
  Run.emit (.noProgress collected.values.length)
  collected.finish

end Collected

/-- One more round of a repetition that has not ended. -/
def again (parser : Parser ν α) (collected : Collected α) :
    Run ν (Run.Step Collected.bytesLeft collected (Reply (List α))) := do
  match ← parser.parse collected.cursor with
  | .success value rest =>
      let following : Collected α := ⟨value :: collected.values, rest⟩
      if smaller : collected.cursor.Consumed rest then
        return .next following smaller
      else
        return .last (← following.stop)
  | .failure _ =>
      return .last (← collected.finish)

/-- All rounds of a repetition from where it has come to. -/
def rounds (parser : Parser ν α) (collected : Collected α) : Run ν (Reply (List α)) :=
  Run.iterate Collected.bytesLeft parser.again collected

/-- The rounds of a repetition are one round and, if it consumed something, the rounds after it. -/
theorem rounds_eq (parser : Parser ν α) (values : List α) (cursor : Cursor) :
    parser.rounds ⟨values, cursor⟩ =
      parser.parse cursor >>= fun reply =>
        match reply with
        | .success value rest =>
            if cursor.Consumed rest then
              parser.rounds ⟨value :: values, rest⟩
            else
              Collected.stop ⟨value :: values, rest⟩
        | .failure _ => Collected.finish ⟨values, cursor⟩ := by
  unfold rounds
  rw [Run.iterate_eq]
  simp only [again, bind_assoc]
  congr 1
  funext reply
  cases reply with
  | success value rest =>
      by_cases consumed : cursor.Consumed rest
      · simp only [dif_pos consumed, if_pos consumed, pure_bind]
      · simp only [dif_neg consumed, if_neg consumed, bind_assoc, pure_bind, bind_pure]
  | failure message => simp

/-- The parser once, and then as often as it succeeds and consumes something. It fails if its
first round fails. -/
protected def some (parser : Parser ν α) : Parser ν (List α) where
  parse start := do
    match ← parser.parse start with
    | .success value rest =>
        let first : Collected α := ⟨[value], rest⟩
        if start.Consumed rest then
          parser.rounds first
        else
          first.stop
    | .failure message =>
        pure (.failure message)

theorem parse_some (parser : Parser ν α) (cursor : Cursor) :
    parser.some.parse cursor =
      parser.parse cursor >>= fun reply =>
        match reply with
        | .success value rest =>
            if cursor.Consumed rest then
              parser.rounds ⟨[value], rest⟩
            else
              Collected.stop ⟨[value], rest⟩
        | .failure message => pure (.failure message) :=
  rfl

/-- The parser as often as it succeeds and consumes something, which may be not at all. -/
def many (parser : Parser ν α) : Parser ν (List α) where
  parse cursor :=
    parser.some.parse cursor >>= Reply.orElseM fun _ => pure (.success [] cursor)

theorem parse_many (parser : Parser ν α) (cursor : Cursor) :
    parser.many.parse cursor =
      parser.some.parse cursor >>= Reply.orElseM fun _ => pure (.success [] cursor) :=
  rfl

/-- To take no value is the second choice, where the parser fails at once. -/
theorem many_eq_orElse (parser : Parser ν α) : parser.many = parser.some.orElse (valueOf []) := by
  ext1
  funext cursor
  rw [parse_many, parse_orElse]
  simp only [parse_valueOf]

end ParserAlgebra.Parser
