import ParserAlgebra.Parser.Basic

/-!
# Calls that can be seen

How often a parser is run, and from where, shows in no reply. It shows in the log once the parser
is announced, that is, once it writes a note before each of its runs: the note may tell the place
from which the run begins, and where several parsers are announced, which of them it is. What is
called in a run is therefore stated by the log of the run with its parsers announced.
-/

namespace ParserAlgebra

variable {ν α β : Type}

/-! ## Going on from a run of which the ending is known -/

namespace Run

theorem bind_of_done
    {run : Run ν α} {value : α} (ending : run.ending = .done value) (next : α → Run ν β) :
    run >>= next = ⟨run.log ++ (next value).log, (next value).ending⟩ := by
  obtain ⟨log, _⟩ := run
  cases ending
  exact done_bind log value next

theorem bind_of_aborted
    {run : Run ν α} {message : String} (ending : run.ending = .aborted message)
    (next : α → Run ν β) :
    run >>= next = ⟨run.log, .aborted message⟩ := by
  obtain ⟨log, _⟩ := run
  cases ending
  exact aborted_bind log message next

theorem bind_of_cutOff
    {run : Run ν α} (ending : run.ending = .cutOff) (next : α → Run ν β) :
    run >>= next = ⟨run.log, .cutOff⟩ := by
  obtain ⟨log, _⟩ := run
  cases ending
  exact cutOff_bind log next

end Run

/-! ## Announced parsers -/

namespace Parser

/-- The parser, with a note of the place before each of its runs. -/
def announced (mark : Cursor → ν) (parser : Parser ν α) : Parser ν α where
  parse cursor := do
    Run.note (mark cursor)
    parser.parse cursor

@[simp]
theorem log_parse_announced (mark : Cursor → ν) (parser : Parser ν α) (cursor : Cursor) :
    ((parser.announced mark).parse cursor).log =
      .note (mark cursor) :: (parser.parse cursor).log :=
  rfl

@[simp]
theorem ending_parse_announced (mark : Cursor → ν) (parser : Parser ν α) (cursor : Cursor) :
    ((parser.announced mark).parse cursor).ending = (parser.parse cursor).ending :=
  rfl

/-- The parser, run from the place, answers that it fails. -/
def FailsAt (parser : Parser ν α) (cursor : Cursor) : Prop :=
  ∃ message, (parser.parse cursor).ending = .done (.failure message)

theorem failsAt_announced_iff (mark : Cursor → ν) (parser : Parser ν α) (cursor : Cursor) :
    (parser.announced mark).FailsAt cursor ↔ parser.FailsAt cursor := by
  simp [FailsAt]

end Parser

end ParserAlgebra
