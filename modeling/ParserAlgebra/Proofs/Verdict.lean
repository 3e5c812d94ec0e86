import ParserAlgebra.Parser.Whole
import ParserAlgebra.Proofs.Consumption
import ParserAlgebra.Proofs.Locations
import ParserAlgebra.Proofs.PositionIndependence
import ParserAlgebra.Proofs.Rounds

/-!
# The verdict on a whole text

The parser of a grammar goes forward in the text, so that a success has consumed some letters at
the start of it and left the others. If it has left none the text is accepted; if it has, they are
given back together with the location of the first of them, which is that of the end of the
consumed ones; and if the parser fails the text is rejected with its message. An error is reported
once, by an event for the user; all that grammars report by themselves is in detail.
-/

namespace ParserAlgebra

/-! ## What grammars report -/

/-- Everything that the run writes is an event, reported in detail. -/
def Run.Detailed {ν α : Type} (run : Run ν α) : Prop :=
  ∀ entry ∈ run.log, ∃ event : Event, entry = .event event ∧ event.level = .trace

/-- From every place the parser writes nothing but events in detail. -/
def Parser.Detailed {ν α : Type} (parser : Parser ν α) : Prop :=
  ∀ cursor, (parser.parse cursor).Detailed

section Details

variable {ν ι α β : Type} {τ : ι → Type}

theorem Run.detailed_of_log_eq_nil {run : Run ν α} (nothing : run.log = []) :
    run.Detailed := by
  intro entry member
  simp [nothing] at member

theorem Run.Detailed.bind
    {run : Run ν α} {next : α → Run ν β} (detailed : run.Detailed)
    (nexts : ∀ value, (next value).Detailed) :
    (run >>= next).Detailed := by
  cases ending : run.ending with
  | done value =>
      rw [Run.bind_of_done ending]
      intro entry member
      rcases List.mem_append.1 member with before | after
      · exact detailed entry before
      · exact nexts value entry after
  | aborted message =>
      rw [Run.bind_of_aborted ending]
      exact detailed
  | cutOff =>
      rw [Run.bind_of_cutOff ending]
      exact detailed

namespace Parser.Detailed

variable {parser : Parser ν α}

theorem item : (Parser.item : Parser ν Char).Detailed := by
  intro cursor
  rw [parse_item]
  cases cursor.next? with
  | none => exact Run.detailed_of_log_eq_nil rfl
  | some found => exact Run.detailed_of_log_eq_nil rfl

theorem andThenM
    {next : α → Cursor → Run ν (Reply β)} (detailed : parser.Detailed)
    (nexts : ∀ value rest, (next value rest).Detailed) (cursor : Cursor) :
    (parser.parse cursor >>= Reply.andThenM next).Detailed := by
  apply (detailed cursor).bind
  intro reply
  cases reply with
  | success value rest => exact nexts value rest
  | failure message => exact Run.detailed_of_log_eq_nil rfl

theorem map (detailed : parser.Detailed) (mapper : α → β) : (parser.map mapper).Detailed := by
  intro cursor
  rw [parse_map, map_eq_pure_bind]
  apply (detailed cursor).bind
  intro reply
  exact Run.detailed_of_log_eq_nil rfl

theorem satisfyOr (detailed : parser.Detailed) (test : α → Bool) (message : String) :
    (parser.satisfyOr test message).Detailed := by
  intro cursor
  rw [parse_satisfyOr]
  apply detailed.andThenM
  intro value rest
  exact Run.detailed_of_log_eq_nil rfl

theorem flatMap
    {next : α → Parser ν β} (detailed : parser.Detailed)
    (nexts : ∀ value, (next value).Detailed) :
    (parser.flatMap next).Detailed := by
  intro cursor
  rw [parse_flatMap]
  apply detailed.andThenM
  intro value rest
  exact nexts value rest

theorem apply
    {functions : Parser ν (α → β)} (detailed : parser.Detailed)
    (functionsDetailed : functions.Detailed) :
    (parser.apply functions).Detailed := by
  intro cursor
  rw [parse_apply]
  apply functionsDetailed.andThenM
  intro function rest
  have mapped := detailed.map function rest
  rwa [parse_map] at mapped

theorem orElse
    {first second : Parser ν α} (firstDetailed : first.Detailed)
    (secondDetailed : second.Detailed) :
    (first.orElse second).Detailed := by
  intro cursor
  rw [parse_orElse]
  apply (firstDetailed cursor).bind
  intro reply
  cases reply with
  | success value rest => exact Run.detailed_of_log_eq_nil rfl
  | failure message => exact secondDetailed cursor

/-- A repetition writes what its calls write, and its own reports. -/
theorem some (detailed : parser.Detailed) : parser.some.Detailed := by
  intro cursor entry member
  obtain ⟨rounds, last, progress, stops⟩ := parser.exists_progress cursor
  obtain ⟨reports, reportsEq, inDetail⟩ :=
    exists_reports_of_closing (ν := ν) (rounds.map Round.value) last (parser.parse last).ending
  rw [parse_some_of_progress progress stops, assembled, reportsEq] at member
  rcases List.mem_append.1 member with byCall | byRepetition
  · obtain ⟨place, _, written⟩ := List.mem_flatMap.1 byCall
    exact detailed place entry written
  · obtain ⟨report, reported, same⟩ := List.mem_map.1 byRepetition
    exact ⟨report, same.symm, inDetail report reported⟩

theorem many (detailed : parser.Detailed) : parser.many.Detailed := by
  intro cursor entry member
  rw [log_parse_many] at member
  exact detailed.some cursor entry member

end Parser.Detailed

theorem Grammar.detailed
    {rules : (rule : ι) → Parser ν (τ rule)} (rulesDetailed : ∀ rule, (rules rule).Detailed)
    (grammar : Grammar τ α) :
    (grammar.parser rules).Detailed := by
  induction grammar with
  | item => exact .item
  | valueOf value => exact fun _ => Run.detailed_of_log_eq_nil rfl
  | failure message => exact fun _ => Run.detailed_of_log_eq_nil rfl
  | map mapper _ operand => exact operand.map mapper
  | satisfyOr test message _ operand => exact operand.satisfyOr test message
  | flatMap _ _ operand next => exact operand.flatMap next
  | apply _ _ operand functions => exact operand.apply functions
  | orElse _ _ first second => exact first.orElse second
  | many _ operand => exact operand.many
  | some _ operand => exact operand.some
  | lazy _ built =>
      rw [parser_lazy]
      exact built ()
  | reference rule =>
      rw [parser_reference]
      exact rulesDetailed rule

theorem Rules.detailed (rules : Rules τ) (depth : Nat) (rule : ι) :
    (rules.parser depth rule : Parser ν (τ rule)).Detailed := by
  induction depth generalizing rule with
  | zero => exact fun _ => Run.detailed_of_log_eq_nil rfl
  | succ depth inductionHypothesis => exact (rules rule).detailed inductionHypothesis

end Details

/-! ## What a parser consumes of a text -/

/-- On the text the parser comes to the value, for which it passes the given letters. -/
def Parser.Consumes {ν α : Type}
    (parser : Parser ν α) (text : String) (letters : List Char) (value : α) : Prop :=
  ∃ rest,
    (parser.parseText text).ending = .done (.success value rest) ∧
      (Cursor.ofText text).Passes letters rest

namespace Cursor.Passes

variable {text : String} {letters : List Char} {rest : Cursor}

theorem ofText_eq_append (passes : (ofText text).Passes letters rest) :
    text = String.ofList letters ++ rest.text := by
  have startText : (ofText text).text = text := String.ofList_toList
  rw [← passes.text_eq_append, startText]

theorem location_eq (passes : (ofText text).Passes letters rest) :
    rest.location = Location.after letters := by
  have passed : rest.passed.letters = letters.reverse ++ [] := passes.passed_eq
  rw [location, passed, List.append_nil, List.reverse_reverse]

theorem text_eq_empty_iff (passes : (ofText text).Passes letters rest) :
    rest.text = "" ↔ letters = text.toList := by
  have split : text.toList = letters ++ rest.rest.letters := passes.left_eq
  rw [Cursor.text, String.ofList_eq_empty_iff, split]
  simp

end Cursor.Passes

/-! ## The verdict -/

/-- What is said of a whole text for which the parser has given the reply. -/
def Reply.verdict {α : Type} : Reply α → Except ParseError α
  | .success value rest =>
      if rest.isEmpty then .ok value else .error (.trailing rest.location rest.text)
  | .failure message => .error (.failed message)

/-- What is reported along with a verdict. -/
def ParseError.reports {α : Type} : Except ParseError α → List Event
  | .ok _ => []
  | .error (.failed message) => [.rejected (.failed message)]
  | .error (.trailing location _) => [.unconsumed location]

theorem Reply.verdict_eq_ok_iff {α : Type} (value other : α) (rest : Cursor) :
    (Reply.success value rest).verdict = .ok other ↔ rest.text = "" ∧ value = other := by
  rw [← Cursor.isEmpty_iff_text]
  by_cases atEnd : rest.isEmpty = true
  · simp [verdict, atEnd]
  · simp [verdict, atEnd]

theorem Reply.verdict_eq_trailing_iff {α : Type}
    (value : α) (rest : Cursor) (location : Location) (remaining : String) :
    (Reply.success value rest).verdict = .error (.trailing location remaining) ↔
      rest.text ≠ "" ∧ rest.location = location ∧ rest.text = remaining := by
  rw [Ne, ← Cursor.isEmpty_iff_text]
  by_cases atEnd : rest.isEmpty = true
  · simp [verdict, atEnd]
  · simp [verdict, atEnd]

theorem Reply.verdict_ne_failed {α : Type} (value : α) (rest : Cursor) (message : String) :
    (Reply.success value rest).verdict ≠ .error (.failed message) := by
  by_cases atEnd : rest.isEmpty = true
  · simp [verdict, atEnd]
  · simp [verdict, atEnd]

theorem Parser.parseAll_of_done
    {ν α : Type} {parser : Parser ν α} {text : String} {reply : Reply α}
    (ending : (parser.parseText text).ending = .done reply) :
    parser.parseAll text =
      ⟨(parser.parseText text).log ++ (ParseError.reports reply.verdict).map .event,
        .done reply.verdict⟩ := by
  rw [parseAll, Run.bind_of_done ending]
  cases reply with
  | success value rest =>
      by_cases atEnd : rest.isEmpty = true
      · simp [Reply.toExcept, Reply.verdict, ParseError.reports, atEnd]
      · simp only [Reply.toExcept, Reply.verdict, ParseError.reports, if_neg atEnd]
        rfl
  | failure message => rfl

/-- The verdict says exactly what the parser has done with the text: that it has consumed all of it,
that it has failed, or where it has stopped and what it has left. It is given after everything that
the parser writes, with one event for the user if it is an error, and with none if it is not. -/
structure Parser.Judges {ν α : Type}
    (parser : Parser ν α) (text : String) (verdict : Except ParseError α) : Prop where
  ending_eq : (parser.parseAll text).ending = .done verdict
  accepted_iff : ∀ value, verdict = .ok value ↔ parser.Consumes text text.toList value
  rejected_iff :
    ∀ message,
      verdict = .error (.failed message) ↔
        (parser.parseText text).ending = .done (.failure message)
  unconsumed_iff :
    ∀ location rest,
      verdict = .error (.trailing location rest) ↔
        ∃ value letters,
          parser.Consumes text letters value ∧
            text = String.ofList letters ++ rest ∧
            rest ≠ "" ∧
            Location.IsBehind letters location ∧
            location.position + rest.length = text.length
  log_eq :
    (parser.parseAll text).log =
      (parser.parseText text).log ++ (ParseError.reports verdict).map .event
  ownEvents : ∀ entry ∈ (parser.parseText text).log,
    ∃ event : Event, entry = .event event ∧ event.level = .trace
  reports_debug : ∀ report ∈ ParseError.reports verdict, report.level = .debug

namespace Parser

variable {ν ι α : Type} {τ : ι → Type} {parser : Parser ν α} {text : String}

theorem reports_debug (verdict : Except ParseError α) :
    ∀ report ∈ ParseError.reports verdict, report.level = .debug := by
  rcases verdict with (message | ⟨location, rest⟩) | value
  · simp [ParseError.reports, Event.level]
  · simp [ParseError.reports, Event.level]
  · simp [ParseError.reports]

theorem judges_of_failure
    {message : String} (detailed : parser.Detailed)
    (ending : (parser.parseText text).ending = .done (.failure message)) :
    parser.Judges text (.error (.failed message)) where
  ending_eq := by
    rw [parseAll_of_done ending]
    rfl
  accepted_iff := by
    intro value
    simp [Consumes, ending]
  rejected_iff := by
    intro other
    simp [ending]
  unconsumed_iff := by
    intro location rest
    simp [Consumes, ending]
  log_eq := by
    rw [parseAll_of_done ending]
    rfl
  ownEvents := detailed (Cursor.ofText text)
  reports_debug := reports_debug _

theorem consumes_iff
    {value : α} {rest : Cursor} {letters : List Char}
    (ending : (parser.parseText text).ending = .done (.success value rest))
    (passes : (Cursor.ofText text).Passes letters rest) (others : List Char) (other : α) :
    parser.Consumes text others other ↔ other = value ∧ others = letters := by
  constructor
  · rintro ⟨place, otherEnding, otherPasses⟩
    rw [ending] at otherEnding
    cases otherEnding
    exact ⟨rfl, passes.letters_unique otherPasses⟩
  · rintro ⟨rfl, rfl⟩
    exact ⟨rest, ending, passes⟩

theorem judges_of_success
    {value : α} {rest : Cursor} {letters : List Char} (detailed : parser.Detailed)
    (ending : (parser.parseText text).ending = .done (.success value rest))
    (passes : (Cursor.ofText text).Passes letters rest) :
    parser.Judges text (Reply.success value rest).verdict where
  ending_eq := by
    rw [parseAll_of_done ending]
  accepted_iff := by
    intro other
    rw [Reply.verdict_eq_ok_iff, passes.text_eq_empty_iff, consumes_iff ending passes]
    constructor
    · rintro ⟨all, same⟩
      exact ⟨same.symm, all.symm⟩
    · rintro ⟨same, all⟩
      exact ⟨all.symm, same.symm⟩
  rejected_iff := by
    intro message
    have notFailed := Reply.verdict_ne_failed value rest message
    simp [notFailed, ending]
  unconsumed_iff := by
    intro location remaining
    rw [Reply.verdict_eq_trailing_iff]
    constructor
    · rintro ⟨nonempty, rfl, rfl⟩
      have split : text = String.ofList letters ++ rest.text := passes.ofText_eq_append
      have behind : Location.IsBehind letters rest.location :=
        (Location.isBehind_iff letters rest.location).2 passes.location_eq
      have lengths : rest.location.position + rest.text.length = text.length := by
        rw [behind.position_eq, split, String.length_append, String.length_ofList]
      exact ⟨value, letters, ⟨rest, ending, passes⟩, split, nonempty, behind, lengths⟩
    · rintro ⟨other, others, consumes, split, nonempty, behind, _⟩
      obtain ⟨_, rfl⟩ := (consumes_iff ending passes others other).1 consumes
      have sameLocation : rest.location = location := by
        rw [passes.location_eq, (Location.isBehind_iff others location).1 behind]
      have sameText : rest.text = remaining := by
        rw [passes.ofText_eq_append] at split
        exact (String.append_right_inj _).1 split
      exact ⟨sameText ▸ nonempty, sameLocation, sameText⟩
  log_eq := by
    rw [parseAll_of_done ending]
  ownEvents := detailed (Cursor.ofText text)
  reports_debug := reports_debug _

end Parser

/-- The verdict on a whole text by the parser of a grammar, over rules unfolded to any depth, says
exactly what the parser has done with the text, if its run on the text ends. -/
theorem verdict_of_grammar
    {ν ι α : Type} {τ : ι → Type} (rules : Rules τ) (depth : Nat) (grammar : Grammar τ α)
    (text : String)
    (ends : ((grammar.parser (rules.parser depth) : Parser ν α).parseText text).ending ≠ .cutOff) :
    ∃ verdict, (grammar.parser (rules.parser depth) : Parser ν α).Judges text verdict := by
  have detailed : (grammar.parser (rules.parser depth) : Parser ν α).Detailed :=
    grammar.detailed (rules.detailed depth)
  have composed : (grammar.parser (rules.parser depth) : Parser ν α).Composed :=
    grammar.composed (rules.composed depth)
  have safe := composed.goesForward (Cursor.ofText text)
  cases ending :
      ((grammar.parser (rules.parser depth) : Parser ν α).parseText text).ending with
  | done reply =>
      cases reply with
      | success value rest =>
          obtain ⟨letters, passes, _⟩ := safe.of_done ending
          exact ⟨_, Parser.judges_of_success detailed ending passes⟩
      | failure message => exact ⟨_, Parser.judges_of_failure detailed ending⟩
  | aborted message => exact False.elim (safe.unaborted message ending)
  | cutOff => exact absurd ending ends

/-- Three letters of two lines are read up to the stop, which is left. -/
theorem verdict_of_grammar_lettersToStop :
    (((Grammar.reference ()).parser (lettersToStop.parser 4) :
        Parser Unit (List Char)).parseText "é\n𝄞.").ending ≠ .cutOff ∧
    ((Grammar.reference ()).parser (lettersToStop.parser 4) : Parser Unit (List Char)).Judges
      "é\n𝄞." (.error (.trailing ⟨2, 1, 3⟩ ".")) := by
  have ends :
      (((Grammar.reference ()).parser (lettersToStop.parser 4) :
        Parser Unit (List Char)).parseText "é\n𝄞.").ending ≠ .cutOff := by
    decide +kernel
  have unconsumed :
      (((Grammar.reference ()).parser (lettersToStop.parser 4) :
        Parser Unit (List Char)).parseAll "é\n𝄞.").ending =
          .done (.error (.trailing ⟨2, 1, 3⟩ ".")) := by
    decide +kernel
  obtain ⟨verdict, judges⟩ := verdict_of_grammar lettersToStop 4 (.reference ()) "é\n𝄞." ends
  rw [judges.ending_eq] at unconsumed
  cases unconsumed
  exact ⟨ends, judges⟩

end ParserAlgebra
