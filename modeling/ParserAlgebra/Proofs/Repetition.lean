import ParserAlgebra.Parser.Repetition
import ParserAlgebra.Parser.Sequence
import ParserAlgebra.Proofs.Passing

/-!
# Repetition as recursion

A repetition is run as a loop that collects values from the latest to the first. Its meaning is
recursive: run the parser, and if it consumed something, put its value in front of what the rest
of the text brings. `Parser.gathered` is that recursion, which cannot fail; the loop, and with it
`some` and `many`, end exactly as it does. Only the ways in which runs end are compared here, as
the events of a loop count all of its values.
-/

namespace ParserAlgebra

namespace Parser

variable {ν α : Type}

/-! ## The recursion -/

/-- The values that a repetition brings from a place on, and the place that it comes to. -/
def gathered (parser : Parser ν α) (cursor : Cursor) : Ending (List α × Cursor) :=
  (parser.parse cursor).ending.bind fun reply =>
    match reply with
    | .success value rest =>
        if cursor.Consumed rest then
          (gathered parser rest).bind fun found => .done (value :: found.1, found.2)
        else
          .done ([value], rest)
    | .failure _ => .done ([], cursor)
termination_by cursor.bytesLeft

/-! ## The loop -/

/-- The values that were collected before the loop come first; induction on the bytes that are
left, since the values change from round to round. -/
theorem ending_rounds (parser : Parser ν α) (values : List α) (cursor : Cursor) :
    (parser.rounds ⟨values, cursor⟩).ending =
      (parser.gathered cursor).bind fun found =>
        .done (.success (values.reverse ++ found.1) found.2) := by
  induction size : cursor.bytesLeft using Nat.strongRecOn generalizing values cursor with
  | ind bound inductionHypothesis =>
      rw [rounds_eq, gathered, Run.ending_bind, Ending.bind_assoc]
      congr 1
      funext reply
      cases reply with
      | success value rest =>
          by_cases fewer : cursor.Consumed rest
          · have smaller : rest.bytesLeft < bound := size ▸ fewer
            have further :
                (parser.rounds ⟨value :: values, rest⟩).ending =
                  (parser.gathered rest).bind fun found =>
                    .done (.success ((value :: values).reverse ++ found.1) found.2) :=
              inductionHypothesis rest.bytesLeft smaller (value :: values) rest rfl
            simp only [if_pos fewer]
            rw [further, Ending.bind_assoc]
            simp only [List.reverse_cons, List.append_assoc, List.singleton_append, Ending.bind]
          · simp only [if_neg fewer]
            change Ending.done (Reply.success (value :: values).reverse rest) = _
            rw [List.reverse_cons]
            rfl
      | failure message =>
          change _ = Ending.done (Reply.success (values.reverse ++ []) cursor)
          rw [List.append_nil]
          rfl

theorem ending_some (parser : Parser ν α) (cursor : Cursor) :
    (parser.some.parse cursor).ending =
      (parser.parse cursor).ending.bind fun reply =>
        match reply with
        | .success value rest =>
            if cursor.Consumed rest then
              (parser.gathered rest).bind fun found =>
                .done (.success (value :: found.1) found.2)
            else
              .done (.success [value] rest)
        | .failure message => .done (.failure message) := by
  rw [parse_some, Run.ending_bind]
  congr 1
  funext reply
  cases reply with
  | success value rest =>
      by_cases fewer : cursor.Consumed rest
      · simp only [if_pos fewer]
        exact parser.ending_rounds [value] rest
      · simp only [if_neg fewer]
        rfl
  | failure message => rfl

theorem ending_many (parser : Parser ν α) (cursor : Cursor) :
    (parser.many.parse cursor).ending =
      (parser.gathered cursor).bind fun found => .done (.success found.1 found.2) := by
  rw [parse_many, Run.ending_bind, ending_some, gathered, Ending.bind_assoc, Ending.bind_assoc]
  congr 1
  funext reply
  cases reply with
  | success value rest =>
      by_cases fewer : cursor.Consumed rest
      · simp only [if_pos fewer]
        rw [Ending.bind_assoc, Ending.bind_assoc]
        rfl
      · simp only [if_neg fewer]
        rfl
  | failure message => rfl

/-! ## Parsers that always answer -/

/-- What a parser that always answers brings can be gathered, however its places are related. -/
theorem exists_gathered
    {parser : Parser ν α} {answer : Cursor → Reply α}
    (answers : ∀ cursor, (parser.parse cursor).ending = .done (answer cursor))
    (cursor : Cursor) :
    ∃ found, parser.gathered cursor = .done found := by
  induction size : cursor.bytesLeft using Nat.strongRecOn generalizing cursor with
  | ind bound inductionHypothesis =>
      rw [gathered, answers]
      cases outcome : answer cursor with
      | success value rest =>
          by_cases fewer : cursor.Consumed rest
          · have smaller : rest.bytesLeft < bound := size ▸ fewer
            obtain ⟨found, further⟩ := inductionHypothesis rest.bytesLeft smaller rest rfl
            refine ⟨(value :: found.1, found.2), ?_⟩
            simp only [Ending.bind, if_pos fewer, further]
          · refine ⟨([value], rest), ?_⟩
            simp only [Ending.bind, if_neg fewer]
      | failure message => exact ⟨([], cursor), rfl⟩

/-- For a parser that always answers, wherever its successes lead, repetition is recursion: `some`
fails where the parser fails, stops with one value where the parser does not shorten the text,
and otherwise puts the value in front of what `many` brings from the rest; `many` is `some` or
else nothing, and succeeds everywhere. -/
theorem some_many_recursion
    {parser : Parser ν α} {answer : Cursor → Reply α}
    (answers : ∀ cursor, (parser.parse cursor).ending = .done (answer cursor))
    (cursor : Cursor) :
    (∀ message, answer cursor = .failure message →
      (parser.some.parse cursor).ending = .done (.failure message)) ∧
    (∀ value rest, answer cursor = .success value rest →
      cursor.bytesLeft ≤ rest.bytesLeft →
        (parser.some.parse cursor).ending = .done (.success [value] rest)) ∧
    (∀ value rest, answer cursor = .success value rest →
      rest.bytesLeft < cursor.bytesLeft →
        ∃ values last,
          (parser.many.parse rest).ending = .done (.success values last) ∧
            (parser.some.parse cursor).ending = .done (.success (value :: values) last)) ∧
    parser.many.parse cursor = (parser.some.orElse (valueOf [])).parse cursor ∧
    (∃ values last, (parser.many.parse cursor).ending = .done (.success values last)) ∧
    ((∀ place value rest, answer place = .success value rest →
        rest.bytesLeft < place.bytesLeft) →
      (parser.some.parse cursor).ending =
        ((parser.flatMap fun value =>
          parser.many.map fun values => [value] ++ values).parse cursor).ending) := by
  have someEnding := parser.ending_some cursor
  have manyEnding := parser.ending_many
  rw [answers] at someEnding
  have manyOfSome :
      parser.many.parse cursor = (parser.some.orElse (valueOf [])).parse cursor := by
    rw [many_eq_orElse]
  refine ⟨?_, ?_, ?_, manyOfSome, ?_, ?_⟩
  · intro message failed
    rw [someEnding, failed]
    rfl
  · intro value rest succeeded notFewer
    rw [someEnding, succeeded]
    exact if_neg (Nat.not_lt.2 notFewer)
  · intro value rest succeeded fewer
    obtain ⟨found, further⟩ := exists_gathered answers rest
    have manyOfRest :
        (parser.many.parse rest).ending = .done (.success found.1 found.2) := by
      rw [manyEnding, further]
      rfl
    have someOfStart :
        (parser.some.parse cursor).ending = .done (.success (value :: found.1) found.2) := by
      rw [someEnding, succeeded]
      simp only [Ending.bind, if_pos fewer, further]
    exact ⟨found.1, found.2, manyOfRest, someOfStart⟩
  · obtain ⟨found, all⟩ := exists_gathered answers cursor
    have succeeds :
        (parser.many.parse cursor).ending = .done (.success found.1 found.2) := by
      rw [manyEnding, all]
      rfl
    exact ⟨found.1, found.2, succeeds⟩
  · intro shortens
    rw [someEnding, parse_flatMap, Run.ending_bind, answers]
    cases outcome : answer cursor with
    | success value rest =>
        have fewer : cursor.Consumed rest :=
          shortens cursor value rest outcome
        simp only [Ending.bind, Reply.andThenM, if_pos fewer, parse_map, Run.ending_map]
        rw [manyEnding]
        cases parser.gathered rest <;> rfl
    | failure message => rfl

/-- The next letter always answers and shortens the text, and a step into another text answers
too, but there the number of bytes decides. -/
theorem some_many_recursion_of_letters_and_jumps :
    ((item : Parser Unit Char).some.parse (Cursor.ofText "é𝄞")).ending =
        (((item : Parser Unit Char).flatMap fun value =>
          item.many.map fun values => [value] ++ values).parse (Cursor.ofText "é𝄞")).ending ∧
      (∃ values last,
        ((ofReply fun cursor => .success cursor.offset (Cursor.ofText "ab") :
            Parser Unit Nat).many.parse (Cursor.ofText "ab")).ending =
          .done (.success values last) ∧
        ((ofReply fun cursor => .success cursor.offset (Cursor.ofText "ab") :
            Parser Unit Nat).some.parse (Cursor.ofText "longer")).ending =
          .done (.success (0 :: values) last)) := by
  constructor
  · have letters :
        ∀ cursor, ((item : Parser Unit Char).parse cursor).ending =
          .done (cursor.next?.elim (.failure noInput) fun found =>
            .success found.1 found.2) := by
      intro cursor
      rw [parse_item]
      cases cursor.next? <;> rfl
    have shortens :
        ∀ (place : Cursor) (value : Char) (rest : Cursor),
          (place.next?.elim (.failure noInput) fun found => .success found.1 found.2) =
              Reply.success value rest →
            place.Consumed rest := by
      intro place value rest succeeded
      cases step : place.next? with
      | none =>
          rw [step] at succeeded
          cases succeeded
      | some found =>
          rw [step] at succeeded
          cases succeeded
          have passes : place.Passes [found.1] found.2 := Cursor.Passes.of_next? step
          exact passes.consumed_iff.2 (List.cons_ne_nil _ _)
    have parts := some_many_recursion letters (Cursor.ofText "é𝄞")
    exact parts.2.2.2.2.2 shortens
  · have jumps :
        ∀ cursor,
          ((ofReply fun place => .success place.offset (Cursor.ofText "ab") :
              Parser Unit Nat).parse cursor).ending =
            .done (.success cursor.offset (Cursor.ofText "ab")) :=
      fun _ => rfl
    have parts := some_many_recursion jumps (Cursor.ofText "longer")
    exact parts.2.2.1 0 (Cursor.ofText "ab") rfl (by decide)

end Parser

end ParserAlgebra
