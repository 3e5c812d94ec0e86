import ParserAlgebra.Proofs.Repetition
import ParserAlgebra.Proofs.Saturation

/-!
# What parsers read

What a parser reads at a place is told by the letters that are left before and behind it. It is
sound there for a language of letters with their values if it comes to a reply, and a success has
read letters of the language with the value that belongs to them; the language of what is read
further on is the language without the letters that have been read already. Conversely it reads up
to a suffix if it succeeds with a given value and leaves just this suffix. There is one lemma for
each operation.
-/

namespace ParserAlgebra

variable {ν α β : Type}

/-! ## Runs that come to a value -/

/-- The run comes to a value, which is as wanted. -/
def Run.Returns (wanted : α → Prop) (run : Run ν α) : Prop :=
  ∃ value, run.ending = .done value ∧ wanted value

theorem Run.Returns.pure {wanted : α → Prop} {value : α} (holds : wanted value) :
    (Pure.pure value : Run ν α).Returns wanted :=
  ⟨value, rfl, holds⟩

theorem Run.Returns.bind
    {middle : α → Prop} {wanted : β → Prop} {run : Run ν α} {next : α → Run ν β}
    (returns : run.Returns middle)
    (continues : ∀ value, middle value → (next value).Returns wanted) :
    (run >>= next).Returns wanted := by
  obtain ⟨value, ending, holds⟩ := returns
  obtain ⟨image, nextEnding, imageHolds⟩ := continues value holds
  refine ⟨image, ?_, imageHolds⟩
  rw [Run.ending_bind, ending]
  exact nextEnding

/-! ## Soundness -/

/-- A success has read letters that belong to the language with its value. -/
def Reply.Within (language : List Char → α → Prop) (letters : List Char) : Reply α → Prop
  | .success value rest => ∃ read, letters = read ++ rest.rest.letters ∧ language read value
  | .failure _ => True

namespace Parser

/-- The parser comes to a reply at the place, and reads only what belongs to the language. -/
def SoundAt (language : List Char → α → Prop) (parser : Parser ν α) (place : Cursor) : Prop :=
  (parser.parse place).Returns (Reply.Within language place.rest.letters)

namespace SoundAt

variable {parser other : Parser ν α} {place : Cursor} {language : List Char → α → Prop}
  {later : List Char → β → Prop}

theorem of_failsAt (fails : parser.FailsAt place) : parser.SoundAt language place := by
  obtain ⟨message, ending⟩ := fails
  exact ⟨.failure message, ending, trivial⟩

theorem mono
    {larger : List Char → α → Prop} (sound : parser.SoundAt language place)
    (implies : ∀ read value, language read value → larger read value) :
    parser.SoundAt larger place := by
  obtain ⟨reply, ending, within⟩ := sound
  refine ⟨reply, ending, ?_⟩
  cases reply with
  | success value rest =>
      obtain ⟨read, split, belongs⟩ := within
      exact ⟨read, split, implies read value belongs⟩
  | failure message => trivial

theorem valueOf {value : α} (belongs : language [] value) :
    (Parser.valueOf value : Parser ν α).SoundAt language place :=
  ⟨.success value place, rfl, [], rfl, belongs⟩

/-- What goes on from a parser reads, with the letters that the parser has read in front, letters of
the later language. -/
theorem andThenM
    {next : α → Cursor → Run ν (Reply β)} (sound : parser.SoundAt language place)
    (continues :
      ∀ read value rest,
        place.rest.letters = read ++ rest.rest.letters →
          language read value →
            (next value rest).Returns
              (Reply.Within (fun behind image => later (read ++ behind) image)
                rest.rest.letters)) :
    (parser.parse place >>= Reply.andThenM next).Returns
      (Reply.Within later place.rest.letters) := by
  apply sound.bind
  intro reply within
  cases reply with
  | success value rest =>
      obtain ⟨read, split, belongs⟩ := within
      obtain ⟨image, ending, imageWithin⟩ := continues read value rest split belongs
      refine ⟨image, ending, ?_⟩
      cases image with
      | success imageValue imageRest =>
          obtain ⟨behind, restSplit, imageBelongs⟩ := imageWithin
          refine ⟨read ++ behind, ?_, imageBelongs⟩
          rw [split, restSplit, List.append_assoc]
      | failure message => trivial
  | failure message => exact Run.Returns.pure trivial

theorem map
    {mapper : α → β} (sound : parser.SoundAt (fun read value => later read (mapper value)) place) :
    (parser.map mapper).SoundAt later place := by
  unfold SoundAt
  rw [parse_map, map_eq_pure_bind]
  apply sound.bind
  intro reply within
  cases reply with
  | success value rest => exact Run.Returns.pure within
  | failure message => exact Run.Returns.pure trivial

theorem flatMap
    {next : α → Parser ν β} (sound : parser.SoundAt language place)
    (continues :
      ∀ read value (rest : Cursor),
        place.rest.letters = read ++ rest.rest.letters →
          language read value →
            (next value).SoundAt (fun behind image => later (read ++ behind) image) rest) :
    (parser.flatMap next).SoundAt later place := by
  unfold SoundAt
  rw [parse_flatMap]
  exact sound.andThenM continues

/-- The functions are read first, and then, behind them, their arguments. -/
theorem apply
    {functions : Parser ν (α → β)} {functionLanguage : List Char → (α → β) → Prop}
    (functionsSound : functions.SoundAt functionLanguage place)
    (argumentsSound :
      ∀ read function (rest : Cursor),
        place.rest.letters = read ++ rest.rest.letters →
          functionLanguage read function →
            parser.SoundAt (fun behind value => later (read ++ behind) (function value)) rest) :
    (parser.apply functions).SoundAt later place := by
  unfold SoundAt
  rw [parse_apply]
  apply functionsSound.andThenM
  intro read function rest split belongs
  rw [← parse_map]
  exact (argumentsSound read function rest split belongs).map

theorem orElse (sound : parser.SoundAt language place) (otherSound : other.SoundAt language place) :
    (parser.orElse other).SoundAt language place := by
  apply sound.bind
  intro reply within
  cases reply with
  | success value rest => exact Run.Returns.pure within
  | failure message => exact otherSound

section Repetition

variable {lists : List Char → List α → Prop} (none : lists [] [])
  (more :
    ∀ read value behind values,
      language read value → lists behind values → lists (read ++ behind) (value :: values))

include none more

/-- What a repetition gathers belongs to a language that may be empty and that grows in front by
what the parser reads. Induction on the bytes that are left, as for the recursion of repetitions. -/
theorem exists_gathered
    (sound :
      ∀ within : Cursor,
        within.rest.letters <:+ place.rest.letters → parser.SoundAt language within) :
    ∃ values rest read,
      parser.gathered place = .done (values, rest) ∧
        place.rest.letters = read ++ rest.rest.letters ∧ lists read values := by
  induction size : place.bytesLeft using Nat.strongRecOn generalizing place with
  | ind bound inductionHypothesis =>
      obtain ⟨reply, ending, within⟩ := sound place List.suffix_rfl
      rw [gathered, ending]
      cases reply with
      | success value rest =>
          obtain ⟨read, split, belongs⟩ := within
          by_cases fewer : place.Consumed rest
          · have soundBehind :
                ∀ within : Cursor,
                  within.rest.letters <:+ rest.rest.letters → parser.SoundAt language within := by
              intro within suffix
              exact sound within (suffix.trans ⟨read, split.symm⟩)
            obtain ⟨values, last, behind, further, splitBehind, belongBehind⟩ :=
              inductionHypothesis rest.bytesLeft (size ▸ fewer) soundBehind rfl
            refine ⟨value :: values, last, read ++ behind, ?_, ?_, ?_⟩
            · simp only [Ending.bind, if_pos fewer, further]
            · rw [split, splitBehind, List.append_assoc]
            · exact more read value behind values belongs belongBehind
          · refine ⟨[value], rest, read, ?_, split, ?_⟩
            · simp only [Ending.bind, if_neg fewer]
            · have single := more read value [] [] belongs none
              rwa [List.append_nil] at single
      | failure message => exact ⟨[], place, [], rfl, rfl, none⟩

theorem many
    (sound :
      ∀ within : Cursor,
        within.rest.letters <:+ place.rest.letters → parser.SoundAt language within) :
    parser.many.SoundAt lists place := by
  obtain ⟨values, rest, read, gathered, split, belongs⟩ := exists_gathered none more sound
  refine ⟨.success values rest, ?_, read, split, belongs⟩
  rw [ending_many, gathered]
  rfl

end Repetition

end SoundAt

/-! ## Failure -/

namespace FailsAt

variable {parser other : Parser ν α} {place : Cursor}

theorem map (fails : parser.FailsAt place) (mapper : α → β) :
    (parser.map mapper).FailsAt place := by
  obtain ⟨message, ending⟩ := fails
  refine ⟨message, ?_⟩
  rw [parse_map, Run.ending_map, ending]
  rfl

theorem flatMap (fails : parser.FailsAt place) (next : α → Parser ν β) :
    (parser.flatMap next).FailsAt place := by
  obtain ⟨message, ending⟩ := fails
  refine ⟨message, ?_⟩
  rw [parse_flatMap, Run.ending_bind, ending]
  rfl

/-- Without a function there is nothing to apply. -/
theorem apply
    {functions : Parser ν (α → β)} (fails : functions.FailsAt place) (parser : Parser ν α) :
    (parser.apply functions).FailsAt place := by
  obtain ⟨message, ending⟩ := fails
  refine ⟨message, ?_⟩
  rw [parse_apply, Run.ending_bind, ending]
  rfl

theorem orElse (fails : parser.FailsAt place) (otherFails : other.FailsAt place) :
    (parser.orElse other).FailsAt place := by
  obtain ⟨message, ending⟩ := fails
  obtain ⟨otherMessage, otherEnding⟩ := otherFails
  refine ⟨otherMessage, ?_⟩
  rw [parse_orElse, Run.ending_bind, ending]
  exact otherEnding

end FailsAt

/-! ## Completeness -/

/-- The parser succeeds at the place with the value and leaves the suffix. -/
def ReadsTo (parser : Parser ν α) (place : Cursor) (value : α) (suffix : List Char) : Prop :=
  ∃ rest,
    (parser.parse place).ending = .done (.success value rest) ∧ rest.rest.letters = suffix

namespace ReadsTo

variable {parser other : Parser ν α} {place : Cursor} {value : α} {suffix : List Char}

theorem valueOf (value : α) (place : Cursor) :
    (Parser.valueOf value : Parser ν α).ReadsTo place value place.rest.letters :=
  ⟨place, rfl, rfl⟩

theorem map (reads : parser.ReadsTo place value suffix) (mapper : α → β) :
    (parser.map mapper).ReadsTo place (mapper value) suffix := by
  obtain ⟨rest, ending, left⟩ := reads
  refine ⟨rest, ?_, left⟩
  rw [parse_map, Run.ending_map, ending]
  rfl

theorem flatMap
    {next : α → Parser ν β} {image : β} {middle : List Char}
    (reads : parser.ReadsTo place value middle)
    (continues :
      ∀ rest : Cursor, rest.rest.letters = middle → (next value).ReadsTo rest image suffix) :
    (parser.flatMap next).ReadsTo place image suffix := by
  obtain ⟨rest, ending, left⟩ := reads
  obtain ⟨last, nextEnding, lastLeft⟩ := continues rest left
  refine ⟨last, ?_, lastLeft⟩
  rw [parse_flatMap, Run.ending_bind, ending]
  exact nextEnding

theorem apply
    {functions : Parser ν (α → β)} {function : α → β} {middle : List Char}
    (functionsRead : functions.ReadsTo place function middle)
    (reads :
      ∀ rest : Cursor, rest.rest.letters = middle → parser.ReadsTo rest value suffix) :
    (parser.apply functions).ReadsTo place (function value) suffix := by
  obtain ⟨rest, ending, left⟩ := functionsRead
  obtain ⟨last, mapEnding, lastLeft⟩ := (reads rest left).map function
  refine ⟨last, ?_, lastLeft⟩
  rw [parse_map] at mapEnding
  rw [parse_apply, Run.ending_bind, ending]
  exact mapEnding

theorem orElse (reads : parser.ReadsTo place value suffix) (other : Parser ν α) :
    (parser.orElse other).ReadsTo place value suffix := by
  obtain ⟨rest, ending, left⟩ := reads
  refine ⟨rest, ?_, left⟩
  rw [parse_orElse, Run.ending_bind, ending]
  rfl

theorem orElse_of_failsAt
    (fails : parser.FailsAt place) (reads : other.ReadsTo place value suffix) :
    (parser.orElse other).ReadsTo place value suffix := by
  obtain ⟨message, failed⟩ := fails
  obtain ⟨rest, ending, left⟩ := reads
  refine ⟨rest, ?_, left⟩
  rw [parse_orElse, Run.ending_bind, failed]
  exact ending

theorem many_nil (fails : parser.FailsAt place) :
    parser.many.ReadsTo place [] place.rest.letters :=
  ⟨place, ending_many_of_failsAt fails, rfl⟩

theorem many_cons
    {values : List α} {middle : List Char} (reads : parser.ReadsTo place value middle)
    (shorter : utf8Length middle < utf8Length place.rest.letters)
    (readsBehind :
      ∀ rest : Cursor, rest.rest.letters = middle → parser.many.ReadsTo rest values suffix) :
    parser.many.ReadsTo place (value :: values) suffix := by
  obtain ⟨rest, ending, left⟩ := reads
  obtain ⟨last, manyEnding, lastLeft⟩ := readsBehind rest left
  refine ⟨last, ?_, lastLeft⟩
  have fewer : place.Consumed rest := by
    rw [Cursor.Consumed, Cursor.bytesLeft_eq, Cursor.bytesLeft_eq, left]
    exact shorter
  rw [ending_many] at manyEnding
  obtain ⟨found, further, image⟩ := Ending.exists_of_bind_eq_done manyEnding
  cases image
  rw [ending_many, gathered, ending]
  simp only [Ending.bind, if_pos fewer, further]

/-- To succeed with what belongs to the language is sound. -/
theorem soundAt
    {language : List Char → α → Prop} {read : List Char} (reads : parser.ReadsTo place value suffix)
    (split : place.rest.letters = read ++ suffix) (belongs : language read value) :
    parser.SoundAt language place := by
  obtain ⟨rest, ending, left⟩ := reads
  rw [← left] at split
  exact ⟨.success value rest, ending, read, split, belongs⟩

end ReadsTo

end Parser

end ParserAlgebra
