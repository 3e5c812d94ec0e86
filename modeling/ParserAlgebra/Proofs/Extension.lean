import ParserAlgebra.Parser.Whole
import ParserAlgebra.Proofs.Watching

/-!
# Longer texts

A parser that has not asked for a letter at the end of its text cannot know that the text ended
there. If more text follows, then it runs in the same way, with the same log and the same reply but
for the letters that are left over. That no letter was asked for at the end is a condition on the
whole run, also on what was tried and given up again: it is read off the complaints of the watched
parser, since the next letter is the only operation that can run out of letters.
-/

namespace ParserAlgebra

/-! ## Places in a longer text -/

/-- The same letters have been passed, and at the second place more letters are left. -/
structure Cursor.ExtendedBy (more : List Char) (short long : Cursor) : Prop where
  passed_eq : long.passed = short.passed
  rest_eq : long.rest.letters = short.rest.letters ++ more

namespace Cursor.ExtendedBy

variable {more : List Char} {short long : Cursor}

theorem ofText (text more : String) :
    ExtendedBy more.toList (Cursor.ofText text) (Cursor.ofText (text ++ more)) :=
  ⟨rfl, String.toList_append⟩

theorem offset_eq (extended : ExtendedBy more short long) : long.offset = short.offset := by
  rw [Cursor.offset_eq, Cursor.offset_eq, extended.passed_eq]

theorem text_eq {more : String} (extended : ExtendedBy more.toList short long) :
    long.text = short.text ++ more := by
  rw [Cursor.text, Cursor.text, extended.rest_eq, String.ofList_append, String.ofList_toList]

theorem bytesLeft_eq (extended : ExtendedBy more short long) :
    long.bytesLeft = short.bytesLeft + utf8Length more := by
  rw [Cursor.bytesLeft_eq, Cursor.bytesLeft_eq, extended.rest_eq, utf8Length_append]

theorem progressTogether : Cursor.ProgressTogether (ExtendedBy more) := by
  intro short long shortRest longRest starts rests
  have before : long.bytesLeft = short.bytesLeft + utf8Length more := starts.bytesLeft_eq
  have after : longRest.bytesLeft = shortRest.bytesLeft + utf8Length more := rests.bytesLeft_eq
  omega

theorem next?
    {shortRest : Cursor} {letter : Char} (extended : ExtendedBy more short long)
    (moved : short.next? = some (letter, shortRest)) :
    ∃ longRest, long.next? = some (letter, longRest) ∧ ExtendedBy more shortRest longRest := by
  have shortLetters : short.rest.letters = letter :: shortRest.rest.letters :=
    ((next?_eq_some_iff _ _ _).1 moved).1
  have shortPassed : shortRest.passed.letters = letter :: short.passed.letters :=
    ((next?_eq_some_iff _ _ _).1 moved).2
  have longLetters : long.rest.letters = letter :: (shortRest.rest.letters ++ more) := by
    rw [extended.rest_eq, shortLetters, List.cons_append]
  refine ⟨⟨shortRest.passed, Segment.ofList (shortRest.rest.letters ++ more)⟩, ?_, rfl, rfl⟩
  rw [next?_eq_some_iff, shortPassed, extended.passed_eq]
  exact ⟨longLetters, rfl⟩

end Cursor.ExtendedBy

/-! ## Asking for a letter at the end -/

/-- The watched next letter complains exactly at the end of a text. -/
theorem Parser.complaints_item_watch {ν : Type} (cursor : Cursor) :
    ((Parser.item.watch .item : Parser (ν ⊕ Complaint) Char).parse cursor).complaints =
      if cursor.isEmpty then [⟨.item, Parser.noInput⟩] else [] := by
  have emptiness := cursor.isEmpty_iff
  rw [← Cursor.next?_eq_none_iff] at emptiness
  change ((Parser.item : Parser (ν ⊕ Complaint) Char).parse cursor >>= _).complaints = _
  rw [Parser.parse_item]
  cases step : cursor.next? with
  | none =>
      rw [if_pos (emptiness.2 step)]
      rfl
  | some found =>
      have notEmpty : ¬ cursor.isEmpty = true := by
        rw [emptiness, step]
        exact Option.some_ne_none found
      rw [if_neg notEmpty]
      rfl

/-- That a letter was asked for at the end of the text. -/
def Run.Excuse.letterAtEnd (ν : Type) : Run.Excuse (ν ⊕ Complaint) where
  Holds run := ∃ complaint ∈ run.complaints, complaint.origin = .item
  of_first := by
    rintro α β run next ⟨complaint, member, origin⟩
    exact ⟨complaint, mem_complaints_bind member next, origin⟩
  of_next := by
    rintro α β run next value ending ⟨complaint, member, origin⟩
    rw [complaints_bind_of_done ending]
    exact ⟨complaint, List.mem_append_right _ member, origin⟩

theorem Run.Comparison.Overlooks.unless
    {ν : Type} {comparison : Run.Comparison (ν ⊕ Complaint) ν}
    (overlooks : comparison.Overlooks) (excuse : Run.Excuse (ν ⊕ Complaint)) :
    (comparison.unless excuse).Overlooks where
  lifted run := .inr (overlooks.lifted run)
  complaint note := .inr (overlooks.complaint note)

namespace Parser

variable {ν α : Type} {more : List Char} {written : String → Prop}
  {plain : Parser ν α} {watched : Parser (ν ⊕ Complaint) α}

theorem item_extended :
    RelatedBy ((Run.Comparison.watching ν).unless (.letterAtEnd ν)) Eq Eq (Cursor.ExtendedBy more)
      (Parser.item.watch .item) Parser.item := by
  intro short long extended
  cases step : short.next? with
  | none =>
      have atEnd : short.isEmpty = true := by
        rw [Cursor.isEmpty_iff, ← Cursor.next?_eq_none_iff]
        exact step
      refine .inl ⟨⟨.item, noInput⟩, ?_, rfl⟩
      rw [complaints_item_watch, if_pos atEnd]
      exact List.mem_singleton_self _
  | some found =>
      obtain ⟨letter, shortRest⟩ := found
      obtain ⟨longRest, longStep, rests⟩ := extended.next? step
      have shortRun :
          (Parser.item.watch .item : Parser (ν ⊕ Complaint) Char).parse short =
            pure (.success letter shortRest) := by
        change Parser.item.parse short >>= Reply.complain .item = _
        rw [parse_item, step, pure_bind]
        rfl
      have longRun :
          (Parser.item : Parser ν Char).parse long = pure (.success letter longRest) := by
        rw [parse_item, longStep]
      rw [shortRun, longRun]
      exact .inr ⟨rfl, .done (.success rfl rests)⟩

theorem Watched.extended (watches : Watched written plain watched) :
    RelatedBy ((Run.Comparison.watching ν).unless (.letterAtEnd ν)) Eq Eq (Cursor.ExtendedBy more)
      watched plain := by
  have overlooks := Run.Comparison.watching_overlooks.unless (Run.Excuse.letterAtEnd ν)
  exact watches.relatedBy overlooks Cursor.ExtendedBy.progressTogether item_extended
    fun _ _ => rfl

end Parser

/-- If a run has ended without asking for a letter at the end of its text, then the run on a longer
text has the same log and the same reply, besides that more is left. -/
theorem reply_of_extended_text
    {ν α : Type} {written : String → Prop}
    {plain : Parser ν α} {watched : Parser (ν ⊕ Complaint) α}
    (watches : Parser.Watched written plain watched) {text : String} {reply : Reply α}
    (ends : (plain.parseText text).ending = .done reply)
    (neverAtEnd :
      ∀ complaint ∈ (watched.parseText text).complaints, complaint.origin ≠ .item)
    (more : String) :
    (plain.parseText (text ++ more)).log = (plain.parseText text).log ∧
    match reply with
    | .success value rest =>
        ∃ further,
          (plain.parseText (text ++ more)).ending = .done (.success value further) ∧
            further.offset = rest.offset ∧ further.text = rest.text ++ more
    | .failure message =>
        (plain.parseText (text ++ more)).ending = .done (.failure message) := by
  have starts : Cursor.ExtendedBy more.toList (Cursor.ofText text) (Cursor.ofText (text ++ more)) :=
    .ofText text more
  rcases watches.extended _ _ starts with ⟨complaint, member, atEnd⟩ | related
  · exact absurd atEnd (neverAtEnd complaint member)
  · have runs :
        Run.Related (Reply.Related Eq Eq (Cursor.ExtendedBy more.toList))
          (plain.parseText text) (plain.parseText (text ++ more)) := by
      have unwatched : (watched.parseText text).unwatched = plain.parseText text :=
        watches.unwatched_parse (Cursor.ofText text)
      rw [← unwatched]
      exact related
    refine ⟨runs.log_eq.symm, ?_⟩
    have endings := runs.endings
    rw [ends] at endings
    generalize (plain.parseText (text ++ more)).ending = longEnding at endings ⊢
    cases endings with
    | done replies =>
        cases replies with
        | @success value _ rest further sameValue rests =>
            subst sameValue
            exact ⟨further, rfl, rests.offset_eq, rests.text_eq⟩
        | failure sameMessage =>
            subst sameMessage
            rfl

/-- Two digits in brackets are read up to a semicolon, which is seen, so that nothing behind it can
matter. -/
theorem reply_of_extended_text_bracketedDigit :
    ∃ further,
      ((Parser.recursive (Parser.bracketedDigit (ν := Unit)) 3 ()).many.parseText
          ("(7((8;" ++ "9é")).ending = .done (.success ['7', '8'] further) ∧
        further.offset = 5 ∧ further.text = ";9é" := by
  have watches := (Parser.watched_bracketedDigit (ν := Unit) 3).many
  have ends :
      ((Parser.recursive (Parser.bracketedDigit (ν := Unit)) 3 ()).many.parseText
        "(7((8;").ending =
        .done (.success ['7', '8'] ⟨Segment.ofList "8((7(".toList, Segment.ofList ";".toList⟩) := by
    decide +kernel
  have neverAtEnd :
      ∀ complaint ∈
        ((Parser.recursive (Parser.bracketedDigitWatched (ν := Unit)) 3 ()).many.parseText
          "(7((8;").complaints,
        complaint.origin ≠ .item := by
    decide +kernel
  obtain ⟨_, further, ending, sameOffset, moreText⟩ :=
    reply_of_extended_text watches ends neverAtEnd "9é"
  exact ⟨further, ending, sameOffset, moreText⟩

end ParserAlgebra
