import Mathlib.Data.List.DropRight
import ParserAlgebra.Proofs.Unfolding
import ParserAlgebra.Proofs.ValueTexts

/-!
# The texts that are accepted

A phrase is read just to its end, if what follows it cannot be taken for a part of it: behind an
integer there is no digit, and behind the elements of a list the list is closed. The rules agree
with this. The first letter of a phrase that is no blank decides which rule is taken, so that
nothing that has been read needs to be given back, and where the elements end no value begins and no
comma stands. With soundness it follows that exactly the texts that the grammar derives are
accepted. How deep lists are unfolded does not matter, as a list inside another one has fewer
letters than it.
-/

namespace ParserAlgebra.Values

variable {ν : Type} {blank : Char → Bool} {overflow : Overflow} {depth : Nat} {place : Cursor}
  {letters gap behind suffix : List Char}

/-! ## Behind blanks -/

theorem dropWhile_blanks
    {letter : Char} (visible : TokensVisible blank) (blanks : Blanks blank gap)
    (inToken : letter.isDigit = true ∨ letter ∈ ['-', ',', '[', ']']) (behind : List Char) :
    (gap ++ letter :: behind).dropWhile blank = letter :: behind := by
  have notBlank : blank letter = false := visible letter inToken
  rw [List.dropWhile_append_of_pos blanks, List.dropWhile_cons_of_neg (by simp [notBlank])]

/-- The next letter that is no blank closes a list. -/
def Closes (blank : Char → Bool) (letters : List Char) : Prop :=
  ∃ behind, letters.dropWhile blank = ']' :: behind

theorem Closes.noDigitFirst (visible : TokensVisible blank) (closes : Closes blank letters) :
    NoDigitFirst letters := by
  obtain ⟨behind, left⟩ := closes
  have split : letters = letters.takeWhile blank ++ ']' :: behind := by
    rw [← left, List.takeWhile_append_dropWhile]
  rw [split]
  have blanks := blanks_takeWhile blank letters
  exact noDigitFirst_append_cons (blanks.noDigit visible) (by decide)

/-! ## Where no value begins -/

theorem failsAt_list
    (noOpening : (place.rest.letters.dropWhile blank).head? ≠ some '[') :
    (list blank overflow (depth + 1) : Parser ν (List Value)).FailsAt place := by
  change (bracketed blank (value blank overflow depth)).FailsAt place
  rw [bracketed_eq]
  exact ((failsAt_mark noOpening).map _).apply _

theorem failsAt_value
    (manageable : Manageable depth place.rest.letters) (closes : Closes blank place.rest.letters) :
    (value blank overflow depth : Parser ν Value).FailsAt place := by
  obtain ⟨behind, left⟩ := closes
  obtain ⟨depth, rfl⟩ := manageable.exists_less
  rw [value, valueOver_eq]
  apply failsAt_token
  intro middle middleLeft
  have manageableBehind := manageable.behindBlanks middleLeft
  have closesFirst : middle.rest.letters = ']' :: behind := middleLeft.trans left
  have noInteger : (integer overflow : Parser ν Int64).FailsAt middle :=
    failsAt_integer manageableBehind.fit closesFirst (by decide) (by decide)
  apply (noInteger.map Value.int).orElse
  apply Parser.FailsAt.map
  apply failsAt_list
  rw [middleLeft, List.dropWhile_idempotent, left, List.head?_cons]
  decide

/-! ## Every rule -/

theorem readsTo_value_of_int
    {numeral : List Char} {number : Int64} (visible : TokensVisible blank)
    (blanks : Blanks blank gap) (isNumeral : Numeral numeral number.toInt)
    (manageable : Manageable depth place.rest.letters)
    (left : place.rest.letters = gap ++ numeral ++ suffix) (first : NoDigitFirst suffix) :
    (value blank overflow depth : Parser ν Value).ReadsTo place (.int number) suffix := by
  have numeralLeft : place.rest.letters.dropWhile blank = numeral ++ suffix := by
    obtain ⟨letter, others, rfl, isFirst⟩ := isNumeral.exists_first
    have inToken : letter.isDigit = true ∨ letter ∈ ['-', ',', '[', ']'] := by
      rcases isFirst with isDigit | rfl
      · exact .inl isDigit
      · exact .inr (by decide)
    rw [left, List.append_assoc, List.cons_append, dropWhile_blanks visible blanks inToken]
  rw [value, valueOver_eq]
  apply readsTo_token
  intro middle middleLeft
  have fit := (manageable.behindBlanks middleLeft).fit
  have integerLeft : middle.rest.letters = numeral ++ suffix := middleLeft.trans numeralLeft
  have reads : (integer overflow : Parser ν Int64).ReadsTo middle number suffix :=
    readsTo_integer isNumeral integerLeft first fit
  exact (reads.map Value.int).orElse _

/-- A list is read as a value, for no integer begins with the bracket that opens it. -/
theorem readsTo_value_of_list
    {values : List Value} (opens : place.rest.letters.dropWhile blank = '[' :: behind)
    (manageable : Manageable depth place.rest.letters)
    (reads :
      ∀ middle : Cursor,
        Manageable depth middle.rest.letters →
          middle.rest.letters.dropWhile blank = '[' :: behind →
            (list blank overflow depth : Parser ν (List Value)).ReadsTo middle values suffix) :
    (value blank overflow depth : Parser ν Value).ReadsTo place (.list values) suffix := by
  rw [value, valueOver_eq]
  apply readsTo_token
  intro middle middleLeft
  have manageableBehind := manageable.behindBlanks middleLeft
  have opensFirst : middle.rest.letters = '[' :: behind := middleLeft.trans opens
  have noInteger : (integer overflow : Parser ν Int64).FailsAt middle :=
    failsAt_integer manageableBehind.fit opensFirst (by decide) (by decide)
  have noBlanks : middle.rest.letters.dropWhile blank = '[' :: behind := by
    rw [middleLeft, List.dropWhile_idempotent, opens]
  apply Parser.ReadsTo.orElse_of_failsAt (noInteger.map Value.int)
  exact (reads middle manageableBehind noBlanks).map Value.list

section Bodies

variable {value : Parser ν Value} {first : Value} {others values : List Value}

theorem readsTo_bracketed
    {inner : List Char} (opens : place.rest.letters.dropWhile blank = '[' :: inner)
    (closes : behind.dropWhile blank = ']' :: suffix)
    (manageable : Manageable (depth + 1) place.rest.letters)
    (reads :
      ∀ rest : Cursor,
        Manageable depth rest.rest.letters → rest.rest.letters = inner →
          (elements blank value).ReadsTo rest values behind) :
    (bracketed blank value).ReadsTo place values suffix := by
  have split : place.rest.letters = place.rest.letters.takeWhile blank ++ ['['] ++ inner := by
    rw [List.append_assoc, List.singleton_append, ← opens, List.takeWhile_append_dropWhile]
  have manageableInside := manageable.inside split (by simp)
  rw [bracketed_eq]
  apply ((readsTo_mark opens).map fun _ (values : List Value) => values).apply
  intro rest restLeft
  have elementsRead := reads rest (restLeft ▸ manageableInside) restLeft
  apply (elementsRead.map fun values (_ : Char) => values).apply
  intro last lastLeft
  exact readsTo_mark (lastLeft ▸ closes)

theorem readsTo_elements_of_none (fails : value.FailsAt place) :
    (elements blank value).ReadsTo place [] place.rest.letters :=
  .orElse_of_failsAt ((fails.map _).apply _) (.valueOf [] place)

theorem readsTo_elements
    (firstRead : value.ReadsTo place first behind)
    (othersRead :
      ∀ rest : Cursor,
        rest.rest.letters = behind → (commaValue blank value).many.ReadsTo rest others suffix) :
    (elements blank value).ReadsTo place (first :: others) suffix :=
  ((firstRead.map fun first others => first :: others).apply othersRead).orElse _

theorem failsAt_commaValue (closes : Closes blank place.rest.letters) :
    (commaValue blank value).FailsAt place := by
  obtain ⟨behind, left⟩ := closes
  have noComma : (place.rest.letters.dropWhile blank).head? ≠ some ',' := by
    rw [left, List.head?_cons]
    decide
  exact (failsAt_mark noComma).flatMap _

theorem utf8Length_lt_behind_mark (gap : List Char) (mark : Char) (letters behind : List Char) :
    utf8Length behind < utf8Length (gap ++ mark :: (letters ++ behind)) := by
  have positive := mark.utf8Size_pos
  rw [utf8Length_append, utf8Length_cons, utf8Length_append]
  omega

theorem readsTo_many_commaValue
    (visible : TokensVisible blank) (blanks : Blanks blank gap)
    (left : place.rest.letters = gap ++ ',' :: (letters ++ behind))
    (reads :
      ∀ rest : Cursor, rest.rest.letters = letters ++ behind → value.ReadsTo rest first behind)
    (othersRead :
      ∀ rest : Cursor,
        rest.rest.letters = behind → (commaValue blank value).many.ReadsTo rest others suffix) :
    (commaValue blank value).many.ReadsTo place (first :: others) suffix := by
  have comma : place.rest.letters.dropWhile blank = ',' :: (letters ++ behind) := by
    rw [left, dropWhile_blanks visible blanks (.inr (by decide))]
  have firstRead : (commaValue blank value).ReadsTo place first behind :=
    (readsTo_mark comma).flatMap reads
  have shorter : utf8Length behind < utf8Length place.rest.letters := by
    rw [left]
    exact utf8Length_lt_behind_mark gap ',' letters behind
  exact firstRead.many_cons shorter othersRead

end Bodies

/-! ## Every phrase -/

/-- The parser of the phrase reads just the letters of the phrase, if what follows cannot be taken
for a part of it. The blanks in front of a list may have been passed with those of its value. -/
def ReadAs (ν : Type) (blank : Char → Bool) (overflow : Overflow) :
    (phrase : Phrase) → List Char → phrase.Meaning → Prop
  | .value, letters, found =>
      ∀ (depth : Nat) (place : Cursor) (suffix : List Char),
        Manageable depth place.rest.letters → place.rest.letters = letters ++ suffix →
          NoDigitFirst suffix →
            (value blank overflow depth : Parser ν Value).ReadsTo place found suffix
  | .list, letters, values =>
      ∀ (depth : Nat) (place : Cursor) (suffix : List Char),
        Manageable depth place.rest.letters →
          place.rest.letters.dropWhile blank = (letters ++ suffix).dropWhile blank →
            (list blank overflow depth : Parser ν (List Value)).ReadsTo place values suffix
  | .elements, letters, values =>
      ∀ (depth : Nat) (place : Cursor) (suffix : List Char),
        Manageable depth place.rest.letters → place.rest.letters = letters ++ suffix →
          Closes blank suffix →
            (elements blank (value blank overflow depth) : Parser ν (List Value)).ReadsTo place
              values suffix
  | .more, letters, values =>
      ∀ (depth : Nat) (place : Cursor) (suffix : List Char),
        Manageable depth place.rest.letters → place.rest.letters = letters ++ suffix →
          Closes blank suffix →
            (commaValue blank (value blank overflow depth) : Parser ν Value).many.ReadsTo place
              values suffix

theorem Derives.exists_opening
    {values : List Value} (visible : TokensVisible blank)
    (derives : Derives blank .list letters values) (suffix : List Char) :
    ∃ behind, (letters ++ suffix).dropWhile blank = '[' :: behind := by
  cases derives with
  | brackets blanks _ _ =>
      rw [List.append_assoc, List.cons_append, dropWhile_blanks visible blanks (.inr (by decide))]
      exact ⟨_, rfl⟩

/-- Induction on the derivation, one case for every rule. -/
theorem Derives.readAs
    {phrase : Phrase} {meaning : phrase.Meaning} (visible : TokensVisible blank)
    (derives : Derives blank phrase letters meaning) :
    ReadAs ν blank overflow phrase letters meaning := by
  induction derives with
  | int blanks isNumeral =>
      intro depth place suffix manageable left first
      exact readsTo_value_of_int visible blanks isNumeral manageable left first
  | @list gap letters values blanks derivesList inductionHypothesis =>
      intro depth place suffix manageable left first
      -- the blanks of the value and those of the list are passed together
      have listLeft :
          place.rest.letters.dropWhile blank = (letters ++ suffix).dropWhile blank := by
        rw [left, List.append_assoc, List.dropWhile_append_of_pos blanks]
      obtain ⟨behind, opens⟩ := derivesList.exists_opening visible suffix
      apply readsTo_value_of_list (listLeft.trans opens) manageable
      intro middle manageableBehind opensBehind
      exact inductionHypothesis depth middle suffix manageableBehind (opensBehind.trans opens.symm)
  | @brackets gap inner lastGap values blanks _ lastBlanks inductionHypothesis =>
      intro depth place suffix manageable left
      obtain ⟨depth, rfl⟩ := manageable.exists_less
      have opens :
          place.rest.letters.dropWhile blank = '[' :: (inner ++ (lastGap ++ ']' :: suffix)) := by
        rw [left, List.append_assoc, List.cons_append,
          dropWhile_blanks visible blanks (.inr (by decide))]
        simp only [List.append_assoc, List.singleton_append]
      have closes : (lastGap ++ ']' :: suffix).dropWhile blank = ']' :: suffix :=
        dropWhile_blanks visible lastBlanks (.inr (by decide)) suffix
      apply readsTo_bracketed opens closes manageable
      intro rest manageableInside restLeft
      exact inductionHypothesis depth rest _ manageableInside restLeft ⟨suffix, closes⟩
  | noElements =>
      intro depth place suffix manageable left closes
      rw [List.nil_append] at left
      subst left
      exact readsTo_elements_of_none (failsAt_value manageable closes)
  | @elements letters behind first others _ more firstHypothesis moreHypothesis =>
      intro depth place suffix manageable left closes
      rw [List.append_assoc] at left
      have noDigitBehind : NoDigitFirst (behind ++ suffix) :=
        more.noDigitFirst visible (closes.noDigitFirst visible)
      have firstRead := firstHypothesis depth place _ manageable left noDigitBehind
      apply readsTo_elements firstRead
      intro rest restLeft
      have manageableBehind := manageable.behind (restLeft ▸ left)
      exact moreHypothesis depth rest suffix manageableBehind restLeft closes
  | noMore =>
      intro depth place suffix manageable left closes
      rw [List.nil_append] at left
      subst left
      exact .many_nil (failsAt_commaValue closes)
  | @more gap letters behind found others blanks _ more valueHypothesis moreHypothesis =>
      intro depth place suffix manageable left closes
      simp only [List.append_assoc, List.cons_append] at left
      have noDigitBehind : NoDigitFirst (behind ++ suffix) :=
        more.noDigitFirst visible (closes.noDigitFirst visible)
      have split : place.rest.letters = gap ++ [','] ++ (letters ++ (behind ++ suffix)) := by
        rw [left, List.append_assoc, List.singleton_append]
      have manageableValue := manageable.behind split
      have manageableBehind := manageableValue.behind rfl
      apply readsTo_many_commaValue visible blanks left
      · intro rest restLeft
        exact valueHypothesis depth rest _ (restLeft ▸ manageableValue) restLeft noDigitBehind
      · intro rest restLeft
        exact moreHypothesis depth rest suffix (restLeft ▸ manageableBehind) restLeft closes

/-! ## How deep lists are unfolded -/

theorem bracketed_approximates
    {shallow deep : Parser ν Value} (values : shallow.Approximates deep) :
    (bracketed blank shallow).Approximates (bracketed blank deep) := by
  have commaValues :
      (commaValue blank shallow).many.Approximates (commaValue blank deep).many :=
    ((Parser.Approximates.refl _).flatMap fun _ => values).many
  have elementsApproximate : (elements blank shallow).Approximates (elements blank deep) :=
    (commaValues.apply (values.map _)).orElse (.refl _)
  have closedApproximate : (closed blank shallow).Approximates (closed blank deep) :=
    (Parser.Approximates.refl _).apply (elementsApproximate.map _)
  rw [bracketed_eq, bracketed_eq]
  exact closedApproximate.apply (.refl _)

theorem valueOver_approximates
    {shallow deep : Unit → Parser ν (List Value)} (lists : (shallow ()).Approximates (deep ())) :
    (valueOver blank overflow shallow).Approximates (valueOver blank overflow deep) := by
  rw [valueOver_eq, valueOver_eq]
  exact ((Parser.Approximates.refl _).orElse (lists.map _)).apply (.refl _)

theorem list_approximates_of_le {deeper : Nat} (deep : depth ≤ deeper) :
    (list blank overflow depth : Parser ν (List Value)).Approximates
      (list blank overflow deeper) := by
  apply Parser.Approximates.recursive _ deep
  intro _ _ lists _
  exact bracketed_approximates (valueOver_approximates (lists ()))

/-- A run that is not cut off is the run at every greater depth. -/
theorem parse_value_eq_of_le
    {deeper : Nat} (deep : depth ≤ deeper)
    (ends : ((value blank overflow depth : Parser ν Value).parse place).ending ≠ .cutOff) :
    (value blank overflow deeper : Parser ν Value).parse place =
      (value blank overflow depth).parse place := by
  have approximates :
      (value blank overflow depth : Parser ν Value).Approximates (value blank overflow deeper) :=
    valueOver_approximates (list_approximates_of_le deep)
  rcases approximates place with cut | same
  · exact absurd cut ends
  · exact same.symm

/-! ## Whole texts -/

section Texts

variable {text : String} {found : Value}

theorem manageable_ofText (deep : text.length < depth) (fit : RunsFit text.toList) :
    Manageable depth (Cursor.ofText text).rest.letters :=
  ⟨deep, fit⟩

theorem derives_of_verdict
    {reply : Reply Value} (within : reply.Within (Derives blank .value) text.toList)
    (accepted : reply.verdict = .ok found) :
    Derives blank .value text.toList found := by
  cases reply with
  | success value rest =>
      obtain ⟨atEnd, rfl⟩ := (Reply.verdict_eq_ok_iff value found rest).1 accepted
      obtain ⟨read, split, derives⟩ := within
      have nothing : rest.rest.letters = [] := String.ofList_eq_empty_iff.1 atEnd
      rw [nothing, List.append_nil] at split
      rwa [split]
  | failure message => cases accepted

theorem ending_parseAll_of_derives
    (visible : TokensVisible blank) (fit : RunsFit text.toList) (deep : text.length < depth)
    (derives : Derives blank .value text.toList found) :
    ((value blank overflow depth : Parser ν Value).parseAll text).ending = .done (.ok found) := by
  have left : (Cursor.ofText text).rest.letters = text.toList ++ [] :=
    (List.append_nil text.toList).symm
  have noDigit : NoDigitFirst [] := by
    rintro letter ⟨⟩
  obtain ⟨rest, ending, nothing⟩ :=
    derives.readAs visible depth (Cursor.ofText text) [] (manageable_ofText deep fit) left noDigit
  have atEnd : rest.text = "" := String.ofList_eq_empty_iff.2 nothing
  rw [Parser.parseAll_of_done ending, (Reply.verdict_eq_ok_iff found found rest).2 ⟨atEnd, rfl⟩]

/-- Whether a text is accepted does not depend on how deep lists are unfolded, if only deeper than
the text is long, and nothing is accepted but what is derived. -/
theorem exists_verdict (ν : Type) (blank : Char → Bool) (overflow : Overflow)
    (fit : RunsFit text.toList) :
    ∃ verdict,
      (∀ depth, text.length < depth →
        ((value blank overflow depth : Parser ν Value).parseAll text).ending = .done verdict) ∧
      ∀ found, verdict = .ok found → Derives blank .value text.toList found := by
  have manageable := manageable_ofText (Nat.lt_succ_self text.length) fit
  obtain ⟨reply, ending, within⟩ :
      (value blank overflow (text.length + 1) : Parser ν Value).SoundAt (Derives blank .value)
        (Cursor.ofText text) :=
    soundAt_value manageable
  refine ⟨reply.verdict, ?_, fun found accepted => derives_of_verdict within accepted⟩
  -- the least depth that is enough has come to a reply, so that every greater one comes to the same
  intro depth deep
  have ends :
      ((value blank overflow (text.length + 1) : Parser ν Value).parse
        (Cursor.ofText text)).ending ≠ .cutOff := by
    rw [ending]
    rintro ⟨⟩
  have sameEnding :
      ((value blank overflow depth : Parser ν Value).parseText text).ending = .done reply := by
    rw [Parser.parseText, parse_value_eq_of_le deep ends, ending]
  rw [Parser.parseAll_of_done sameEnding]

/-- A text whose runs of digits fit is accepted with a value if and only if the grammar derives this
value from it. In particular every value is accepted where its tokens are written with any blanks in
front of each. Their runs of digits fit unless the least word is among the integers, which has no
opposite. -/
theorem accepted_iff_derives
    (ν : Type) {blank : Char → Bool} (visible : TokensVisible blank) (overflow : Overflow)
    (text : String) :
    (RunsFit text.toList →
      ∃ verdict,
        (∀ depth, text.length < depth →
          ((value blank overflow depth : Parser ν Value).parseAll text).ending = .done verdict) ∧
        ∀ found, verdict = .ok found ↔ Derives blank .value text.toList found) ∧
    ∀ written : Value,
      Spaced blank written.tokens text.toList →
        (RunsFit text.toList ↔ ∀ number ∈ written.numbers, number ≠ Int64.minValue) ∧
        (RunsFit text.toList →
          ∀ depth, text.length < depth →
            ((value blank overflow depth : Parser ν Value).parseAll text).ending =
              .done (.ok written)) := by
  constructor
  · intro fit
    obtain ⟨verdict, same, derivesOfAccepted⟩ := exists_verdict ν blank overflow fit
    refine ⟨verdict, same, ?_⟩
    intro found
    refine ⟨derivesOfAccepted found, ?_⟩
    intro derives
    have deep : text.length < text.length + 1 := Nat.lt_succ_self text.length
    have accepted :
        ((value blank overflow (text.length + 1) : Parser ν Value).parseAll text).ending =
          .done (.ok found) :=
      ending_parseAll_of_derives visible fit deep derives
    rw [same _ deep] at accepted
    cases accepted
    rfl
  · intro written spaced
    have derives := derives_of_spaced written spaced
    refine ⟨derives.runsFit_iff visible, ?_⟩
    intro fit depth deep
    exact ending_parseAll_of_derives visible fit deep derives

theorem tokensVisible_isWhitespace : TokensVisible Char.isWhitespace := by
  intro letter inToken
  by_contra isBlank
  simp only [Bool.not_eq_false, Char.isWhitespace, Bool.or_eq_true, decide_eq_true_eq] at isBlank
  rcases isBlank with ((rfl | rfl) | rfl) | rfl
  all_goals
    revert inToken
    decide

/-- A list of a number below zero and of an empty list, the first time with two zeros in front of
the number, the second time as its tokens are written. -/
theorem accepted_iff_derives_nestedList :
    TokensVisible Char.isWhitespace ∧
    RunsFit "[ -007\t,[ ]]".toList ∧
    ((value Char.isWhitespace .aborts 13 : Parser Unit Value).parseAll "[ -007\t,[ ]]").ending =
      .done (.ok (.list [.int (-7), .list []])) ∧
    Spaced Char.isWhitespace (Value.list [.int (-7), .list []]).tokens "[-7,[\n]]".toList ∧
    RunsFit "[-7,[\n]]".toList ∧
    ((value Char.isWhitespace .aborts 9 : Parser Unit Value).parseAll "[-7,[\n]]").ending =
      .done (.ok (.list [.int (-7), .list []])) := by
  have fit : RunsFit "[ -007\t,[ ]]".toList := by
    decide
  have writtenFit : RunsFit "[-7,[\n]]".toList := by
    decide
  have noBlanks : Blanks Char.isWhitespace [] := by
    simp [Blanks]
  have oneBlank {letter : Char} (isBlank : letter.isWhitespace = true) :
      Blanks Char.isWhitespace [letter] := by
    simpa [Blanks] using isBlank
  have zeros : Numeral ['-', '0', '0', '7'] (-7 : Int64).toInt := by
    have seven : (-7 : Int64).toInt = -(Text.ofDigits 10 ['0', '0', '7'] : Nat) := by
      decide
    rw [seven]
    exact .negated (by simp) (by simp)
  have derives :
      Derives Char.isWhitespace .value "[ -007\t,[ ]]".toList (.list [.int (-7), .list []]) :=
    .list noBlanks (.brackets noBlanks
      (.elements (.int (oneBlank rfl) zeros)
        (.more (oneBlank rfl) (.list noBlanks (.brackets noBlanks .noElements (oneBlank rfl)))
          .noMore))
      noBlanks)
  have spaced :
      Spaced Char.isWhitespace (Value.list [.int (-7), .list []]).tokens "[-7,[\n]]".toList :=
    .cons noBlanks (.cons noBlanks (.cons noBlanks (.cons noBlanks (.cons (oneBlank rfl)
      (.cons noBlanks .nil)))))
  obtain ⟨verdict, same, acceptedIff⟩ :=
    (accepted_iff_derives Unit tokensVisible_isWhitespace .aborts "[ -007\t,[ ]]").1 fit
  have accepted := same 13 (by decide)
  rw [(acceptedIff _).2 derives] at accepted
  have writtenAccepted :=
    ((accepted_iff_derives Unit tokensVisible_isWhitespace .aborts "[-7,[\n]]").2 _ spaced).2
      writtenFit 9 (by decide)
  exact ⟨tokensVisible_isWhitespace, fit, accepted, spaced, writtenFit, writtenAccepted⟩

end Texts

end ParserAlgebra.Values
