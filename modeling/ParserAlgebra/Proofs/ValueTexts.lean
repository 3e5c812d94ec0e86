import ParserAlgebra.Proofs.Derivations
import ParserAlgebra.Proofs.Verdict

/-!
# What is read as a value

Whatever the parser of values reads is a value by the grammar, with the value that comes out, and it
comes to a reply at every place where the runs of digits fit and fewer letters are left than lists
are unfolded. A token is read behind the blanks in front of it, all of them, and a list inside
another one behind a bracket at least, so that one unfolding less is enough for it.
-/

namespace ParserAlgebra.Values

variable {ν α : Type} {blank : Char → Bool} {overflow : Overflow} {depth : Nat} {place : Cursor}
  {suffix : List Char}

/-! ## Behind blanks -/

/-- A token is read behind all blanks that stand in front of it. -/
theorem exists_behind_blanks (ν : Type) (blank : Char → Bool) (place : Cursor) :
    ∃ middle : Cursor,
      middle.rest.letters = place.rest.letters.dropWhile blank ∧
        ∀ {α : Type} (parser : Parser ν α),
          ((token blank parser).parse place).ending = (parser.parse middle).ending := by
  obtain ⟨middle, passes, spacesEnding, _⟩ :=
    Parser.exists_span (ν := ν) blank Parser.predicateNotSatisfied place
  refine ⟨middle, passes.rest_eq_of_append List.takeWhile_append_dropWhile.symm, ?_⟩
  intro α parser
  have same : (Reply.map (fun value : α => value)) = id := by
    funext reply
    cases reply <;> rfl
  rw [token, Parser.parse_apply, Run.ending_bind, Parser.parse_map, Run.ending_map]
  change (((Parser.item.satisfyOr blank Parser.predicateNotSatisfied).many.parse place).ending.bind
    _).bind _ = _
  rw [spacesEnding]
  change (Reply.map (fun value : α => value) <$> parser.parse middle).ending = _
  rw [same, id_map]

theorem blanks_takeWhile (blank : Char → Bool) (letters : List Char) :
    Blanks blank (letters.takeWhile blank) :=
  fun _ member => List.mem_takeWhile_imp member

theorem soundAt_token
    {parser : Parser ν α} {language : List Char → α → Prop}
    (sound :
      ∀ gap (middle : Cursor),
        Blanks blank gap → place.rest.letters = gap ++ middle.rest.letters →
          parser.SoundAt (fun read value => language (gap ++ read) value) middle) :
    (token blank parser).SoundAt language place := by
  obtain ⟨middle, left, same⟩ := exists_behind_blanks ν blank place
  have split : place.rest.letters = place.rest.letters.takeWhile blank ++ middle.rest.letters := by
    rw [left, List.takeWhile_append_dropWhile]
  obtain ⟨reply, ending, within⟩ :=
    sound _ middle (blanks_takeWhile blank place.rest.letters) split
  refine ⟨reply, (same parser).trans ending, ?_⟩
  cases reply with
  | success value rest =>
      obtain ⟨read, middleSplit, belongs⟩ := within
      refine ⟨_, ?_, belongs⟩
      rw [List.append_assoc, ← middleSplit, ← split]
  | failure message => trivial

theorem readsTo_token
    {parser : Parser ν α} {value : α}
    (reads :
      ∀ middle : Cursor,
        middle.rest.letters = place.rest.letters.dropWhile blank →
          parser.ReadsTo middle value suffix) :
    (token blank parser).ReadsTo place value suffix := by
  obtain ⟨middle, left, same⟩ := exists_behind_blanks ν blank place
  obtain ⟨rest, ending, restLeft⟩ := reads middle left
  exact ⟨rest, (same parser).trans ending, restLeft⟩

theorem failsAt_token
    {parser : Parser ν α}
    (fails :
      ∀ middle : Cursor,
        middle.rest.letters = place.rest.letters.dropWhile blank → parser.FailsAt middle) :
    (token blank parser).FailsAt place := by
  obtain ⟨middle, left, same⟩ := exists_behind_blanks ν blank place
  obtain ⟨message, ending⟩ := fails middle left
  exact ⟨message, (same parser).trans ending⟩

/-! ## Marks -/

theorem soundAt_mark (mark : Char) :
    (token blank (symbol mark) : Parser ν Char).SoundAt
      (fun read _ => ∃ gap, Blanks blank gap ∧ read = gap ++ [mark]) place := by
  apply soundAt_token
  intro gap middle blanks split
  by_cases isMark : middle.rest.letters.head? = some mark
  · obtain ⟨behind, left⟩ := List.head?_eq_some_iff.1 isMark
    have middleSplit : middle.rest.letters = [mark] ++ behind := left
    exact (readsTo_symbol left).soundAt middleSplit ⟨gap, blanks, rfl⟩
  · exact .of_failsAt (failsAt_symbol isMark)

theorem readsTo_mark
    {mark : Char} (left : place.rest.letters.dropWhile blank = mark :: suffix) :
    (token blank (symbol mark) : Parser ν Char).ReadsTo place mark suffix :=
  readsTo_token fun _ middleLeft => readsTo_symbol (middleLeft.trans left)

theorem failsAt_mark
    {mark : Char} (other : (place.rest.letters.dropWhile blank).head? ≠ some mark) :
    (token blank (symbol mark) : Parser ν Char).FailsAt place :=
  failsAt_token fun _ middleLeft => failsAt_symbol (middleLeft ▸ other)

/-! ## Letters that can be managed -/

/-- The letters are fewer than the depth to which lists are unfolded, and all runs of digits in them
fit. -/
structure Manageable (depth : Nat) (letters : List Char) : Prop where
  short : letters.length < depth
  fit : RunsFit letters

theorem Manageable.exists_less
    {letters : List Char} (manageable : Manageable depth letters) :
    ∃ less, depth = less + 1 :=
  Nat.exists_eq_succ_of_ne_zero (Nat.ne_zero_of_lt manageable.short)

theorem Manageable.of_suffix
    {letters later : List Char} (manageable : Manageable depth letters)
    (suffix : later <:+ letters) :
    Manageable depth later where
  short := Nat.lt_of_le_of_lt suffix.length_le manageable.short
  fit := manageable.fit.of_suffix suffix

theorem Manageable.behind
    {letters read later : List Char} (manageable : Manageable depth letters)
    (split : letters = read ++ later) :
    Manageable depth later :=
  manageable.of_suffix ⟨read, split.symm⟩

theorem Manageable.behindBlanks
    {letters later : List Char} (manageable : Manageable depth letters)
    (dropped : later = letters.dropWhile blank) :
    Manageable depth later := by
  rw [dropped]
  exact manageable.of_suffix (List.dropWhile_suffix blank)

/-- Behind a letter one unfolding less is enough. -/
theorem Manageable.inside
    {letters read later : List Char} (manageable : Manageable (depth + 1) letters)
    (split : letters = read ++ later) (nonempty : read ≠ []) :
    Manageable depth later where
  short := by
    have short := manageable.short
    have some := List.length_pos_iff.2 nonempty
    rw [split, List.length_append] at short
    omega
  fit := (manageable.behind split).fit

/-! ## Soundness -/

section Soundness

theorem soundAt_value_of_lists
    (listsSound :
      ∀ place : Cursor,
        Manageable depth place.rest.letters →
          (list blank overflow depth : Parser ν (List Value)).SoundAt (Derives blank .list) place)
    (manageable : Manageable depth place.rest.letters) :
    (value blank overflow depth : Parser ν Value).SoundAt (Derives blank .value) place := by
  rw [value, valueOver_eq]
  apply soundAt_token
  intro gap middle blanks split
  have manageableBehind := manageable.behind split
  apply Parser.SoundAt.orElse
  · apply Parser.SoundAt.map
    apply (soundAt_integer manageableBehind.fit).mono
    intro read number numeral
    exact .int blanks numeral
  · apply Parser.SoundAt.map
    apply (listsSound middle manageableBehind).mono
    intro read values derives
    exact .list blanks derives

variable {value : Parser ν Value}
  (valuesSound :
    ∀ place : Cursor,
      Manageable depth place.rest.letters → value.SoundAt (Derives blank .value) place)

include valuesSound

theorem soundAt_many_commaValue (manageable : Manageable depth place.rest.letters) :
    (commaValue blank value).many.SoundAt (Derives blank .more) place := by
  have commaSound :
      ∀ within : Cursor,
        within.rest.letters <:+ place.rest.letters →
          (commaValue blank value).SoundAt
            (fun read found =>
              ∃ gap letters, Blanks blank gap ∧ Derives blank .value letters found ∧
                read = gap ++ ',' :: letters) within := by
    intro within suffix
    apply (soundAt_mark ',').flatMap
    rintro read comma rest split ⟨gap, blanks, rfl⟩
    apply (valuesSound rest ((manageable.of_suffix suffix).behind split)).mono
    intro letters found derives
    exact ⟨gap, letters, blanks, derives, List.append_assoc gap [','] letters⟩
  apply Parser.SoundAt.many .noMore _ commaSound
  rintro read found behind values ⟨gap, letters, blanks, derives, rfl⟩ more
  rw [List.append_assoc, List.cons_append]
  exact .more blanks derives more

theorem soundAt_elements (manageable : Manageable depth place.rest.letters) :
    (elements blank value).SoundAt (Derives blank .elements) place := by
  apply Parser.SoundAt.orElse
  · have firstSound :
        (value.map fun first others => first :: others).SoundAt
          (fun read function =>
            ∃ first, Derives blank .value read first ∧ function = fun others => first :: others)
          place := by
      apply Parser.SoundAt.map
      apply (valuesSound place manageable).mono
      intro read first derives
      exact ⟨first, derives, rfl⟩
    apply firstSound.apply
    rintro read function rest split ⟨first, derives, rfl⟩
    apply (soundAt_many_commaValue valuesSound (manageable.behind split)).mono
    intro behind others more
    exact .elements derives more
  · exact .valueOf .noElements

theorem soundAt_closed (manageable : Manageable depth place.rest.letters) :
    (closed blank value).SoundAt
      (fun read values =>
        ∃ inner lastGap, Derives blank .elements inner values ∧ Blanks blank lastGap ∧
          read = inner ++ (lastGap ++ [']'])) place := by
  have elementsSound :
      ((elements blank value).map fun values (_ : Char) => values).SoundAt
        (fun read function =>
          ∃ values, Derives blank .elements read values ∧ function = fun _ => values) place := by
    apply Parser.SoundAt.map
    apply (soundAt_elements valuesSound manageable).mono
    intro read values derives
    exact ⟨values, derives, rfl⟩
  apply elementsSound.apply
  rintro inner function rest split ⟨values, derives, rfl⟩
  apply (soundAt_mark ']').mono
  rintro behind mark ⟨lastGap, blanks, rfl⟩
  exact ⟨inner, lastGap, derives, blanks, rfl⟩

theorem soundAt_bracketed (manageable : Manageable (depth + 1) place.rest.letters) :
    (bracketed blank value).SoundAt (Derives blank .list) place := by
  have openingSound :
      ((token blank (symbol '[')).map fun _ (values : List Value) => values : Parser ν _).SoundAt
        (fun read function =>
          (∃ gap, Blanks blank gap ∧ read = gap ++ ['[']) ∧ function = fun values => values)
        place := by
    apply Parser.SoundAt.map
    apply (soundAt_mark '[').mono
    intro read mark opening
    exact ⟨opening, rfl⟩
  rw [bracketed_eq]
  apply openingSound.apply
  rintro read function rest split ⟨⟨gap, blanks, rfl⟩, rfl⟩
  have nonempty : gap ++ ['['] ≠ [] := by
    simp
  apply (soundAt_closed valuesSound (manageable.inside split nonempty)).mono
  rintro behind values ⟨inner, lastGap, derives, lastBlanks, rfl⟩
  rw [List.append_assoc, List.singleton_append]
  exact .brackets blanks derives lastBlanks

end Soundness

theorem soundAt_list (manageable : Manageable depth place.rest.letters) :
    (list blank overflow depth : Parser ν (List Value)).SoundAt (Derives blank .list) place := by
  induction depth generalizing place with
  | zero => exact absurd manageable.short (Nat.not_lt_zero _)
  | succ depth inductionHypothesis =>
      have valuesSound :
          ∀ place : Cursor,
            Manageable depth place.rest.letters →
              (value blank overflow depth : Parser ν Value).SoundAt (Derives blank .value) place :=
        fun _ manageable =>
          soundAt_value_of_lists (fun _ manageable => inductionHypothesis manageable) manageable
      exact soundAt_bracketed valuesSound manageable

/-- What is read as a value is a value by the grammar. -/
theorem soundAt_value (manageable : Manageable depth place.rest.letters) :
    (value blank overflow depth : Parser ν Value).SoundAt (Derives blank .value) place :=
  soundAt_value_of_lists (fun _ manageable => soundAt_list manageable) manageable

end ParserAlgebra.Values
