import ParserAlgebra.Proofs.Numerals

/-!
# The grammar of values

The grammar says which letters are a value in writing, and which value, without saying how they are
read. Where no letter of a token is a blank, the tokens of a value can be written one behind the
other with any blanks in front of each, and the grammar derives the value from them.
-/

namespace ParserAlgebra

/-! ## Tokens -/

/-- A number in decimal digits, with a minus sign if it is negative. -/
def decimal (number : Int) : List Char :=
  if number < 0 then '-' :: Nat.toDigits 10 number.natAbs else Nat.toDigits 10 number.natAbs

mutual

/-- The tokens of a value in the order in which they are written. -/
def Value.tokens : Value → List (List Char)
  | .int number => [decimal number.toInt]
  | .list values => ['['] :: Values.tokensOfElements values ++ [[']']]

/-- The tokens between the brackets of a list. -/
def Values.tokensOfElements : List Value → List (List Char)
  | [] => []
  | first :: others => first.tokens ++ Values.tokensOfMore others

/-- The tokens of further elements, with a comma in front of each. -/
def Values.tokensOfMore : List Value → List (List Char)
  | [] => []
  | value :: others => [','] :: value.tokens ++ Values.tokensOfMore others

end

mutual

/-- All integers in a value. -/
def Value.numbers : Value → List Int64
  | .int number => [number]
  | .list values => Values.numbersOf values

/-- All integers in the values. -/
def Values.numbersOf : List Value → List Int64
  | [] => []
  | value :: others => value.numbers ++ Values.numbersOf others

end

namespace Values

open Text

/-- All letters are blanks. -/
def Blanks (blank : Char → Bool) (letters : List Char) : Prop :=
  ∀ letter ∈ letters, blank letter = true

/-- No letter of a token is a blank. -/
def TokensVisible (blank : Char → Bool) : Prop :=
  ∀ letter : Char, letter.isDigit = true ∨ letter ∈ ['-', ',', '[', ']'] → blank letter = false

/-- The tokens one behind the other, with blanks in front of each. -/
inductive Spaced (blank : Char → Bool) : List (List Char) → List Char → Prop where
  | nil : Spaced blank [] []
  | cons {gap token letters : List Char} {tokens : List (List Char)} :
      Blanks blank gap → Spaced blank tokens letters →
        Spaced blank (token :: tokens) (gap ++ (token ++ letters))

/-! ## The rules -/

/-- The phrases of the grammar: a value, a list, the elements between the brackets of a list, and
further elements behind the first one. -/
inductive Phrase where
  | value
  | list
  | elements
  | more

/-- What a phrase means. -/
@[reducible]
def Phrase.Meaning : Phrase → Type
  | .value => Value
  | .list => List Value
  | .elements => List Value
  | .more => List Value

/-- The letters are a phrase with the meaning. -/
inductive Derives (blank : Char → Bool) :
    (phrase : Phrase) → List Char → phrase.Meaning → Prop where
  | int {gap numeral : List Char} {number : Int64} :
      Blanks blank gap → Numeral numeral number.toInt →
        Derives blank .value (gap ++ numeral) (Value.int number)
  | list {gap letters : List Char} {values : List Value} :
      Blanks blank gap → Derives blank .list letters values →
        Derives blank .value (gap ++ letters) (Value.list values)
  | brackets {gap inner lastGap : List Char} {values : List Value} :
      Blanks blank gap → Derives blank .elements inner values → Blanks blank lastGap →
        Derives blank .list (gap ++ '[' :: (inner ++ (lastGap ++ [']']))) values
  | noElements : Derives blank .elements [] []
  | elements {letters behind : List Char} {first : Value} {others : List Value} :
      Derives blank .value letters first → Derives blank .more behind others →
        Derives blank .elements (letters ++ behind) (first :: others)
  | noMore : Derives blank .more [] []
  | more {gap letters behind : List Char} {value : Value} {others : List Value} :
      Blanks blank gap → Derives blank .value letters value → Derives blank .more behind others →
        Derives blank .more (gap ++ ',' :: (letters ++ behind)) (value :: others)

variable {blank : Char → Bool} {letters suffix : List Char}

/-! ## Written values are derived -/

theorem numeral_decimal (number : Int) : Numeral (decimal number) number := by
  have nonempty : Nat.toDigits 10 number.natAbs ≠ [] := Nat.toDigits_ne_nil
  have areDigits : ∀ digit ∈ Nat.toDigits 10 number.natAbs, digit.isDigit = true :=
    fun _ member => Nat.isDigit_of_mem_toDigits (by decide) (by decide) member
  have read : ofDigits 10 (Nat.toDigits 10 number.natAbs) = number.natAbs :=
    ofDigits_toDigits (by decide) (by decide) number.natAbs
  unfold decimal
  by_cases negative : number < 0
  · have isNumeral := Numeral.negated nonempty areDigits
    have opposite : -(number.natAbs : Int) = number := by omega
    rw [read, opposite] at isNumeral
    rwa [if_pos negative]
  · have isNumeral := Numeral.plain nonempty areDigits
    have same : (number.natAbs : Int) = number := by omega
    rw [read, same] at isNumeral
    rwa [if_neg negative]

theorem Spaced.exists_of_cons
    {token : List Char} {tokens : List (List Char)}
    (spaced : Spaced blank (token :: tokens) letters) :
    ∃ gap behind,
      letters = gap ++ (token ++ behind) ∧ Blanks blank gap ∧ Spaced blank tokens behind := by
  cases spaced with
  | cons blanks behind => exact ⟨_, _, rfl, blanks, behind⟩

theorem Spaced.exists_of_append
    {tokens others : List (List Char)} (spaced : Spaced blank (tokens ++ others) letters) :
    ∃ front behind,
      letters = front ++ behind ∧ Spaced blank tokens front ∧ Spaced blank others behind := by
  induction tokens generalizing letters with
  | nil => exact ⟨[], letters, rfl, .nil, spaced⟩
  | cons token tokens inductionHypothesis =>
      obtain ⟨gap, rest, rfl, blanks, spacedRest⟩ := spaced.exists_of_cons
      obtain ⟨front, behind, rfl, spacedFront, spacedBehind⟩ := inductionHypothesis spacedRest
      refine ⟨gap ++ (token ++ front), behind, ?_, .cons blanks spacedFront, spacedBehind⟩
      simp only [List.append_assoc]

mutual

theorem derives_of_spaced :
    ∀ (value : Value) {letters : List Char},
      Spaced blank value.tokens letters → Derives blank .value letters value
  | .int number, letters, spaced => by
      rw [Value.tokens] at spaced
      obtain ⟨gap, behind, rfl, blanks, spacedBehind⟩ := spaced.exists_of_cons
      cases spacedBehind
      rw [List.append_nil]
      exact .int blanks (numeral_decimal number.toInt)
  | .list values, letters, spaced => by
      rw [Value.tokens] at spaced
      obtain ⟨gap, rest, rfl, blanks, spacedRest⟩ := spaced.exists_of_cons
      obtain ⟨inner, last, rfl, spacedInner, spacedLast⟩ := spacedRest.exists_of_append
      obtain ⟨lastGap, behind, rfl, lastBlanks, spacedBehind⟩ := spacedLast.exists_of_cons
      cases spacedBehind
      have elements := derives_elements_of_spaced values spacedInner
      have derived :
          Derives blank .list (gap ++ '[' :: (inner ++ (lastGap ++ [']']))) values :=
        .brackets blanks elements lastBlanks
      have noBlanks : Blanks blank [] := by
        simp [Blanks]
      change Derives blank .value ([] ++ (gap ++ '[' :: (inner ++ (lastGap ++ [']'])))) _
      exact .list noBlanks derived

theorem derives_elements_of_spaced :
    ∀ (values : List Value) {letters : List Char},
      Spaced blank (tokensOfElements values) letters → Derives blank .elements letters values
  | [], letters, spaced => by
      rw [tokensOfElements] at spaced
      cases spaced
      exact .noElements
  | first :: others, letters, spaced => by
      rw [tokensOfElements] at spaced
      obtain ⟨front, behind, rfl, spacedFront, spacedBehind⟩ := spaced.exists_of_append
      exact .elements (derives_of_spaced first spacedFront)
        (derives_more_of_spaced others spacedBehind)

theorem derives_more_of_spaced :
    ∀ (values : List Value) {letters : List Char},
      Spaced blank (tokensOfMore values) letters → Derives blank .more letters values
  | [], letters, spaced => by
      rw [tokensOfMore] at spaced
      cases spaced
      exact .noMore
  | value :: others, letters, spaced => by
      rw [tokensOfMore] at spaced
      obtain ⟨gap, rest, rfl, blanks, spacedRest⟩ := spaced.exists_of_cons
      obtain ⟨front, behind, rfl, spacedFront, spacedBehind⟩ := spacedRest.exists_of_append
      have derived :
          Derives blank .more (gap ++ ',' :: (front ++ behind)) (value :: others) :=
        .more blanks (derives_of_spaced value spacedFront)
          (derives_more_of_spaced others spacedBehind)
      exact derived

end

/-! ## The runs of digits in what is derived -/

/-- All integers in the meaning of a phrase. -/
def Phrase.numbers : (phrase : Phrase) → phrase.Meaning → List Int64
  | .value, meaning => meaning.numbers
  | .list, meaning => numbersOf meaning
  | .elements, meaning => numbersOf meaning
  | .more, meaning => numbersOf meaning

theorem Blanks.noDigit
    {gap : List Char} (visible : TokensVisible blank) (blanks : Blanks blank gap) :
    ∀ letter ∈ gap, letter.isDigit = false := by
  intro letter member
  by_cases isDigit : letter.isDigit = true
  · have notBlank := visible letter (.inl isDigit)
    rw [blanks letter member] at notBlank
    cases notBlank
  · simpa using isDigit

theorem runsFit_append_of_noDigits
    {front : List Char} (noDigits : ∀ letter ∈ front, letter.isDigit = false) :
    RunsFit (front ++ suffix) ↔ RunsFit suffix := by
  induction front with
  | nil => exact Iff.rfl
  | cons letter front inductionHypothesis =>
      rw [List.cons_append, runsFit_cons_iff (noDigits letter List.mem_cons_self)]
      apply inductionHypothesis
      intro other member
      exact noDigits other (List.mem_cons_of_mem letter member)

theorem noDigitFirst_append_cons
    {gap : List Char} {letter : Char} (noDigits : ∀ letter ∈ gap, letter.isDigit = false)
    (noDigit : letter.isDigit = false) :
    NoDigitFirst (gap ++ letter :: suffix) := by
  cases gap with
  | nil =>
      rintro first ⟨⟩
      exact noDigit
  | cons blankLetter gap =>
      rintro first ⟨⟩
      exact noDigits blankLetter List.mem_cons_self

/-- Further elements begin with a blank or with a comma, and none at all with what follows. -/
theorem Derives.noDigitFirst
    {values : List Value} (visible : TokensVisible blank)
    (derives : Derives blank .more letters values) (first : NoDigitFirst suffix) :
    NoDigitFirst (letters ++ suffix) := by
  cases derives with
  | noMore => exact first
  | more blanks _ _ =>
      rw [List.append_assoc]
      exact noDigitFirst_append_cons (blanks.noDigit visible) (by decide)

theorem runsFit_numeral_iff
    {numeral : List Char} {number : Int64} (isNumeral : Numeral numeral number.toInt) :
    RunsFit numeral ↔ number ≠ Int64.minValue := by
  have isWord : IsWord number.toInt := ⟨number.minValue_le_toInt, number.toInt_le⟩
  have least : number ≠ Int64.minValue ↔ number.toInt ≠ Int64.minValue.toInt :=
    not_congr Int64.toInt_inj.symm
  rw [least, Int64.toInt_minValue]
  rw [isWord_iff] at isWord
  generalize number.toInt = exact at isNumeral isWord
  cases isNumeral with
  | plain _ areDigits =>
      rw [runsFit_digits_iff areDigits, isWord_iff]
      omega
  | negated _ areDigits =>
      rw [runsFit_cons_iff (by decide), runsFit_digits_iff areDigits, isWord_iff]
      omega

/-- Every run of digits is all the digits of one of the integers, so that the runs fit if and only
if every integer has an opposite among the words. -/
theorem Derives.runsFit_append_iff
    {phrase : Phrase} {meaning : phrase.Meaning} (visible : TokensVisible blank)
    (derives : Derives blank phrase letters meaning) (first : NoDigitFirst suffix) :
    RunsFit (letters ++ suffix) ↔
      (∀ number ∈ phrase.numbers meaning, number ≠ Int64.minValue) ∧ RunsFit suffix := by
  induction derives generalizing suffix with
  | @int gap numeral number blanks isNumeral =>
      have single : (Phrase.value.numbers (.int number)) = [number] := rfl
      rw [List.append_assoc, runsFit_append_of_noDigits (blanks.noDigit visible),
        Values.runsFit_append_iff _ first, runsFit_numeral_iff isNumeral, single,
        List.forall_mem_singleton]
  | list blanks _ inductionHypothesis =>
      rw [List.append_assoc, runsFit_append_of_noDigits (blanks.noDigit visible)]
      exact inductionHypothesis first
  | @brackets gap inner lastGap values blanks _ lastBlanks inductionHypothesis =>
      have closingFirst : NoDigitFirst (lastGap ++ ']' :: suffix) :=
        noDigitFirst_append_cons (lastBlanks.noDigit visible) (by decide)
      simp only [List.append_assoc, List.cons_append, List.nil_append]
      rw [runsFit_append_of_noDigits (blanks.noDigit visible), runsFit_cons_iff (by decide),
        inductionHypothesis closingFirst, runsFit_append_of_noDigits (lastBlanks.noDigit visible),
        runsFit_cons_iff (by decide)]
      exact Iff.rfl
  | noElements => exact (and_iff_right (List.forall_mem_nil _)).symm
  | @elements letters behind value others _ more firstHypothesis moreHypothesis =>
      have numbers :
          Phrase.elements.numbers (value :: others) =
            Phrase.value.numbers value ++ Phrase.more.numbers others := rfl
      rw [List.append_assoc, firstHypothesis (more.noDigitFirst visible first),
        moreHypothesis first, numbers, List.forall_mem_append, and_assoc]
  | noMore => exact (and_iff_right (List.forall_mem_nil _)).symm
  | @more gap letters behind value others blanks _ more valueHypothesis moreHypothesis =>
      have numbers :
          Phrase.more.numbers (value :: others) =
            Phrase.value.numbers value ++ Phrase.more.numbers others := rfl
      simp only [List.append_assoc, List.cons_append]
      rw [runsFit_append_of_noDigits (blanks.noDigit visible), runsFit_cons_iff (by decide),
        valueHypothesis (more.noDigitFirst visible first), moreHypothesis first, numbers,
        List.forall_mem_append, and_assoc]

theorem Derives.runsFit_iff
    {found : Value} (visible : TokensVisible blank) (derives : Derives blank .value letters found) :
    RunsFit letters ↔ ∀ number ∈ found.numbers, number ≠ Int64.minValue := by
  have noDigit : NoDigitFirst [] := by
    rintro letter ⟨⟩
  have split := derives.runsFit_append_iff visible noDigit
  rwa [List.append_nil, and_iff_left runsFit_nil] at split

end Values

end ParserAlgebra
