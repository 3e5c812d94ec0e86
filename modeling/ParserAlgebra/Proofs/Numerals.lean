import ParserAlgebra.Language.Values
import ParserAlgebra.Proofs.Delimiting
import ParserAlgebra.Proofs.Reading
import ParserAlgebra.Proofs.Spans

/-!
# Numerals

A number is read digit by digit with words for the numbers on the way. If the number of the longest
run of digits at the place is a word, then so are all numbers on the way, which are no greater, and
so is the number with its sign. Then it does not matter what arithmetic does with a result that is
no word. A run that begins later in the letters is part of a run in them and no greater, so that the
condition on all runs holds of whatever is left.
-/

namespace ParserAlgebra

/-! ## Words -/

theorem isWord_iff (number : Int) :
    IsWord number ↔ -9223372036854775808 ≤ number ∧ number < 9223372036854775808 := by
  rw [IsWord, Int64.toInt_minValue, Int64.toInt_maxValue]
  omega

theorem IsWord.toInt_ofInt {number : Int} (isWord : IsWord number) :
    (Int64.ofInt number).toInt = number := by
  rw [isWord_iff] at isWord
  exact Int64.toInt_ofInt_of_le isWord.1 isWord.2

theorem IsWord.of_le {number other : Nat} (isWord : IsWord other) (le : number ≤ other) :
    IsWord number := by
  rw [isWord_iff] at isWord ⊢
  omega

theorem IsWord.neg {number : Nat} (isWord : IsWord number) : IsWord (-number) := by
  rw [isWord_iff] at isWord ⊢
  omega

namespace Values

open Text

variable {ν : Type} {overflow : Overflow} {letters digits : List Char}

theorem word_of_isWord (operation : String) {exact : Int} (isWord : IsWord exact) :
    (overflow.word operation exact : Run ν Int64) = pure (Int64.ofInt exact) := by
  cases overflow with
  | wraps => rfl
  | aborts => exact if_pos isWord

theorem toInt_one : (1 : Int64).toInt = 1 := by
  decide

theorem toInt_neg_one : (-1 : Int64).toInt = -1 := by
  decide

/-! ## Numbers of digits -/

/-- The number that results if digits are written behind a number. -/
def writtenBehind (number : Nat) (digits : List Char) : Nat :=
  digits.foldl (fun number digit => 10 * number + digitValue digit) number

theorem writtenBehind_cons (number : Nat) (digit : Char) (digits : List Char) :
    writtenBehind number (digit :: digits) =
      writtenBehind (10 * number + digitValue digit) digits :=
  rfl

theorem le_writtenBehind (number : Nat) (digits : List Char) :
    number ≤ writtenBehind number digits := by
  induction digits generalizing number with
  | nil => exact Nat.le_refl number
  | cons digit digits inductionHypothesis =>
      have behind := inductionHypothesis (10 * number + digitValue digit)
      rw [writtenBehind_cons]
      omega

theorem writtenBehind_mono {number other : Nat} (le : number ≤ other) (digits : List Char) :
    writtenBehind number digits ≤ writtenBehind other digits := by
  induction digits generalizing number other with
  | nil => exact le
  | cons digit digits inductionHypothesis =>
      rw [writtenBehind_cons, writtenBehind_cons]
      apply inductionHypothesis
      omega

/-- A digit in front makes no number smaller. -/
theorem ofDigits_le_ofDigits_cons (digit : Char) (digits : List Char) :
    ofDigits 10 digits ≤ ofDigits 10 (digit :: digits) :=
  writtenBehind_mono (Nat.zero_le _) digits

theorem toInt_digitNumber {digit : Char} (isDigit : digit.isDigit = true) :
    (digitNumber digit).toInt = digitValue digit ∧ digitValue digit < 10 := by
  have range : 48 ≤ digit.toNat ∧ digit.toNat ≤ 57 := by
    simpa [Char.isDigit, UInt32.le_iff_toNat_le] using isDigit
  have value : digitValue digit = digit.toNat - 48 := by
    simp [digitValue, isDigit]
  have word : digitNumber digit = Int64.ofInt (digit.toNat - 48 : Nat) := by
    simp [digitNumber, isDigit, Int64.ofInt_eq_ofNat]
  have isWord : IsWord (digit.toNat - 48 : Nat) := by
    rw [isWord_iff]
    omega
  rw [word, value, isWord.toInt_ofInt]
  omega

/-- One more digit, if the number with it is a word. -/
theorem withDigit_of_isWord
    {number : Nat} {digit : Char} (isDigit : digit.isDigit = true)
    (isWord : IsWord (10 * number + digitValue digit : Nat)) :
    (withDigit overflow (Int64.ofInt number) digit : Run ν Int64) =
      pure (Int64.ofInt (10 * number + digitValue digit : Nat)) := by
  have numberIsWord : IsWord number := isWord.of_le (by omega)
  have tenfoldIsWord : IsWord (10 * number : Nat) := isWord.of_le (by omega)
  have ten : (10 : Int64).toInt = 10 := by
    decide
  have product : (number : Int) * 10 = (10 * number : Nat) := by
    omega
  have tenfold :
      (overflow.times (Int64.ofInt number) 10 : Run ν Int64) =
        pure (Int64.ofInt (10 * number : Nat)) := by
    rw [Overflow.times, numberIsWord.toInt_ofInt, ten, product]
    exact word_of_isWord "multiply" tenfoldIsWord
  have sum : ((10 * number : Nat) : Int) + digitValue digit =
      (10 * number + digitValue digit : Nat) := by
    omega
  rw [withDigit, tenfold, pure_bind, Overflow.plus, tenfoldIsWord.toInt_ofInt,
    (toInt_digitNumber isDigit).1, sum]
  exact word_of_isWord "add" isWord

/-- All digits one after the other, if the number of all of them is a word. -/
theorem foldlM_withDigit
    (areDigits : ∀ digit ∈ digits, digit.isDigit = true) (number : Nat)
    (isWord : IsWord (writtenBehind number digits)) :
    (digits.foldlM (withDigit overflow) (Int64.ofInt number) : Run ν Int64) =
      pure (Int64.ofInt (writtenBehind number digits)) := by
  induction digits generalizing number with
  | nil => rfl
  | cons digit digits inductionHypothesis =>
      rw [writtenBehind_cons] at isWord ⊢
      have isWordSoFar : IsWord (10 * number + digitValue digit : Nat) :=
        isWord.of_le (le_writtenBehind _ digits)
      rw [List.foldlM_cons, withDigit_of_isWord (areDigits digit List.mem_cons_self) isWordSoFar,
        pure_bind]
      have otherDigits : ∀ other ∈ digits, other.isDigit = true :=
        fun other member => areDigits other (List.mem_cons_of_mem digit member)
      exact inductionHypothesis otherDigits (10 * number + digitValue digit) isWord

/-! ## Runs of digits -/

/-- Every longest run of digits, of those between the letters that are no digits, is the number of a
word. -/
def RunsFit (letters : List Char) : Prop :=
  ∀ run ∈ letters.splitOnP fun letter => !letter.isDigit, IsWord (ofDigits 10 run)

instance (letters : List Char) : Decidable (RunsFit letters) :=
  inferInstanceAs (Decidable (∀ run ∈ _, _))

/-- The letters do not begin with a digit. -/
def NoDigitFirst (letters : List Char) : Prop :=
  ∀ letter ∈ letters.head?, letter.isDigit = false

theorem runsFit_nil : RunsFit [] := by
  decide

theorem runsFit_append_cons_iff
    {letter : Char} (noDigit : letter.isDigit = false) (front behind : List Char) :
    RunsFit (front ++ letter :: behind) ↔ RunsFit front ∧ RunsFit behind := by
  unfold RunsFit
  rw [List.splitOnP_append_cons front behind (by simp [noDigit]), List.forall_mem_append]

theorem runsFit_cons_iff
    {letter : Char} (noDigit : letter.isDigit = false) (behind : List Char) :
    RunsFit (letter :: behind) ↔ RunsFit behind := by
  have split := runsFit_append_cons_iff noDigit [] behind
  rw [List.nil_append] at split
  rw [split, and_iff_right runsFit_nil]

/-- A run ends in front of letters that do not begin with a digit. -/
theorem runsFit_append_iff (front : List Char) {behind : List Char} (first : NoDigitFirst behind) :
    RunsFit (front ++ behind) ↔ RunsFit front ∧ RunsFit behind := by
  cases behind with
  | nil => rw [List.append_nil, and_iff_left runsFit_nil]
  | cons letter behind =>
      have noDigit : letter.isDigit = false := first letter rfl
      rw [runsFit_append_cons_iff noDigit, runsFit_cons_iff noDigit]

theorem runsFit_digits_iff (areDigits : ∀ digit ∈ digits, digit.isDigit = true) :
    RunsFit digits ↔ IsWord (ofDigits 10 digits) := by
  have single : (digits.splitOnP fun letter => !letter.isDigit) = [digits] := by
    apply List.splitOnP_eq_singleton
    intro digit member
    simp [areDigits digit member]
  rw [RunsFit, single, List.forall_mem_singleton]

theorem RunsFit.of_cons {letter : Char} (fit : RunsFit (letter :: letters)) : RunsFit letters := by
  by_cases isDigit : letter.isDigit = true
  · obtain ⟨run, runs, split⟩ :=
      List.exists_cons_of_ne_nil (List.splitOnP_ne_nil (fun letter => !letter.isDigit) letters)
    have splitLonger :
        ((letter :: letters).splitOnP fun letter => !letter.isDigit) = (letter :: run) :: runs := by
      simp [List.splitOnP_cons_eq_if_modifyHead, isDigit, split]
    unfold RunsFit at fit ⊢
    rw [splitLonger, List.forall_mem_cons] at fit
    rw [split, List.forall_mem_cons]
    exact ⟨fit.1.of_le (ofDigits_le_ofDigits_cons letter run), fit.2⟩
  · exact (runsFit_cons_iff (by simpa using isDigit) letters).1 fit

/-- What is left of a run further on in the letters is no greater than the run. -/
theorem RunsFit.of_suffix
    {later : List Char} (fit : RunsFit letters) (suffix : later <:+ letters) : RunsFit later := by
  obtain ⟨front, rfl⟩ := suffix
  induction front with
  | nil => exact fit
  | cons letter front inductionHypothesis => exact inductionHypothesis fit.of_cons

theorem noDigitFirst_dropWhile (letters : List Char) :
    NoDigitFirst (letters.dropWhile Char.isDigit) := by
  intro letter first
  have stops := List.head?_dropWhile_not Char.isDigit letters
  rw [first] at stops
  exact stops

theorem RunsFit.isWord_takeWhile (fit : RunsFit letters) :
    IsWord (ofDigits 10 (letters.takeWhile Char.isDigit)) := by
  have areDigits : ∀ digit ∈ letters.takeWhile Char.isDigit, digit.isDigit = true :=
    fun _ member => List.mem_takeWhile_imp member
  have runs := runsFit_append_iff (letters.takeWhile Char.isDigit) (noDigitFirst_dropWhile letters)
  rw [List.takeWhile_append_dropWhile] at runs
  exact (runsFit_digits_iff areDigits).1 (runs.1 fit).1

/-! ## Numerals -/

/-- One digit or more, with a minus sign in front or without it, and the number for which they
stand. -/
inductive Numeral : List Char → Int → Prop where
  | plain {digits : List Char} :
      digits ≠ [] → (∀ digit ∈ digits, digit.isDigit = true) →
        Numeral digits (ofDigits 10 digits)
  | negated {digits : List Char} :
      digits ≠ [] → (∀ digit ∈ digits, digit.isDigit = true) →
        Numeral ('-' :: digits) (-(ofDigits 10 digits))

section Reading

variable {place : Cursor} {suffix : List Char}

theorem readsTo_symbol
    {expected : Char} (left : place.rest.letters = expected :: suffix) :
    (symbol expected : Parser ν Char).ReadsTo place expected suffix := by
  obtain ⟨rest, step, restLeft⟩ := Cursor.exists_next? left
  exact ⟨rest, Parser.ending_satisfyOr_item_of_accepted step (beq_self_eq_true expected), restLeft⟩

theorem failsAt_symbol
    {expected : Char} (other : place.rest.letters.head? ≠ some expected) :
    (symbol expected : Parser ν Char).FailsAt place := by
  refine ⟨_, Parser.ending_satisfyOr_item_of_refused ?_⟩
  intro letter rest step
  have first : place.rest.letters = letter :: rest.rest.letters :=
    ((place.next?_eq_some_iff rest letter).1 step).1
  rw [first, List.head?_cons] at other
  simpa using other

/-! ### Digits -/

theorem takeWhile_digits_append
    (areDigits : ∀ digit ∈ digits, digit.isDigit = true) (first : NoDigitFirst suffix) :
    (digits ++ suffix).takeWhile Char.isDigit = digits ∧
      (digits ++ suffix).dropWhile Char.isDigit = suffix := by
  rw [List.takeWhile_append_of_pos areDigits, List.dropWhile_append_of_pos areDigits]
  cases suffix with
  | nil => simp
  | cons letter behind =>
      have noDigit : letter.isDigit = false := first letter rfl
      simp [noDigit]

/-- At a place the longest run of digits is read, if there is a digit. -/
theorem exists_natural (overflow : Overflow) (fit : RunsFit place.rest.letters) :
    ∃ rest : Cursor,
      rest.rest.letters = place.rest.letters.dropWhile Char.isDigit ∧
        ((natural overflow : Parser ν Int64).parse place).ending =
          .done
            (if place.rest.letters.takeWhile Char.isDigit = [] then
              .failure (Parser.refusal Parser.predicateNotSatisfied place)
            else
              .success
                (Int64.ofInt (ofDigits 10 (place.rest.letters.takeWhile Char.isDigit))) rest) := by
  obtain ⟨rest, passes, _, someEnding⟩ :=
    Parser.exists_span (ν := ν) Char.isDigit Parser.predicateNotSatisfied place
  have restLetters : rest.rest.letters = place.rest.letters.dropWhile Char.isDigit :=
    passes.rest_eq_of_append List.takeWhile_append_dropWhile.symm
  refine ⟨rest, restLetters, ?_⟩
  have read :
      ((place.rest.letters.takeWhile Char.isDigit).foldlM (withDigit overflow) 0 : Run ν Int64) =
        pure (Int64.ofInt (ofDigits 10 (place.rest.letters.takeWhile Char.isDigit))) :=
    foldlM_withDigit (fun _ member => List.mem_takeWhile_imp member) 0 fit.isWord_takeWhile
  change ((Parser.item.satisfyOr Char.isDigit Parser.predicateNotSatisfied).some.parse place >>=
    Reply.mapM _).ending = _
  rw [Run.ending_bind, someEnding]
  by_cases nothing : place.rest.letters.takeWhile Char.isDigit = []
  · rw [if_pos nothing, if_pos nothing]
    rfl
  · rw [if_neg nothing, if_neg nothing]
    simp only [Ending.bind, Reply.mapM, read]
    rfl

/-! ### Signs and what stands behind them -/

theorem readsTo_sign_of_minus (left : place.rest.letters = '-' :: suffix) :
    (sign : Parser ν Int64).ReadsTo place (-1) suffix :=
  ((readsTo_symbol left).map fun _ => -1).orElse _

theorem readsTo_sign_of_none (noMinus : place.rest.letters.head? ≠ some '-') :
    (sign : Parser ν Int64).ReadsTo place 1 place.rest.letters :=
  .orElse_of_failsAt ((failsAt_symbol noMinus).map _) (.valueOf 1 place)

variable {factor : Int64}

theorem exists_integer_of_sign
    (overflow : Overflow) (signed : (sign : Parser ν Int64).ReadsTo place factor suffix) :
    ∃ middle : Cursor,
      middle.rest.letters = suffix ∧
        ((integer overflow : Parser ν Int64).parse place).ending =
          ((natural overflow).parse middle >>= Reply.mapM (overflow.times factor) :
            Run ν (Reply Int64)).ending := by
  obtain ⟨middle, signEnding, left⟩ := signed
  refine ⟨middle, left, ?_⟩
  change (Parser.parse (sign.map fun sign number => overflow.times sign number) place >>=
    Reply.andThenM fun function rest =>
      (natural overflow).parse rest >>= Reply.mapM function).ending = _
  rw [Run.ending_bind, Parser.parse_map, Run.ending_map, signEnding]
  rfl

theorem failsAt_integer_of_sign
    (signed : (sign : Parser ν Int64).ReadsTo place factor suffix) (fit : RunsFit suffix)
    (nothing : suffix.takeWhile Char.isDigit = []) :
    (integer overflow : Parser ν Int64).FailsAt place := by
  obtain ⟨middle, rfl, integerEnding⟩ := exists_integer_of_sign overflow signed
  obtain ⟨rest, _, ending⟩ := exists_natural (ν := ν) overflow fit
  rw [if_pos nothing] at ending
  refine ⟨Parser.refusal Parser.predicateNotSatisfied middle, ?_⟩
  rw [integerEnding, Run.ending_bind, ending]
  rfl

/-- The sign is one of the two units, so that the product with it is a word if the number is one. -/
theorem times_of_unit
    (unit : factor.toInt = 1 ∨ factor.toInt = -1) {number : Nat} (isWord : IsWord number) :
    (overflow.times factor (Int64.ofInt number) : Run ν Int64) =
      pure (Int64.ofInt (factor.toInt * number)) := by
  rw [Overflow.times, isWord.toInt_ofInt]
  rcases unit with one | minusOne
  · rw [one, Int.one_mul]
    exact word_of_isWord "multiply" isWord
  · rw [minusOne, Int.neg_one_mul]
    exact word_of_isWord "multiply" isWord.neg

theorem readsTo_integer_of_sign
    (signed : (sign : Parser ν Int64).ReadsTo place factor suffix) (fit : RunsFit suffix)
    (unit : factor.toInt = 1 ∨ factor.toInt = -1)
    (something : suffix.takeWhile Char.isDigit ≠ []) :
    (integer overflow : Parser ν Int64).ReadsTo place
      (Int64.ofInt (factor.toInt * ofDigits 10 (suffix.takeWhile Char.isDigit)))
      (suffix.dropWhile Char.isDigit) := by
  obtain ⟨middle, rfl, integerEnding⟩ := exists_integer_of_sign overflow signed
  obtain ⟨rest, restLetters, ending⟩ := exists_natural (ν := ν) overflow fit
  rw [if_neg something] at ending
  refine ⟨rest, ?_, restLetters⟩
  rw [integerEnding, Run.ending_bind, ending]
  simp only [Ending.bind, Reply.mapM, times_of_unit unit fit.isWord_takeWhile, pure_bind]
  rfl

/-! ### Integers -/

/-- What is read as an integer is a numeral, and the integer is the number for which it stands. -/
theorem soundAt_integer (fit : RunsFit place.rest.letters) :
    (integer overflow : Parser ν Int64).SoundAt
      (fun read number => Numeral read number.toInt) place := by
  by_cases minus : place.rest.letters.head? = some '-'
  · obtain ⟨behind, left⟩ := List.head?_eq_some_iff.1 minus
    have signed := readsTo_sign_of_minus (ν := ν) left
    have fitBehind : RunsFit behind := (left ▸ fit).of_cons
    by_cases nothing : behind.takeWhile Char.isDigit = []
    · exact .of_failsAt (failsAt_integer_of_sign signed fitBehind nothing)
    · have split :
          place.rest.letters =
            '-' :: behind.takeWhile Char.isDigit ++ behind.dropWhile Char.isDigit := by
        rw [left, List.cons_append, List.takeWhile_append_dropWhile]
      have isWord := fitBehind.isWord_takeWhile
      apply (readsTo_integer_of_sign signed fitBehind (.inr toInt_neg_one) nothing).soundAt split
      rw [toInt_neg_one, Int.neg_one_mul, isWord.neg.toInt_ofInt]
      exact .negated nothing fun _ member => List.mem_takeWhile_imp member
  · have signed := readsTo_sign_of_none (ν := ν) minus
    by_cases nothing : place.rest.letters.takeWhile Char.isDigit = []
    · exact .of_failsAt (failsAt_integer_of_sign signed fit nothing)
    · have split :
          place.rest.letters =
            place.rest.letters.takeWhile Char.isDigit ++
              place.rest.letters.dropWhile Char.isDigit :=
        List.takeWhile_append_dropWhile.symm
      have isWord := fit.isWord_takeWhile
      apply (readsTo_integer_of_sign signed fit (.inl toInt_one) nothing).soundAt split
      rw [toInt_one, Int.one_mul, isWord.toInt_ofInt]
      exact .plain nothing fun _ member => List.mem_takeWhile_imp member

theorem Numeral.exists_first
    {numeral : List Char} {number : Int} (isNumeral : Numeral numeral number) :
    ∃ first others, numeral = first :: others ∧ (first.isDigit = true ∨ first = '-') := by
  cases isNumeral with
  | plain nonempty areDigits =>
      obtain ⟨first, others, rfl⟩ := List.exists_cons_of_ne_nil nonempty
      exact ⟨first, others, rfl, .inl (areDigits first List.mem_cons_self)⟩
  | negated => exact ⟨_, _, rfl, .inr rfl⟩

/-- A numeral in front of a letter that is no digit is read as its number. -/
theorem readsTo_integer
    {numeral : List Char} {number : Int64} (isNumeral : Numeral numeral number.toInt)
    (left : place.rest.letters = numeral ++ suffix) (first : NoDigitFirst suffix)
    (fit : RunsFit place.rest.letters) :
    (integer overflow : Parser ν Int64).ReadsTo place number suffix := by
  generalize exact : number.toInt = value at isNumeral
  cases isNumeral with
  | @plain digits nonempty areDigits =>
      obtain ⟨taken, dropped⟩ := takeWhile_digits_append areDigits first
      have noMinus : place.rest.letters.head? ≠ some '-' := by
        obtain ⟨digit, others, rfl⟩ := List.exists_cons_of_ne_nil nonempty
        have isDigit := areDigits digit List.mem_cons_self
        rw [left, List.cons_append, List.head?_cons]
        rintro ⟨⟩
        revert isDigit
        decide
      have signed := readsTo_sign_of_none (ν := ν) noMinus
      have something : place.rest.letters.takeWhile Char.isDigit ≠ [] := by
        rwa [left, taken]
      have reads :
          (integer overflow : Parser ν Int64).ReadsTo place
            (Int64.ofInt ((1 : Int64).toInt *
              ofDigits 10 (place.rest.letters.takeWhile Char.isDigit)))
            (place.rest.letters.dropWhile Char.isDigit) :=
        readsTo_integer_of_sign signed fit (.inl toInt_one) something
      rw [left, taken, dropped, toInt_one, Int.one_mul, ← exact, Int64.ofInt_toInt] at reads
      exact reads
  | @negated digits nonempty areDigits =>
      obtain ⟨taken, dropped⟩ := takeWhile_digits_append areDigits first
      have signed := readsTo_sign_of_minus (ν := ν) left
      have something : (digits ++ suffix).takeWhile Char.isDigit ≠ [] := by
        rwa [taken]
      have fitBehind : RunsFit (digits ++ suffix) := (left ▸ fit).of_cons
      have reads :
          (integer overflow : Parser ν Int64).ReadsTo place
            (Int64.ofInt ((-1 : Int64).toInt *
              ofDigits 10 ((digits ++ suffix).takeWhile Char.isDigit)))
            ((digits ++ suffix).dropWhile Char.isDigit) :=
        readsTo_integer_of_sign signed fitBehind (.inr toInt_neg_one) something
      rw [taken, dropped, toInt_neg_one, Int.neg_one_mul, ← exact, Int64.ofInt_toInt] at reads
      exact reads

/-- No integer begins with a letter that is neither a digit nor a minus sign. -/
theorem failsAt_integer
    {letter : Char} {behind : List Char} (fit : RunsFit place.rest.letters)
    (left : place.rest.letters = letter :: behind) (noDigit : letter.isDigit = false)
    (noMinus : letter ≠ '-') :
    (integer overflow : Parser ν Int64).FailsAt place := by
  have otherFirst : place.rest.letters.head? ≠ some '-' := by
    rw [left, List.head?_cons]
    exact fun same => noMinus (Option.some.inj same)
  have nothing : place.rest.letters.takeWhile Char.isDigit = [] := by
    rw [left, List.takeWhile_cons_of_neg (by simp [noDigit])]
  exact failsAt_integer_of_sign (readsTo_sign_of_none otherFirst) fit nothing

end Reading

end Values

end ParserAlgebra
