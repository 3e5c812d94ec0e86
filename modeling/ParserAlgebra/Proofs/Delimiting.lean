import Mathlib.Logic.Function.Basic
import Mathlib.Tactic.SplitIfs
import ParserAlgebra.Text.Quoted

/-!
# Written forms that show where they end

What is written one behind the other can be read back if it shows where each part ends. A way of
writing is `SelfDelimiting` if a value and whatever is written behind it can both be told from the
whole. Numbers are so in front of a letter that is no digit, since no digit is lost and the letter
stands behind the last one; letters inside quotes are so by themselves, since the letter after a
backslash tells what follows it; and a quoted text ends at the first quote that no backslash hides.
Which letters are written by their number does not matter.
-/

namespace ParserAlgebra.Text

variable {α β : Type}

/-- Whatever follows the written form of a value, both can be told from the whole. -/
def SelfDelimiting (write : α → List Char) : Prop :=
  ∀ left right leftRest rightRest,
    write left ++ leftRest = write right ++ rightRest → left = right ∧ leftRest = rightRest

namespace SelfDelimiting

variable {write : α → List Char} {other : β → List Char}

theorem injective (delimiting : SelfDelimiting write) : Function.Injective write := by
  intro left right same
  have sameAppended : write left ++ [] = write right ++ [] := by
    rw [same]
  exact (delimiting left right [] [] sameAppended).1

theorem behind (delimiting : SelfDelimiting write) (initial : List Char) :
    SelfDelimiting fun value => initial ++ write value := by
  intro left right leftRest rightRest same
  rw [List.append_assoc, List.append_assoc] at same
  exact delimiting left right leftRest rightRest (List.append_cancel_left same)

theorem comp
    {function : β → α} (delimiting : SelfDelimiting write)
    (injective : Function.Injective function) :
    SelfDelimiting fun value => write (function value) := by
  intro left right leftRest rightRest same
  obtain ⟨sameImage, sameRest⟩ := delimiting _ _ leftRest rightRest same
  exact ⟨injective sameImage, sameRest⟩

theorem pair (first : SelfDelimiting write) (second : SelfDelimiting other) :
    SelfDelimiting fun values : α × β => write values.1 ++ other values.2 := by
  rintro ⟨left, leftOther⟩ ⟨right, rightOther⟩ leftRest rightRest same
  simp only [List.append_assoc] at same
  obtain ⟨rfl, sameBehind⟩ := first _ _ _ _ same
  obtain ⟨rfl, sameRest⟩ := second _ _ _ _ sameBehind
  exact ⟨rfl, sameRest⟩

/-- A letter that occurs in no written form shows where each of them ends. -/
theorem stopped
    {stop : Char} (injective : Function.Injective write) (absent : ∀ value, stop ∉ write value) :
    SelfDelimiting fun value => write value ++ [stop] := by
  intro left right leftRest rightRest (same : write left ++ [stop] ++ leftRest = _)
  -- In front of the first stop there is the whole written form and nothing else.
  have takenTo (value : α) (rest : List Char) :
      (write value ++ [stop] ++ rest).takeWhile (· ≠ stop) = write value := by
    rw [List.append_assoc, List.takeWhile_append_of_pos]
    · simp
    · intro letter member
      simp only [decide_eq_true_eq]
      rintro rfl
      exact absent value member
  have sameForm : write left = write right := by
    rw [← takenTo left leftRest, same, takenTo right rightRest]
  rw [sameForm] at same
  exact ⟨injective sameForm, List.append_cancel_left same⟩

/-- Written forms one behind the other, which are ended by a letter with which none begins;
induction on the values, whose forms are told off one by one. -/
theorem flatMap
    {stop : Char} (delimiting : SelfDelimiting write)
    (begins : ∀ value, ∃ first others, write value = first :: others ∧ first ≠ stop) :
    SelfDelimiting fun values : List α => values.flatMap write ++ [stop] := by
  have differ (value : α) (values : List α) (leftRest rightRest : List Char) :
      stop :: leftRest ≠ (value :: values).flatMap write ++ [stop] ++ rightRest := by
    obtain ⟨first, others, form, notStop⟩ := begins value
    intro same
    rw [List.flatMap_cons, form] at same
    exact notStop (List.head_eq_of_cons_eq same).symm
  intro left
  induction left with
  | nil =>
      intro right leftRest rightRest same
      cases right with
      | nil => exact ⟨rfl, List.tail_eq_of_cons_eq same⟩
      | cons value values => exact absurd same (differ value values leftRest rightRest)
  | cons value values inductionHypothesis =>
      intro right leftRest rightRest same
      cases right with
      | nil => exact absurd same.symm (differ value values rightRest leftRest)
      | cons otherValue otherValues =>
          simp only [List.flatMap_cons, List.append_assoc] at same
          obtain ⟨rfl, sameBehind⟩ := delimiting _ _ _ _ same
          rw [← List.append_assoc, ← List.append_assoc] at sameBehind
          obtain ⟨rfl, sameRest⟩ := inductionHypothesis _ _ _ sameBehind
          exact ⟨rfl, sameRest⟩

end SelfDelimiting

/-! ## Numbers -/

/-- The number for which a digit stands, where digits from ten on are lower-case letters. -/
def digitValue (digit : Char) : Nat :=
  if digit.isDigit then digit.toNat - '0'.toNat else digit.toNat - 'a'.toNat + 10

theorem digitValue_digitChar : ∀ number < 16, digitValue (Nat.digitChar number) = number := by
  decide

/-- The number that is written by digits. -/
def ofDigits (base : Nat) (digits : List Char) : Nat :=
  digits.foldl (fun number digit => base * number + digitValue digit) 0

section Digits

variable {base : Nat} (several : 1 < base)

include several

theorem ofDigits_toDigits (few : base ≤ 16) (number : Nat) :
    ofDigits base (Nat.toDigits base number) = number := by
  have digitRead {digit : Nat} (isDigit : digit < base) :
      digitValue (Nat.digitChar digit) = digit :=
    digitValue_digitChar digit (Nat.lt_of_lt_of_le isDigit few)
  induction number using Nat.base_induction base several with
  | single digit isDigit =>
      rw [Nat.toDigits_of_lt_base isDigit]
      simp [ofDigits, digitRead isDigit]
  | digit front last isDigit positive inductionHypothesis =>
      rw [← Nat.toDigits_append_toDigits several positive isDigit,
        Nat.toDigits_of_lt_base isDigit, ofDigits, List.foldl_append]
      change base * ofDigits base (Nat.toDigits base front) + digitValue (Nat.digitChar last) = _
      rw [inductionHypothesis, digitRead isDigit]

theorem exists_digitChar_of_mem
    {letter : Char} {number : Nat} (member : letter ∈ Nat.toDigits base number) :
    ∃ digit, Nat.digitChar digit = letter := by
  induction number using Nat.base_induction base several with
  | single digit isDigit =>
      rw [Nat.toDigits_of_lt_base isDigit, List.mem_singleton] at member
      exact ⟨digit, member.symm⟩
  | digit front last isDigit positive inductionHypothesis =>
      rw [← Nat.toDigits_append_toDigits several positive isDigit,
        Nat.toDigits_of_lt_base isDigit, List.mem_append, List.mem_singleton] at member
      rcases member with inFront | isLast
      · exact inductionHypothesis inFront
      · exact ⟨last, isLast.symm⟩

/-- Digits are ended by any letter that is not one of them. -/
theorem SelfDelimiting.number
    (few : base ≤ 16) {stop : Char} (noDigit : ∀ digit, Nat.digitChar digit ≠ stop) :
    SelfDelimiting fun number => Nat.toDigits base number ++ [stop] := by
  apply SelfDelimiting.stopped
  · exact Function.LeftInverse.injective (ofDigits_toDigits several few)
  · intro number member
    obtain ⟨digit, same⟩ := exists_digitChar_of_mem several member
    exact noDigit digit same

end Digits

/-! ## Letters and texts in quotes -/

/-- The letters that have a short form behind a backslash, with the letter that stands there. -/
def shortForms : List (Char × Char) :=
  [('\x00', '0'), ('\t', 't'), ('\n', 'n'), ('\r', 'r'), ('"', '"'), ('\\', '\\')]

theorem shortForms_not_number : ∀ short ∈ shortForms, short.2 ≠ 'u' := by
  decide

theorem shortForms_injective :
    ∀ left ∈ shortForms, ∀ right ∈ shortForms, left.2 = right.2 → left.1 = right.1 := by
  decide

/-- The kinds of written forms that a letter can have inside quotes. -/
inductive Encoded (letter : Char) : List Char → Prop where
  | short {name : Char} : (letter, name) ∈ shortForms → Encoded letter ['\\', name]
  | number : Encoded letter (encodeNumber letter)
  | itself : letter ≠ '\\' → letter ≠ '"' → Encoded letter [letter]

theorem encoded_encodeLetter (hidden : Char → Bool) (letter : Char) :
    Encoded letter (encodeLetter hidden letter) := by
  unfold encodeLetter
  split_ifs with nul tab feed ret quotes slash isHidden
  · subst nul
    exact .short (by decide)
  · subst tab
    exact .short (by decide)
  · subst feed
    exact .short (by decide)
  · subst ret
    exact .short (by decide)
  · subst quotes
    exact .short (by decide)
  · subst slash
    exact .short (by decide)
  · exact .number
  · exact .itself slash quotes

theorem selfDelimiting_encodeNumber : SelfDelimiting encodeNumber := by
  have noBrace (digit : Nat) : Nat.digitChar digit ≠ '}' := Nat.digitChar_ne '}' rfl
  have digits : SelfDelimiting fun number => Nat.toDigits 16 number ++ ['}'] :=
    SelfDelimiting.number (by decide) (Nat.le_refl 16) noBrace
  have toNatInjective : Function.Injective Char.toNat := fun _ _ => Char.toNat_inj.1
  exact (digits.comp toNatInjective).behind ['\\', 'u', '{']

namespace Encoded

variable {left right letter : Char} {leftForm rightForm form leftRest rightRest : List Char}

/-- The letter after a backslash tells the short forms apart from one another and from numbers, and
a letter that stands for itself is no backslash. -/
theorem eq_of_append_eq
    (leftEncoded : Encoded left leftForm) (rightEncoded : Encoded right rightForm)
    (same : leftForm ++ leftRest = rightForm ++ rightRest) :
    left = right ∧ leftRest = rightRest := by
  cases leftEncoded with
  | @short leftName leftShort =>
      cases rightEncoded with
      | @short rightName rightShort =>
          have sameNames : leftName :: leftRest = rightName :: rightRest :=
            List.tail_eq_of_cons_eq same
          obtain ⟨sameName, sameRest⟩ := List.cons.inj sameNames
          exact ⟨shortForms_injective _ leftShort _ rightShort sameName, sameRest⟩
      | number =>
          have isNumber : leftName = 'u' :=
            List.head_eq_of_cons_eq (List.tail_eq_of_cons_eq same)
          exact absurd isNumber (shortForms_not_number _ leftShort)
      | itself noSlash _ => exact absurd (List.head_eq_of_cons_eq same).symm noSlash
  | number =>
      cases rightEncoded with
      | @short rightName rightShort =>
          have isNumber : 'u' = rightName :=
            List.head_eq_of_cons_eq (List.tail_eq_of_cons_eq same)
          exact absurd isNumber.symm (shortForms_not_number _ rightShort)
      | number => exact selfDelimiting_encodeNumber left right leftRest rightRest same
      | itself noSlash _ => exact absurd (List.head_eq_of_cons_eq same).symm noSlash
  | itself noSlash _ =>
      cases rightEncoded with
      | short _ => exact absurd (List.head_eq_of_cons_eq same) noSlash
      | number => exact absurd (List.head_eq_of_cons_eq same) noSlash
      | itself _ _ => exact List.cons.inj same

theorem exists_first (encoded : Encoded letter form) :
    ∃ first others, form = first :: others ∧ first ≠ '"' := by
  cases encoded with
  | short _ => exact ⟨_, _, rfl, by decide⟩
  | number => exact ⟨_, _, rfl, by decide⟩
  | itself _ noQuotes => exact ⟨_, _, rfl, noQuotes⟩

end Encoded

theorem selfDelimiting_encodeLetter (hidden : Char → Bool) :
    SelfDelimiting (encodeLetter hidden) := by
  intro left right leftRest rightRest same
  exact (encoded_encodeLetter hidden left).eq_of_append_eq (encoded_encodeLetter hidden right) same

/-- The closing quotes of a text can be told from those inside, whatever follows them. -/
theorem selfDelimiting_quoteWith (hidden : Char → Bool) :
    SelfDelimiting fun text : String => (quoteWith hidden text).toList := by
  have letters : SelfDelimiting fun letters : List Char => encode hidden letters ++ ['"'] :=
    (selfDelimiting_encodeLetter hidden).flatMap fun letter =>
      (encoded_encodeLetter hidden letter).exists_first
  have toListInjective : Function.Injective String.toList := fun _ _ => String.toList_injective
  have quoted := (letters.comp toListInjective).behind ['"']
  simp only [quoteWith, String.toList_ofList]
  exact quoted

end ParserAlgebra.Text
