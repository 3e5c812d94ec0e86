import ParserAlgebra.Language.Nesting
import ParserAlgebra.Proofs.Spans

/-!
# How nested brackets are read

An opening bracket is read only together with its closing one. If the innermost pairs are complete
but an outer one is not, then the outer one has been given up for nothing, and so is every pair
around it, each at its own start. Therefore either all opening brackets at the start of a text find
their closing ones and all pairs are read, or not a single letter is.
-/

namespace ParserAlgebra.Nesting

variable {ν : Type} {start inner behind rest : Cursor} {depth count : Nat}

/-! ## One bracket -/

theorem parse_bracket_of_next
    {expected : Char} (step : start.next? = some (expected, rest)) :
    (bracket expected : Parser ν Char).parse start = pure (.success expected rest) := by
  rw [bracket, Parser.satisfy, Parser.parse_satisfyOr_item, step]
  simp

theorem exists_parse_bracket_of_other
    {expected : Char} (other : start.rest.letters.head? ≠ some expected) :
    ∃ message, (bracket expected : Parser ν Char).parse start = pure (.failure message) := by
  rw [bracket, Parser.satisfy, Parser.parse_satisfyOr_item]
  cases step : start.next? with
  | none => exact ⟨_, rfl⟩
  | some found =>
      obtain ⟨letter, rest⟩ := found
      have first : start.rest.letters = letter :: rest.rest.letters :=
        ((start.next?_eq_some_iff rest letter).1 step).1
      have different : letter ≠ expected := by
        rintro rfl
        exact other (by rw [first, List.head?_cons])
      exact ⟨Parser.predicateNotSatisfied, by simp [different]⟩

/-! ## One pair -/

theorem parse_nested_succ (depth : Nat) (start : Cursor) :
    (nested (depth + 1) : Parser ν Nat).parse start =
      ((bracket '(').parse start >>= Reply.andThenM fun _ inner =>
        (nested depth).parse inner >>= Reply.andThenM fun count behind =>
          Reply.map (fun _ => count + 1) <$> (bracket ')').parse behind) >>=
      Reply.orElseM fun _ => pure (.success 0 start) := by
  change (body (fun _ => nested depth) ()).parse start = _
  simp [body, Parser.parse_orElse]

/-- Where no bracket opens nothing is read. -/
theorem parse_nested_of_noOpening (noOpening : start.rest.letters.head? ≠ some '(') :
    (nested (depth + 1) : Parser ν Nat).parse start = pure (.success 0 start) := by
  obtain ⟨message, refused⟩ := exists_parse_bracket_of_other (ν := ν) noOpening
  rw [parse_nested_succ, refused]
  simp [Reply.andThenM, Reply.orElseM]

theorem parse_nested_of_closed
    (opens : start.next? = some ('(', inner))
    (within : (nested depth : Parser ν Nat).parse inner = pure (.success count behind))
    (closes : behind.next? = some (')', rest)) :
    (nested (depth + 1) : Parser ν Nat).parse start = pure (.success (count + 1) rest) := by
  rw [parse_nested_succ, parse_bracket_of_next opens]
  simp [Reply.andThenM, within, parse_bracket_of_next closes, Reply.map, Reply.orElseM]

/-- A bracket that is not closed is given up with all that was read inside it. -/
theorem parse_nested_of_unclosed
    (opens : start.next? = some ('(', inner))
    (within : (nested depth : Parser ν Nat).parse inner = pure (.success count behind))
    (unclosed : behind.rest.letters.head? ≠ some ')') :
    (nested (depth + 1) : Parser ν Nat).parse start = pure (.success 0 start) := by
  obtain ⟨message, refused⟩ := exists_parse_bracket_of_other (ν := ν) unclosed
  rw [parse_nested_succ, parse_bracket_of_next opens]
  simp [Reply.andThenM, within, refused, Reply.map, Reply.orElseM]

/-! ## All pairs -/

/-- So many opening brackets, and behind them as many closing ones. -/
def pairs (count : Nat) : List Char :=
  List.replicate count '(' ++ List.replicate count ')'

theorem pairs_succ (count : Nat) : pairs (count + 1) = ['('] ++ (pairs count ++ [')']) := by
  rw [pairs, List.replicate_succ, List.replicate_succ', pairs]
  simp only [List.cons_append, List.nil_append, List.append_assoc]

theorem length_pairs (count : Nat) : (pairs count).length = 2 * count := by
  rw [pairs, List.length_append, List.length_replicate, List.length_replicate]
  omega

theorem utf8Length_replicate (count : Nat) (letter : Char) :
    utf8Length (List.replicate count letter) = count * letter.utf8Size := by
  induction count with
  | zero => simp
  | succ count inductionHypothesis =>
      rw [List.replicate_succ, utf8Length_cons, inductionHypothesis, Nat.succ_mul, Nat.add_comm]

theorem utf8Length_pairs (count : Nat) : utf8Length (pairs count) = 2 * count := by
  have one : '('.utf8Size = 1 ∧ ')'.utf8Size = 1 := by
    decide
  rw [pairs, utf8Length_append, utf8Length_replicate, utf8Length_replicate, one.1, one.2]
  omega

/-- With so many opening brackets at the place and so many closing ones behind them, either the
closing ones suffice and all pairs are read, or the parser stays where it is. -/
structure AllOrNothing (ν : Type) (depth opened closed : Nat) (start : Cursor) : Prop where
  all :
    opened ≤ closed →
      ∃ rest,
        (nested depth : Parser ν Nat).parse start = pure (.success opened rest) ∧
          start.Passes (pairs opened) rest
  nothing :
    closed < opened → (nested depth : Parser ν Nat).parse start = pure (.success 0 start)

namespace AllOrNothing

variable {opened closed : Nat} {suffix : List Char}

theorem of_noOpening (noOpening : start.rest.letters.head? ≠ some '(') :
    AllOrNothing ν (depth + 1) 0 closed start where
  all _ := ⟨start, parse_nested_of_noOpening noOpening, .nothing start⟩
  nothing fewer := absurd fewer (Nat.not_lt_zero closed)

/-- What stands behind the pairs that are complete. -/
theorem left_behind_pairs
    (innerLeft : inner.rest.letters =
      List.replicate opened '(' ++ (List.replicate closed ')' ++ suffix))
    (enough : opened ≤ closed) (passes : inner.Passes (pairs opened) behind) :
    behind.rest.letters = List.replicate (closed - opened) ')' ++ suffix := by
  apply passes.rest_eq_of_append
  have all : opened + (closed - opened) = closed := by omega
  rw [innerLeft, pairs, List.append_assoc, ← List.append_assoc (List.replicate opened ')'),
    List.replicate_append_replicate, all]

/-- One more opening bracket in front: it is closed if there is one more closing bracket behind the
pairs inside it, and if not, what was read inside it does not count. -/
theorem step
    (opens : start.next? = some ('(', inner))
    (innerLeft : inner.rest.letters =
      List.replicate opened '(' ++ (List.replicate closed ')' ++ suffix))
    (noClosing : suffix.head? ≠ some ')')
    (within : AllOrNothing ν depth opened closed inner) :
    AllOrNothing ν (depth + 1) (opened + 1) closed start where
  all enough := by
    obtain ⟨behind, read, passes⟩ := within.all (by omega)
    have behindLeft := left_behind_pairs innerLeft (by omega) passes
    obtain ⟨others, more⟩ : ∃ others, closed - opened = others + 1 :=
      ⟨closed - opened - 1, by omega⟩
    rw [more, List.replicate_succ] at behindLeft
    obtain ⟨rest, closes, _⟩ := Cursor.exists_next? behindLeft
    have passesAll : start.Passes (pairs (opened + 1)) rest := by
      rw [pairs_succ]
      exact (Cursor.Passes.of_next? opens).trans (passes.trans (.of_next? closes))
    exact ⟨rest, parse_nested_of_closed opens read closes, passesAll⟩
  nothing fewer := by
    by_cases complete : opened ≤ closed
    · obtain ⟨behind, read, passes⟩ := within.all complete
      have behindLeft := left_behind_pairs innerLeft complete passes
      have none : closed - opened = 0 := by omega
      rw [none, List.replicate_zero, List.nil_append] at behindLeft
      have unclosed : behind.rest.letters.head? ≠ some ')' := by
        rw [behindLeft]
        exact noClosing
      exact parse_nested_of_unclosed opens read unclosed
    · -- nothing was read inside, where another bracket opens
      have nothing := within.nothing (Nat.not_le.1 complete)
      obtain ⟨others, rfl⟩ : ∃ others, opened = others + 1 := ⟨opened - 1, by omega⟩
      have unclosed : inner.rest.letters.head? ≠ some ')' := by
        rw [innerLeft]
        simp [List.replicate_succ]
      exact parse_nested_of_unclosed opens nothing unclosed

/-- Induction on the opening brackets, which are passed one by one on the way inside. -/
theorem of_split
    (left : start.rest.letters =
      List.replicate opened '(' ++ (List.replicate closed ')' ++ suffix))
    (noOpening : (List.replicate closed ')' ++ suffix).head? ≠ some '(')
    (noClosing : suffix.head? ≠ some ')')
    (deep : opened < depth) :
    AllOrNothing ν depth opened closed start := by
  induction opened generalizing depth start with
  | zero =>
      obtain ⟨depth, rfl⟩ : ∃ less, depth = less + 1 := ⟨depth - 1, by omega⟩
      rw [List.replicate_zero, List.nil_append] at left
      exact of_noOpening (left ▸ noOpening)
  | succ opened inductionHypothesis =>
      obtain ⟨depth, rfl⟩ : ∃ less, depth = less + 1 := ⟨depth - 1, by omega⟩
      have deepInside : opened < depth := by omega
      rw [List.replicate_succ, List.cons_append] at left
      obtain ⟨inner, opens, innerLeft⟩ := Cursor.exists_next? left
      exact step opens innerLeft noClosing (inductionHypothesis innerLeft deepInside)

end AllOrNothing

/-! ## Every text -/

theorem takeWhile_eq_replicate (bracket : Char) (letters : List Char) :
    letters.takeWhile (· == bracket) =
      List.replicate (letters.takeWhile (· == bracket)).length bracket := by
  rw [List.eq_replicate_iff]
  refine ⟨rfl, ?_⟩
  intro letter member
  simpa using List.mem_takeWhile_imp member

theorem head?_dropWhile_ne (bracket : Char) (letters : List Char) :
    (letters.dropWhile (· == bracket)).head? ≠ some bracket := by
  have first := List.head?_dropWhile_not (· == bracket) letters
  intro same
  rw [same] at first
  simp at first

/-- Nested brackets are read at every place of every text. If at least as many brackets close behind
the opening ones as open there, then the number of the opening ones comes out, and just these pairs
have been passed; if fewer close, zero comes out and the place is the same as before. -/
theorem reply_of_nested_brackets
    (start : Cursor) {depth : Nat} (deep : openings start.text.toList < depth) :
    (openings start.text.toList ≤ closings start.text.toList →
      ∃ rest : Cursor,
        (nested depth : Parser ν Nat).parse start =
            pure (.success (openings start.text.toList) rest) ∧
          rest.source = start.source ∧
          rest.text = String.ofList (start.text.toList.drop (2 * openings start.text.toList)) ∧
          rest.offset = start.offset + 2 * openings start.text.toList) ∧
    (closings start.text.toList < openings start.text.toList →
      (nested depth : Parser ν Nat).parse start = pure (.success 0 start)) := by
  have letters : start.text.toList = start.rest.letters := String.toList_ofList
  let behind := start.rest.letters.dropWhile (· == '(')
  let suffix := behind.dropWhile (· == ')')
  have behindSplit :
      List.replicate (closings start.rest.letters) ')' ++ suffix = behind := by
    rw [closings, ← takeWhile_eq_replicate, List.takeWhile_append_dropWhile]
  have split :
      start.rest.letters =
        List.replicate (openings start.rest.letters) '(' ++
          (List.replicate (closings start.rest.letters) ')' ++ suffix) := by
    rw [behindSplit, openings, ← takeWhile_eq_replicate, List.takeWhile_append_dropWhile]
  have noOpening :
      (List.replicate (closings start.rest.letters) ')' ++ suffix).head? ≠ some '(' := by
    rw [behindSplit]
    exact head?_dropWhile_ne '(' start.rest.letters
  have noClosing : suffix.head? ≠ some ')' := head?_dropWhile_ne ')' behind
  rw [letters] at deep ⊢
  have allOrNothing := AllOrNothing.of_split (ν := ν) split noOpening noClosing deep
  refine ⟨?_, allOrNothing.nothing⟩
  intro enough
  obtain ⟨rest, read, passes⟩ := allOrNothing.all enough
  have text := passes.text_eq
  have offset := passes.offset_eq
  rw [length_pairs, letters] at text
  rw [utf8Length_pairs] at offset
  exact ⟨rest, read, passes.source_eq, text, offset⟩

/-- Of three opening brackets behind an accent only two are closed, and of two in front of one both
are. -/
theorem reply_of_nested_brackets_unclosed_and_closed :
    openings "((())x".toList < 4 ∧
    (nested 4 : Parser Unit Nat).parse ⟨Segment.ofList ['é'], Segment.ofList "((())x".toList⟩ =
      pure (.success 0 ⟨Segment.ofList ['é'], Segment.ofList "((())x".toList⟩) ∧
    openings "(())é".toList < 3 ∧
    ∃ rest : Cursor,
      (nested 3 : Parser Unit Nat).parse (Cursor.ofText "(())é") = pure (.success 2 rest) ∧
        rest.text = "é" ∧ rest.offset = 4 := by
  have deep : openings "((())x".toList < 4 := by
    decide
  have fewer : closings "((())x".toList < openings "((())x".toList := by
    decide
  have text :
      (Cursor.mk (Segment.ofList ['é']) (Segment.ofList "((())x".toList)).text = "((())x" := by
    decide
  have unclosed := reply_of_nested_brackets (ν := Unit)
    ⟨Segment.ofList ['é'], Segment.ofList "((())x".toList⟩ (text ▸ deep)
  rw [text] at unclosed
  have deepEnough : openings "(())é".toList < 3 := by
    decide
  have enough : openings "(())é".toList ≤ closings "(())é".toList := by
    decide
  have closed := (reply_of_nested_brackets (ν := Unit) (Cursor.ofText "(())é") deepEnough).1 enough
  obtain ⟨rest, read, _, restText, restOffset⟩ := closed
  exact ⟨deep, unclosed.2 fewer, deepEnough, rest, read, restText, restOffset⟩

end ParserAlgebra.Nesting
