import ParserAlgebra.Proofs.Calls
import ParserAlgebra.Proofs.Refactoring

/-!
# Ordered choice in any grouping

Choice between two parsers may be nested to choose between many. How the choices are grouped does
not matter, because choice is associative; what matters is the order of the alternatives. They are
run one after the other, each from the place where the whole choice begins, until one of them does
not fail. That one decides, and the alternatives behind it are not run. If all of them fail, the
message is that of the last.
-/

namespace ParserAlgebra

variable {ν κ α : Type}

/-! ## Alternatives in order -/

namespace Parser

theorem parse_orElse_of_failsAt
    {first : Parser ν α} {cursor : Cursor} (fails : first.FailsAt cursor) (second : Parser ν α) :
    (first.orElse second).parse cursor =
      ⟨(first.parse cursor).log ++ (second.parse cursor).log,
        (second.parse cursor).ending⟩ := by
  obtain ⟨message, ending⟩ := fails
  rw [parse_orElse, Run.bind_of_done ending]
  rfl

theorem parse_orElse_of_not_failsAt
    {first : Parser ν α} {cursor : Cursor} (succeeds : ¬ first.FailsAt cursor)
    (second : Parser ν α) :
    (first.orElse second).parse cursor = first.parse cursor := by
  rw [parse_orElse]
  cases ending : (first.parse cursor).ending with
  | done reply =>
      rw [Run.bind_of_done ending]
      cases reply with
      | success value rest =>
          apply Run.ext
          · simp [Reply.orElseM]
          · simp [Reply.orElseM, ending]
      | failure message => exact absurd ⟨message, ending⟩ succeeds
  | aborted message =>
      rw [Run.bind_of_aborted ending, ← ending]
  | cutOff =>
      rw [Run.bind_of_cutOff ending, ← ending]

theorem choice_append
    (first second : Parser ν α) (earlier later : List (Parser ν α)) :
    choice first (earlier ++ second :: later) =
      (choice first earlier).orElse (choice second later) := by
  have associative : Std.Associative (orElse : Parser ν α → Parser ν α → Parser ν α) :=
    ⟨orElse_orElse⟩
  simp only [choice, List.foldl_append, List.foldl_cons]
  exact List.foldl_assoc

theorem choice_cons (first second : Parser ν α) (others : List (Parser ν α)) :
    choice first (second :: others) = first.orElse (choice second others) :=
  choice_append first second [] others

/-- Of a choice among named parsers those are run that come before the one that decides, and that
one; induction on the names in front of it. -/
theorem parse_choice_of_decides
    {parsers : κ → Parser ν α} {cursor : Cursor} {name : κ} {after : List κ}
    (decides : (parsers name).FailsAt cursor → after = [])
    {before : List κ} (fail : ∀ earlier ∈ before, (parsers earlier).FailsAt cursor)
    {first : κ} {others : List κ} (ordered : first :: others = before ++ name :: after) :
    (choice (parsers first) (others.map parsers)).parse cursor =
      ⟨(before ++ [name]).flatMap fun called => ((parsers called).parse cursor).log,
        ((parsers name).parse cursor).ending⟩ := by
  induction before generalizing first others with
  | nil =>
      simp only [List.nil_append, List.cons.injEq] at ordered
      obtain ⟨rfl, rfl⟩ := ordered
      cases others with
      | nil => simp [choice]
      | cons second more =>
          have succeeds : ¬ (parsers first).FailsAt cursor := by
            intro fails
            exact absurd (decides fails) (List.cons_ne_nil second more)
          rw [List.map_cons, choice_cons, parse_orElse_of_not_failsAt succeeds]
          simp
  | cons head before inductionHypothesis =>
      simp only [List.cons_append, List.cons.injEq] at ordered
      obtain ⟨rfl, ordered⟩ := ordered
      have fails : (parsers first).FailsAt cursor := fail first List.mem_cons_self
      have failLater : ∀ earlier ∈ before, (parsers earlier).FailsAt cursor :=
        fun earlier member => fail earlier (List.mem_cons_of_mem first member)
      cases others with
      | nil => simp at ordered
      | cons second more =>
          rw [List.map_cons, choice_cons, parse_orElse_of_failsAt fails,
            inductionHypothesis failLater ordered]
          simp

end Parser

/-! ## Alternatives in any grouping -/

/-- Named parsers among which it is chosen two by two. -/
inductive Alternatives (κ : Type) where
  | one (name : κ)
  | either (first second : Alternatives κ)
deriving DecidableEq, Repr

namespace Alternatives

/-- The names from left to right. -/
def names : Alternatives κ → List κ
  | one name => [name]
  | either first second => first.names ++ second.names

/-- The choice among the named parsers, grouped as the alternatives are. -/
def parser (parsers : κ → Parser ν α) : Alternatives κ → Parser ν α
  | one name => parsers name
  | either first second => (first.parser parsers).orElse (second.parser parsers)

theorem names_ne_nil (tree : Alternatives κ) : tree.names ≠ [] := by
  induction tree with
  | one name => simp [names]
  | either first second firstNames _ => simp [names, firstNames]

/-- How the alternatives are grouped plays no part. -/
theorem parser_eq_choice
    (parsers : κ → Parser ν α) (tree : Alternatives κ) {first : κ} {others : List κ}
    (ordered : tree.names = first :: others) :
    tree.parser parsers = Parser.choice (parsers first) (others.map parsers) := by
  induction tree generalizing first others with
  | one name =>
      simp only [names, List.cons.injEq] at ordered
      obtain ⟨rfl, rfl⟩ := ordered
      rfl
  | either left right leftChoice rightChoice =>
      obtain ⟨leftFirst, leftOthers, leftNames⟩ := List.exists_cons_of_ne_nil left.names_ne_nil
      obtain ⟨rightFirst, rightOthers, rightNames⟩ :=
        List.exists_cons_of_ne_nil right.names_ne_nil
      simp only [names, leftNames, rightNames, List.cons_append, List.cons.injEq] at ordered
      obtain ⟨rfl, rfl⟩ := ordered
      rw [parser, leftChoice leftNames, rightChoice rightNames, List.map_append, List.map_cons,
        Parser.choice_append]

/-- The run of the alternatives is made up of the runs of the called ones, in order and each from
the same place, and ends as given. With all parsers announced, the notes in its log tell of just
these calls. -/
structure RunsBy (parsers : κ → Parser ν α) (tree : Alternatives κ) (cursor : Cursor)
    (called : List κ) (ending : Ending (Reply α)) : Prop where
  run_eq :
    (tree.parser parsers).parse cursor =
      ⟨called.flatMap fun name => ((parsers name).parse cursor).log, ending⟩
  announced_eq :
    ∀ mark : κ → Cursor → ν,
      (tree.parser fun name => (parsers name).announced (mark name)).parse cursor =
        ⟨called.flatMap fun name =>
          .note (mark name cursor) :: ((parsers name).parse cursor).log, ending⟩

theorem runsBy_of_decides
    (parsers : κ → Parser ν α) {tree : Alternatives κ} {cursor : Cursor}
    {before : List κ} {name : κ} {after : List κ}
    (ordered : tree.names = before ++ name :: after)
    (fail : ∀ earlier ∈ before, (parsers earlier).FailsAt cursor)
    (decides : (parsers name).FailsAt cursor → after = []) :
    tree.RunsBy parsers cursor (before ++ [name]) ((parsers name).parse cursor).ending := by
  obtain ⟨first, others, names⟩ := List.exists_cons_of_ne_nil tree.names_ne_nil
  rw [names] at ordered
  constructor
  · rw [parser_eq_choice parsers tree names]
    exact Parser.parse_choice_of_decides decides fail ordered
  · intro mark
    rw [parser_eq_choice _ tree names]
    have failAnnounced :
        ∀ earlier ∈ before, ((parsers earlier).announced (mark earlier)).FailsAt cursor := by
      intro earlier member
      rw [Parser.failsAt_announced_iff]
      exact fail earlier member
    have decidesAnnounced :
        ((parsers name).announced (mark name)).FailsAt cursor → after = [] := by
      rw [Parser.failsAt_announced_iff]
      exact decides
    have run := Parser.parse_choice_of_decides decidesAnnounced failAnnounced ordered
    simpa using run

end Alternatives

/-- If some alternative does not fail, then the first such decides: the alternatives up to it are
run, each from the place itself, and the choice ends as it does. If all fail, then all are run in
the same way, and the choice fails with the message of the last. -/
theorem run_of_alternatives
    (parsers : κ → Parser ν α) (tree : Alternatives κ) (cursor : Cursor) :
    (∀ before name after,
      tree.names = before ++ name :: after →
      (∀ earlier ∈ before, (parsers earlier).FailsAt cursor) →
      ¬ (parsers name).FailsAt cursor →
        tree.RunsBy parsers cursor (before ++ [name]) ((parsers name).parse cursor).ending) ∧
    ((∀ name ∈ tree.names, (parsers name).FailsAt cursor) →
      ∃ before last message,
        tree.names = before ++ [last] ∧
          ((parsers last).parse cursor).ending = .done (.failure message) ∧
          tree.RunsBy parsers cursor tree.names (.done (.failure message))) := by
  constructor
  · intro before name after ordered fail succeeds
    apply Alternatives.runsBy_of_decides parsers ordered fail
    intro fails
    exact absurd fails succeeds
  · intro fail
    rcases List.eq_nil_or_concat tree.names with noNames | ⟨before, last, ordered⟩
    · exact absurd noNames tree.names_ne_nil
    · rw [List.concat_eq_append] at ordered
      have failBefore : ∀ earlier ∈ before, (parsers earlier).FailsAt cursor := by
        intro earlier member
        apply fail
        simp [ordered, member]
      have lastFails : (parsers last).FailsAt cursor := by
        apply fail
        simp [ordered]
      obtain ⟨message, ending⟩ := lastFails
      have runs :=
        Alternatives.runsBy_of_decides parsers ordered failBefore fun _ => rfl
      rw [← ordered, ending] at runs
      exact ⟨before, last, message, ordered, ending, runs⟩

/-- Three alternatives: a letter that is read and refused, a parser that is given up, and a parser
that would succeed. -/
def refuseAbortAccept : Fin 3 → Parser ν Char
  | 0 => Parser.item.satisfyOr (fun letter => letter == 'x') "no x"
  | 1 => ⟨fun _ => Run.abort "given up"⟩
  | 2 => Parser.item

theorem run_of_alternatives_refuseAbortAccept :
    (refuseAbortAccept 0 : Parser Unit Char).FailsAt (Cursor.ofText "é") ∧
    ¬ (refuseAbortAccept 1 : Parser Unit Char).FailsAt (Cursor.ofText "é") ∧
    (Alternatives.either (.one 0) (.either (.one 1) (.one 2))).RunsBy
      (refuseAbortAccept : Fin 3 → Parser Unit Char) (Cursor.ofText "é") [0, 1]
      (.aborted "given up") := by
  have refuses : (refuseAbortAccept 0 : Parser Unit Char).FailsAt (Cursor.ofText "é") := by
    exact ⟨"no x", by decide +kernel⟩
  have aborts : ¬ (refuseAbortAccept 1 : Parser Unit Char).FailsAt (Cursor.ofText "é") := by
    rintro ⟨message, ending⟩
    cases ending
  have failBefore :
      ∀ earlier ∈ [(0 : Fin 3)],
        (refuseAbortAccept earlier : Parser Unit Char).FailsAt (Cursor.ofText "é") := by
    intro earlier member
    obtain rfl : earlier = 0 := by simpa using member
    exact refuses
  have parts :=
    run_of_alternatives (refuseAbortAccept : Fin 3 → Parser Unit Char)
      (.either (.one 0) (.either (.one 1) (.one 2))) (Cursor.ofText "é")
  exact ⟨refuses, aborts, parts.1 [0] 1 [2] rfl failBefore aborts⟩

end ParserAlgebra
