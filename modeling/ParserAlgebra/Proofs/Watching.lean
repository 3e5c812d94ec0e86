import ParserAlgebra.Proofs.Simulation

/-!
# Watching parsers fail

Three operations fail by themselves: the next letter at the end of a text, a given failure, and a
test. A watched parser is put together like a plain one, except that each of these is wrapped in a
parser that runs it and writes down a complaint whenever it fails. Recursive parsers are watched at
every depth of unfolding. Watching is harmless: if the complaints are taken out of its log, the run
of the watched parser is the run of the plain one.
-/

namespace ParserAlgebra

/-! ## Complaints -/

/-- The operations that fail by themselves. -/
inductive Origin where
  | item
  | failure
  | test
deriving DecidableEq, Repr

/-- A failure of an operation, with its message. -/
structure Complaint where
  origin : Origin
  message : String
deriving DecidableEq, Repr

section Logs

variable {ν α β : Type}

def Entry.lifted : Entry ν → Entry (ν ⊕ Complaint)
  | .event reported => .event reported
  | .note remark => .note (.inl remark)

def Entry.plain? : Entry (ν ⊕ Complaint) → Option (Entry ν)
  | .event reported => some (.event reported)
  | .note (.inl remark) => some (.note remark)
  | .note (.inr _) => none

def Entry.complaint? : Entry (ν ⊕ Complaint) → Option Complaint
  | .event _ => none
  | .note (.inl _) => none
  | .note (.inr complaint) => some complaint

namespace Run

/-- A run without complaints, in a log that may hold them. -/
def lifted (run : Run ν α) : Run (ν ⊕ Complaint) α :=
  ⟨run.log.map Entry.lifted, run.ending⟩

/-- A run with its complaints taken out of the log. -/
def unwatched (run : Run (ν ⊕ Complaint) α) : Run ν α :=
  ⟨run.log.filterMap Entry.plain?, run.ending⟩

/-- The complaints of a run, from the first to the last. -/
def complaints (run : Run (ν ⊕ Complaint) α) : List Complaint :=
  run.log.filterMap Entry.complaint?

@[simp]
theorem unwatched_lifted (run : Run ν α) :
    run.lifted.unwatched = run := by
  have plainLifted : (fun entry : Entry ν => entry.lifted.plain?) = some := by
    funext entry
    cases entry <;> rfl
  have sameLog : (run.log.map Entry.lifted).filterMap Entry.plain? = run.log := by
    rw [List.filterMap_map]
    change run.log.filterMap (fun entry => entry.lifted.plain?) = run.log
    rw [plainLifted, List.filterMap_some]
  exact Run.ext sameLog rfl

theorem unwatched_bind (run : Run (ν ⊕ Complaint) α) (next : α → Run (ν ⊕ Complaint) β) :
    (run >>= next).unwatched = run.unwatched >>= fun value => (next value).unwatched := by
  obtain ⟨log, ending⟩ := run
  cases ending with
  | done value =>
      refine Run.ext ?_ rfl
      exact List.filterMap_append
  | aborted message => rfl
  | cutOff => rfl

theorem complaints_bind_of_done
    {run : Run (ν ⊕ Complaint) α} {value : α} (ending : run.ending = .done value)
    (next : α → Run (ν ⊕ Complaint) β) :
    (run >>= next).complaints = run.complaints ++ (next value).complaints := by
  obtain ⟨log, _⟩ := run
  cases ending
  exact List.filterMap_append

theorem mem_complaints_bind
    {run : Run (ν ⊕ Complaint) α} {complaint : Complaint} (member : complaint ∈ run.complaints)
    (next : α → Run (ν ⊕ Complaint) β) :
    complaint ∈ (run >>= next).complaints := by
  cases ending : run.ending with
  | done value =>
      rw [complaints_bind_of_done ending]
      exact List.mem_append_left _ member
  | aborted message =>
      obtain ⟨log, _⟩ := run
      cases ending
      exact member
  | cutOff =>
      obtain ⟨log, _⟩ := run
      cases ending
      exact member

end Run

end Logs

/-! ## Watched parsers -/

def Reply.complain {ν α : Type} (origin : Origin) : Reply α → Run (ν ⊕ Complaint) (Reply α)
  | .success value rest => pure (.success value rest)
  | .failure message => do
      Run.note (.inr ⟨origin, message⟩)
      pure (.failure message)

namespace Parser

variable {ν ι α : Type} {written : String → Prop}

/-- Run a parser and write down a complaint if it fails. -/
def watch (origin : Origin) (parser : Parser (ν ⊕ Complaint) α) : Parser (ν ⊕ Complaint) α where
  parse cursor := parser.parse cursor >>= Reply.complain origin

/-- The second parser is put together like the first, but every next letter, every failure and
every test in it is watched, also in the parsers that closures build. All messages of failures and
tests in it are among the written ones. Handles are watched through, each being the parser that it
holds by `Parser.handedOn_eq`. -/
inductive Watched (written : String → Prop) :
    {α : Type} → Parser ν α → Parser (ν ⊕ Complaint) α → Prop where
  | item : Watched written Parser.item (Parser.item.watch .item)
  | valueOf {α : Type} (value : α) :
      Watched written (Parser.valueOf value) (Parser.valueOf value)
  | failure {α : Type} {message : String} :
      written message →
        Watched written
          (Parser.failure message : Parser ν α) ((Parser.failure message).watch .failure)
  | mapM {α β : Type} (mapper : α → Run ν β)
      {plain : Parser ν α} {watched : Parser (ν ⊕ Complaint) α} :
      Watched written plain watched →
        Watched written
          (plain.mapM mapper) (watched.mapM fun value => (mapper value).lifted)
  | satisfyOrM {α : Type} (test : α → Run ν Bool) {message : String}
      {plain : Parser ν α} {watched : Parser (ν ⊕ Complaint) α} :
      message = predicateNotSatisfied ∨ written message → Watched written plain watched →
        Watched written
          (plain.satisfyOrM test message)
          ((watched.satisfyOrM (fun value => (test value).lifted) message).watch .test)
  | flatMapM {α β : Type} (effect : α → Run ν Unit)
      {plain : Parser ν α} {watched : Parser (ν ⊕ Complaint) α}
      {plainNext : α → Parser ν β} {watchedNext : α → Parser (ν ⊕ Complaint) β} :
      Watched written plain watched →
      (∀ value, Watched written (plainNext value) (watchedNext value)) →
        Watched written
          (plain.flatMapM fun value => do effect value; pure (plainNext value))
          (watched.flatMapM fun value => do (effect value).lifted; pure (watchedNext value))
  | applyM {α β : Type}
      {plain : Parser ν α} {watched : Parser (ν ⊕ Complaint) α}
      {plainFunctions : Parser ν (α → Run ν β)}
      {watchedFunctions : Parser (ν ⊕ Complaint) (α → Run ν β)} :
      Watched written plain watched → Watched written plainFunctions watchedFunctions →
        Watched written
          (plain.applyM plainFunctions)
          (watched.applyM (watchedFunctions.map fun function value => (function value).lifted))
  | orElse {α : Type}
      {plainFirst plainSecond : Parser ν α}
      {watchedFirst watchedSecond : Parser (ν ⊕ Complaint) α} :
      Watched written plainFirst watchedFirst → Watched written plainSecond watchedSecond →
        Watched written
          (plainFirst.orElse plainSecond) (watchedFirst.orElse watchedSecond)
  | many {α : Type} {plain : Parser ν α} {watched : Parser (ν ⊕ Complaint) α} :
      Watched written plain watched → Watched written plain.many watched.many
  | some {α : Type} {plain : Parser ν α} {watched : Parser (ν ⊕ Complaint) α} :
      Watched written plain watched → Watched written plain.some watched.some
  | lazyM {α : Type} (effect : Run ν Unit)
      {plain : Parser ν α} {watched : Parser (ν ⊕ Complaint) α} :
      Watched written plain watched →
        Watched written
          (Parser.lazyM fun _ => do effect; pure plain)
          (Parser.lazyM fun _ => do effect.lifted; pure watched)
  | cutOff {α : Type} : Watched written (Parser.cutOff : Parser ν α) Parser.cutOff

theorem Watched.satisfyOr
    {plain : Parser ν α} {watched : Parser (ν ⊕ Complaint) α}
    (test : α → Bool) {message : String}
    (permitted : message = predicateNotSatisfied ∨ written message)
    (watches : Watched written plain watched) :
    Watched written (plain.satisfyOr test message) ((watched.satisfyOr test message).watch .test) :=
  watches.satisfyOrM (fun value => pure (test value)) permitted

theorem Watched.flatMap
    {β : Type} {plain : Parser ν α} {watched : Parser (ν ⊕ Complaint) α}
    {plainNext : α → Parser ν β} {watchedNext : α → Parser (ν ⊕ Complaint) β}
    (watches : Watched written plain watched)
    (nexts : ∀ value, Watched written (plainNext value) (watchedNext value)) :
    Watched written (plain.flatMap plainNext) (watched.flatMap watchedNext) :=
  watches.flatMapM (fun _ => pure ()) nexts

/-- Tables of rules are watched at every depth if their bodies make watched parsers from watched
ones. -/
theorem Watched.recursive
    {τ : ι → Type}
    {plainBodies : ((rule : ι) → Parser ν (τ rule)) → (rule : ι) → Parser ν (τ rule)}
    {watchedBodies :
      ((rule : ι) → Parser (ν ⊕ Complaint) (τ rule)) →
        (rule : ι) → Parser (ν ⊕ Complaint) (τ rule)}
    (keeps :
      ∀ plainRules watchedRules, (∀ rule, Watched written (plainRules rule) (watchedRules rule)) →
        ∀ rule, Watched written (plainBodies plainRules rule) (watchedBodies watchedRules rule))
    (depth : Nat) (rule : ι) :
    Watched written
      (Parser.recursive plainBodies depth rule) (Parser.recursive watchedBodies depth rule) := by
  induction depth generalizing rule with
  | zero => exact Watched.cutOff
  | succ depth inductionHypothesis => exact keeps _ _ inductionHypothesis rule

/-- A digit inside of any number of opening brackets. -/
def bracketedDigit (rules : Unit → Parser ν Char) (_ : Unit) : Parser ν Char :=
  ((Parser.item.satisfy fun letter => letter == '(').flatMap fun _ => rules ()).orElse
    (Parser.item.satisfyOr Char.isDigit "digit expected")

/-- The same, where everything that fails by itself is watched. -/
def bracketedDigitWatched
    (rules : Unit → Parser (ν ⊕ Complaint) Char) (_ : Unit) : Parser (ν ⊕ Complaint) Char :=
  ((((Parser.item.watch .item).satisfy fun letter => letter == '(').watch .test).flatMap
    fun _ => rules ()).orElse
      (((Parser.item.watch .item).satisfyOr Char.isDigit "digit expected").watch .test)

theorem watched_bracketedDigit (depth : Nat) :
    Watched (· = "digit expected")
      (Parser.recursive (bracketedDigit (ν := ν)) depth ())
      (Parser.recursive bracketedDigitWatched depth ()) := by
  apply Watched.recursive
  intro plainRules watchedRules rules _
  have letter :
      Watched (· = "digit expected") (Parser.item : Parser ν Char) (Parser.item.watch .item) :=
    .item
  have bracket := letter.satisfyOr (fun letter => letter == '(') (.inl rfl)
  exact .orElse (bracket.flatMap fun _ => rules ()) (letter.satisfyOr Char.isDigit (.inr rfl))

end Parser

/-! ## Comparisons that overlook complaints -/

/-- The comparison does not see complaints, and it sees the same in what is lifted as before. -/
structure Run.Comparison.Overlooks {ν : Type} (comparison : Run.Comparison (ν ⊕ Complaint) ν) :
    Prop where
  lifted : ∀ {α : Type} (run : Run ν α), comparison.Holds Eq run.lifted run
  complaint : ∀ complaint, comparison.Holds Eq (Run.note (.inr complaint)) (Pure.pure ())

namespace Parser

variable {ν α : Type} {comparison : Run.Comparison (ν ⊕ Complaint) ν}
  {messages : String → String → Prop} {places : Cursor → Cursor → Prop}

theorem RelatedBy.watch
    {watched : Parser (ν ⊕ Complaint) α} {plain : Parser ν α}
    (overlooks : comparison.Overlooks) (origin : Origin)
    (related : RelatedBy comparison Eq messages places watched plain) :
    RelatedBy comparison Eq messages places (watched.watch origin) plain := by
  intro watchedStart start starts
  have atOnce : plain.parse start = plain.parse start >>= pure := (bind_pure _).symm
  rw [atOnce]
  apply comparison.bind (related watchedStart start starts)
  intro watchedReply reply replies
  cases replies with
  | success sameValue rests => exact comparison.pure (.success sameValue rests)
  | @failure message plainMessage relatedMessages =>
      -- Nothing happens on the plain side while the complaint is written.
      rw [← pure_bind () fun _ => (pure (.failure plainMessage) : Run ν (Reply α))]
      have overlooked := overlooks.complaint ⟨origin, message⟩
      exact comparison.effect_pure overlooked (.failure relatedMessages)

theorem RelatedBy.liftFunctions
    {β : Type} {watchedFunctions : Parser (ν ⊕ Complaint) (α → Run ν β)}
    {plainFunctions : Parser ν (α → Run ν β)}
    (overlooks : comparison.Overlooks)
    (functions : RelatedBy comparison Eq messages places watchedFunctions plainFunctions) :
    RelatedBy comparison
      (fun watchedFunction plainFunction =>
        ∀ watchedValue plainValue, watchedValue = plainValue →
          comparison.Holds Eq (watchedFunction watchedValue) (plainFunction plainValue))
      messages places
      (watchedFunctions.map fun function value => (function value).lifted) plainFunctions := by
  -- Lifting is a change of the functions on one side; on the other side stands no change.
  have unchanged : plainFunctions.map id = plainFunctions := by
    ext1
    funext cursor
    have sameReply : (Reply.map id : Reply (α → Run ν β) → _) = id := by
      funext reply
      cases reply <;> rfl
    rw [parse_map, sameReply, id_map]
  rw [← unchanged]
  apply functions.map
  rintro function _ rfl value _ rfl
  exact overlooks.lifted (function value)

/-- Whatever overlooks complaints relates the watched parser to the plain one, if it relates the
watched next letter to the plain one; induction on the watched parser. -/
theorem Watched.relatedBy
    {written : String → Prop} {plain : Parser ν α} {watched : Parser (ν ⊕ Complaint) α}
    (overlooks : comparison.Overlooks) (together : Cursor.ProgressTogether places)
    (items : RelatedBy comparison Eq messages places (Parser.item.watch .item) Parser.item)
    (sameMessages :
      ∀ message, message = predicateNotSatisfied ∨ written message → messages message message)
    (watches : Watched written plain watched) :
    RelatedBy comparison Eq messages places watched plain := by
  induction watches with
  | item => exact items
  | valueOf value => exact .valueOf rfl
  | @failure _ message mentioned =>
      apply RelatedBy.watch overlooks
      exact .failure (sameMessages message (.inr mentioned))
  | mapM mapper _ related =>
      apply related.mapM
      rintro value _ rfl
      exact overlooks.lifted (mapper value)
  | @satisfyOrM _ test message _ _ permitted _ related =>
      apply RelatedBy.watch overlooks
      apply related.satisfyOrM _ (sameMessages message permitted)
      rintro value _ rfl
      exact overlooks.lifted (test value)
  | flatMapM effect _ _ related nexts =>
      apply related.flatMapM
      rintro value _ rfl
      exact comparison.effect_pure (overlooks.lifted (effect value)) (nexts value)
  | applyM _ _ related functions =>
      have closures := RelatedBy.liftFunctions overlooks functions
      exact related.applyM closures
  | orElse _ _ first second => exact first.orElse second
  | many _ related => exact related.many_eq together
  | some _ related => exact related.some_eq together
  | lazyM effect _ related =>
      apply RelatedBy.lazyM
      exact comparison.effect_pure (overlooks.lifted effect) related
  | cutOff => exact .cutOff

end Parser

/-! ## Watching is harmless -/

/-- What is left of a watched run without its complaints is compared with a plain run. -/
def Run.Comparison.watching (ν : Type) : Run.Comparison (ν ⊕ Complaint) ν where
  Holds values watched plain := Run.Related values watched.unwatched plain
  pure related := ⟨rfl, .done related⟩
  bindOfDone := by
    intro α β γ δ values others watched plain watchedNext plainNext related next
    rw [unwatched_bind]
    exact related.bind next
  emit _ := ⟨rfl, .done rfl⟩
  cutOff := ⟨rfl, .cutOff⟩

theorem Run.Comparison.watching_overlooks {ν : Type} :
    (Run.Comparison.watching ν).Overlooks where
  lifted run := Run.related_eq_iff.2 run.unwatched_lifted
  complaint _ := ⟨rfl, .done rfl⟩

/-- The messages that a parser may fail with, where some are written in it. -/
def Parser.Told (written : String → Prop) (message : String) : Prop :=
  message = noInput ∨ message = predicateNotSatisfied ∨ written message

section Runs

variable {ν α : Type} {written : String → Prop}
  {plain : Parser ν α} {watched : Parser (ν ⊕ Complaint) α}

/-- Without its complaints the run of a watched parser is the run of the plain one, which fails
with no other messages than those that may be told. -/
theorem Parser.Watched.related_parse
    (watches : Parser.Watched written plain watched) (cursor : Cursor) :
    Run.Related
      (Reply.Related Eq
        (fun watchedMessage message => watchedMessage = message ∧ Parser.Told written message) Eq)
      (watched.parse cursor).unwatched (plain.parse cursor) := by
  have items :
      Parser.RelatedBy (Run.Comparison.watching ν) Eq
        (fun watchedMessage message => watchedMessage = message ∧ Parser.Told written message) Eq
        Parser.item Parser.item :=
    .item Cursor.inStep_eq ⟨rfl, .inl rfl⟩
  have related :=
    watches.relatedBy Run.Comparison.watching_overlooks Cursor.inStep_eq.progressTogether
      (items.watch Run.Comparison.watching_overlooks .item) fun _ permitted => ⟨rfl, .inr permitted⟩
  exact related cursor cursor rfl

theorem Parser.Watched.unwatched_parse
    (watches : Parser.Watched written plain watched) (cursor : Cursor) :
    (watched.parse cursor).unwatched = plain.parse cursor := by
  have sameReplies :
      Run.Related Eq (watched.parse cursor).unwatched (plain.parse cursor) := by
    apply (Run.Comparison.full ν).mono _ (watches.related_parse cursor)
    intro watchedReply reply replies
    cases replies with
    | success sameValue sameRest => rw [sameValue, sameRest]
    | failure sameMessage => rw [sameMessage.1]
  exact Run.related_eq_iff.1 sameReplies

theorem Parser.Watched.told
    (watches : Parser.Watched written plain watched) {cursor : Cursor} {message : String}
    (fails : (plain.parse cursor).ending = .done (.failure message)) :
    Parser.Told written message := by
  have endings := (watches.related_parse cursor).endings
  rw [watches.unwatched_parse, fails] at endings
  cases endings with
  | done replies =>
      cases replies with
      | failure sameMessage => exact sameMessage.2

end Runs

end ParserAlgebra
