import ParserAlgebra.Event

/-!
# Runs

Parsers and the closures inside them may write to a log and may give up. A run is the whole of
what can be seen of such a computation: the entries it has written, in order, and how it ended.
Runs form a monad in which logs are joined and nothing happens after an ending without a value.
Long loops are built with `iterate`, whose main law `iterate_eq` says that it is one step
followed by the rest of the loop.
-/

namespace ParserAlgebra

/-- How a run ends. -/
inductive Ending (α : Type) where
  /-- The run has come to its value. -/
  | done (value : α)
  /-- The run was given up with a message. -/
  | aborted (message : String)
  /-- A recursive definition was unfolded as often as was allowed. -/
  | cutOff
deriving DecidableEq, Repr

namespace Ending

variable {α β γ : Type}

/-- Go on with the value of an ending, if it has one. -/
def bind (ending : Ending α) (next : α → Ending β) : Ending β :=
  match ending with
  | .done value => next value
  | .aborted message => .aborted message
  | .cutOff => .cutOff

theorem bind_assoc (ending : Ending α) (next : α → Ending β) (last : β → Ending γ) :
    (ending.bind next).bind last = ending.bind fun value => (next value).bind last := by
  cases ending <;> rfl

/-- An ending with a value goes on from a value. -/
theorem exists_of_bind_eq_done
    {ending : Ending α} {next : α → Ending β} {image : β}
    (done : ending.bind next = .done image) :
    ∃ value, ending = .done value ∧ next value = .done image := by
  cases ending with
  | done value => exact ⟨value, rfl, done⟩
  | aborted message => cases done
  | cutOff => cases done

end Ending

/-- A log and an ending. -/
@[ext]
structure Run (ν : Type) (α : Type) where
  /-- The entries, from the first to the last. -/
  log : List (Entry ν)
  /-- How the run ended. -/
  ending : Ending α
deriving DecidableEq, Repr

namespace Run

variable {ν α β σ : Type}

/-! ## The monad -/

/-- A run that has its value at once. -/
def done (value : α) : Run ν α :=
  ⟨[], .done value⟩

/-- Go on with the value of a run, if it has one. -/
def andThen (run : Run ν α) (next : α → Run ν β) : Run ν β :=
  match run.ending with
  | .done value => ⟨run.log ++ (next value).log, (next value).ending⟩
  | .aborted message => ⟨run.log, .aborted message⟩
  | .cutOff => ⟨run.log, .cutOff⟩

instance : Monad (Run ν) where
  pure := done
  bind := andThen

@[simp]
theorem log_pure (value : α) :
    (pure value : Run ν α).log = [] :=
  rfl

@[simp]
theorem ending_pure (value : α) :
    (pure value : Run ν α).ending = .done value :=
  rfl

instance : LawfulMonad (Run ν) := LawfulMonad.mk' (Run ν)
  (by
    intro α run
    obtain ⟨log, ending⟩ := run
    cases ending <;> simp [Functor.map, andThen, done])
  (by
    intro α β value next
    simp [bind, pure, andThen, done])
  (by
    intro α β γ run next last
    obtain ⟨log, ending⟩ := run
    cases ending with
    | done value =>
        simp only [bind, andThen]
        cases (next value).ending <;> simp
    | aborted message => rfl
    | cutOff => rfl)

theorem done_bind (log : List (Entry ν)) (value : α) (next : α → Run ν β) :
    (⟨log, .done value⟩ : Run ν α) >>= next =
      ⟨log ++ (next value).log, (next value).ending⟩ :=
  rfl

theorem aborted_bind (log : List (Entry ν)) (message : String) (next : α → Run ν β) :
    (⟨log, .aborted message⟩ : Run ν α) >>= next = ⟨log, .aborted message⟩ :=
  rfl

theorem cutOff_bind (log : List (Entry ν)) (next : α → Run ν β) :
    (⟨log, .cutOff⟩ : Run ν α) >>= next = ⟨log, .cutOff⟩ :=
  rfl

theorem ending_bind (run : Run ν α) (next : α → Run ν β) :
    (run >>= next).ending = run.ending.bind fun value => (next value).ending := by
  obtain ⟨log, ending⟩ := run
  cases ending <;> rfl

theorem ending_map (mapper : α → β) (run : Run ν α) :
    (mapper <$> run).ending = run.ending.bind fun value => .done (mapper value) := by
  obtain ⟨log, ending⟩ := run
  cases ending <;> rfl

/-! ## Single actions -/

/-- Report an event. -/
def emit (event : Event) : Run ν Unit :=
  ⟨[.event event], .done ()⟩

/-- Write a note. -/
def note (note : ν) : Run ν Unit :=
  ⟨[.note note], .done ()⟩

/-- Give up with a message. -/
def abort (message : String) : Run ν α :=
  ⟨[], .aborted message⟩

/-- End because a recursive definition may not be unfolded further. -/
def cutOff : Run ν α :=
  ⟨[], .cutOff⟩

/-- The value of a run that has come to one. -/
def value? (run : Run ν α) : Option α :=
  match run.ending with
  | .done value => some value
  | _ => none

/-! ## Loops -/

/-- What a step of a loop decides: to go on in a smaller state, or to end with a result. -/
inductive Step (size : σ → Nat) (state : σ) (β : Type) where
  /-- Go on in a state that is smaller than the present one. -/
  | next (following : σ) (smaller : size following < size state)
  /-- End the loop. -/
  | last (result : β)

/-- The loop behind `iterate`, with the entries so far from the latest to the first. -/
def iterateAfter
    (size : σ → Nat) (step : (state : σ) → Run ν (Step size state β))
    (earlier : List (Entry ν)) (state : σ) : Run ν β :=
  match step state with
  | ⟨log, .done (.next following _)⟩ => iterateAfter size step (log.reverse ++ earlier) following
  | ⟨log, .done (.last result)⟩ => ⟨(log.reverse ++ earlier).reverse, .done result⟩
  | ⟨log, .aborted message⟩ => ⟨(log.reverse ++ earlier).reverse, .aborted message⟩
  | ⟨log, .cutOff⟩ => ⟨(log.reverse ++ earlier).reverse, .cutOff⟩
termination_by size state

/-- Repeat a step until it ends the loop. The size of the state falls with each round, so the
loop ends; it holds no frame per round, whatever the number of rounds. -/
def iterate
    (size : σ → Nat) (step : (state : σ) → Run ν (Step size state β))
    (state : σ) : Run ν β :=
  iterateAfter size step [] state

/-- Entries that were there before the loop come first in the log, and change nothing else. -/
theorem iterateAfter_eq
    (size : σ → Nat) (step : (state : σ) → Run ν (Step size state β))
    (earlier : List (Entry ν)) (state : σ) :
    iterateAfter size step earlier state =
      ⟨earlier.reverse ++ (iterate size step state).log,
        (iterate size step state).ending⟩ := by
  induction length : size state using Nat.strongRecOn generalizing earlier state with
  | ind bound inductionHypothesis =>
      unfold iterate
      rw [iterateAfter, iterateAfter]
      cases outcome : step state with
      | mk log ending =>
          cases ending with
          | done decision =>
              cases decision with
              | next following smaller =>
                  have fewer : size following < bound := by omega
                  simp only
                  rw [inductionHypothesis (size following) fewer _ following rfl,
                    inductionHypothesis (size following) fewer (log.reverse ++ []) following rfl]
                  simp
              | last result => simp
          | aborted message => simp
          | cutOff => simp

/-- A loop is its first step, followed by the loop from the next state or by the result. -/
theorem iterate_eq
    (size : σ → Nat) (step : (state : σ) → Run ν (Step size state β))
    (state : σ) :
    iterate size step state =
      step state >>= fun decision =>
        match decision with
        | .next following _ => iterate size step following
        | .last result => pure result := by
  change iterateAfter size step [] state = _
  rw [iterateAfter]
  cases outcome : step state with
  | mk log ending =>
      cases ending with
      | done decision =>
          cases decision with
          | next following smaller =>
              simp [iterateAfter_eq, done_bind]
          | last result => simp [done_bind]
      | aborted message => simp [aborted_bind]
      | cutOff => simp [cutOff_bind]

end Run

end ParserAlgebra
