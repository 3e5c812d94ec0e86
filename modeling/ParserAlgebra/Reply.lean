import ParserAlgebra.Cursor

/-!
# Replies

A parser replies with a value and the place behind what it has consumed, or with a message that
says why it has none. A closure given to a reply may have effects, so the operations come in
two forms: those ending in `M` take such closures, the others take plain functions.
-/

namespace ParserAlgebra

/-- What a parser answers. -/
inductive Reply (α : Type) where
  /-- A value, and the place where the rest of the text begins. -/
  | success (value : α) (rest : Cursor)
  /-- Why there is no value. -/
  | failure (message : String)
deriving DecidableEq

namespace Reply

variable {ν α β : Type}

/-! ## What a reply shows -/

/-- Whether there is a value. -/
def isSuccess : Reply α → Bool
  | success _ _ => true
  | failure _ => false

/-- Whether there is no value. -/
def isFailure (reply : Reply α) : Bool :=
  !reply.isSuccess

/-- The value, if there is one. -/
def value? : Reply α → Option α
  | success value _ => some value
  | failure _ => none

/-- The place behind what was consumed, if there is a value. -/
def rest? : Reply α → Option Cursor
  | success _ rest => some rest
  | failure _ => none

/-- The message, if there is no value. -/
def message? : Reply α → Option String
  | success _ _ => none
  | failure message => some message

/-- A reply as the outcome of a whole parse. -/
def toExcept : Reply α → Except ParseError (α × Cursor)
  | success value rest => .ok (value, rest)
  | failure message => .error (.failed message)

/-- A reply as a record, given the text of its value. -/
def describe (describeValue : α → String) : Reply α → String
  | success value rest =>
      Text.record "Success"
        [("value", describeValue value), ("remaining", rest.describe)]
  | failure message =>
      Text.record "Failure" [("message", Text.quote message)]

/-- Replies are compared by their values and by the letters that are left. -/
instance [BEq α] : BEq (Reply α) where
  beq
    | success leftValue leftRest, success rightValue rightRest =>
        leftValue == rightValue && leftRest == rightRest
    | failure leftMessage, failure rightMessage => leftMessage == rightMessage
    | _, _ => false

/-! ## Going on from a reply -/

/-- Change the value, if there is one. -/
def map (mapper : α → β) : Reply α → Reply β
  | success value rest => success (mapper value) rest
  | failure message => failure message

/-- Change the value, if there is one, by a closure with effects. -/
def mapM (mapper : α → Run ν β) : Reply α → Run ν (Reply β)
  | success value rest => do return success (← mapper value) rest
  | failure message => pure (failure message)

/-- Go on with the value and the place behind it, if there is a value. -/
def andThenM (next : α → Cursor → Run ν (Reply β)) : Reply α → Run ν (Reply β)
  | success value rest => next value rest
  | failure message => pure (failure message)

/-- Ask for another reply if there is no value. -/
def orElseM (alternative : Unit → Run ν (Reply α)) : Reply α → Run ν (Reply α)
  | success value rest => pure (success value rest)
  | failure _ => alternative ()

/-- A plain function does nothing besides changing the value. -/
@[simp]
theorem mapM_pure (mapper : α → β) (reply : Reply α) :
    reply.mapM (fun value => (pure (mapper value) : Run ν β)) =
      pure (reply.map mapper) := by
  cases reply with
  | success value rest => simp [mapM, map]
  | failure message => rfl

@[simp]
theorem bind_mapM_pure (mapper : α → β) (run : Run ν (Reply α)) :
    (run >>= Reply.mapM fun value => pure (mapper value)) =
      Reply.map mapper <$> run := by
  change (run >>= fun reply => reply.mapM fun value => pure (mapper value)) = _
  simp

end Reply

end ParserAlgebra
