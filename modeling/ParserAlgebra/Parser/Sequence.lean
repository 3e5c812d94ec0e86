import ParserAlgebra.Parser.Basic

/-!
# Parsers one after the other

A parser can be followed by a change of its value, by a test of its value, or by another parser
that may depend on the value. In `apply` the parser of functions runs before the parser of
arguments. The forms ending in `M` take closures with effects, which run exactly when the parser
before them has succeeded; the others take plain functions and are the special case in which the
closure does nothing else.
-/

namespace ParserAlgebra.Parser

variable {ν α β : Type}

/-! ## Changing the value -/

/-- Change the value by a closure with effects. -/
def mapM (mapper : α → Run ν β) (parser : Parser ν α) : Parser ν β where
  parse cursor := parser.parse cursor >>= Reply.mapM mapper

/-- Change the value. -/
def map (mapper : α → β) (parser : Parser ν α) : Parser ν β :=
  parser.mapM fun value => pure (mapper value)

@[simp]
theorem parse_map (mapper : α → β) (parser : Parser ν α) (cursor : Cursor) :
    (parser.map mapper).parse cursor =
      Reply.map mapper <$> parser.parse cursor :=
  Reply.bind_mapM_pure mapper (parser.parse cursor)

/-! ## Choosing the next parser -/

/-- Go on with the parser that a closure with effects builds from the value. -/
def flatMapM (parser : Parser ν α) (next : α → Run ν (Parser ν β)) : Parser ν β where
  parse cursor :=
    parser.parse cursor >>= Reply.andThenM fun value rest => do
      let following ← next value
      following.parse rest

/-- Go on with a parser that depends on the value. -/
def flatMap (parser : Parser ν α) (next : α → Parser ν β) : Parser ν β :=
  parser.flatMapM fun value => pure (next value)

@[simp]
theorem parse_flatMap (parser : Parser ν α) (next : α → Parser ν β) (cursor : Cursor) :
    (parser.flatMap next).parse cursor =
      parser.parse cursor >>= Reply.andThenM fun value rest => (next value).parse rest := by
  change (parser.parse cursor >>= Reply.andThenM fun value rest => do
    let following ← pure (next value)
    following.parse rest) = _
  simp

instance : Monad (Parser ν) where
  pure := valueOf
  bind := flatMap

/-! ## Testing the value -/

/-- Why a value was refused, where no other message is given. -/
def predicateNotSatisfied : String :=
  "predicate not satisfied"

/-- Keep the value if a closure with effects accepts it, and fail with the message if not. -/
def satisfyOrM
    (test : α → Run ν Bool) (message : String) (parser : Parser ν α) : Parser ν α where
  parse cursor :=
    parser.parse cursor >>= Reply.andThenM fun value rest => do
      if ← test value then
        pure (.success value rest)
      else
        pure (.failure message)

/-- Keep the value if a closure with effects accepts it, and fail if not. -/
def satisfyM (test : α → Run ν Bool) (parser : Parser ν α) : Parser ν α :=
  parser.satisfyOrM test predicateNotSatisfied

/-- Keep the value if it passes the test, and fail with the message if not. -/
def satisfyOr (test : α → Bool) (message : String) (parser : Parser ν α) : Parser ν α :=
  parser.satisfyOrM (fun value => pure (test value)) message

/-- Keep the value if it passes the test, and fail if not. -/
def satisfy (test : α → Bool) (parser : Parser ν α) : Parser ν α :=
  parser.satisfyOr test predicateNotSatisfied

@[simp]
theorem parse_satisfyOr
    (test : α → Bool) (message : String) (parser : Parser ν α) (cursor : Cursor) :
    (parser.satisfyOr test message).parse cursor =
      parser.parse cursor >>= Reply.andThenM fun value rest =>
        pure (if test value then .success value rest else .failure message) := by
  change (parser.parse cursor >>= Reply.andThenM fun value rest => do
    if ← pure (test value) then
      pure (.success value rest)
    else
      pure (.failure message)) = _
  congr 1
  funext reply
  cases reply with
  | success value rest =>
      simp only [Reply.andThenM, pure_bind]
      split <;> rfl
  | failure reason => rfl

/-! ## Applying functions -/

/-- Run the parser of functions, then the parser of arguments, then the function, which may have
effects. -/
def applyM (parser : Parser ν α) (functions : Parser ν (α → Run ν β)) : Parser ν β where
  parse cursor :=
    functions.parse cursor >>= Reply.andThenM fun function rest =>
      parser.parse rest >>= Reply.mapM function

/-- Run the parser of functions, then the parser of arguments, and apply the function. -/
def apply (parser : Parser ν α) (functions : Parser ν (α → β)) : Parser ν β :=
  parser.applyM (functions.map fun function value => pure (function value))

@[simp]
theorem parse_apply
    (parser : Parser ν α) (functions : Parser ν (α → β)) (cursor : Cursor) :
    (parser.apply functions).parse cursor =
      functions.parse cursor >>= Reply.andThenM fun function rest =>
        Reply.map function <$> parser.parse rest := by
  change ((functions.map fun function value => pure (function value)).parse cursor >>=
    Reply.andThenM fun function rest => parser.parse rest >>= Reply.mapM function) = _
  rw [parse_map, bind_map_left]
  congr 1
  funext reply
  cases reply with
  | success function rest =>
      exact Reply.bind_mapM_pure function (parser.parse rest)
  | failure message => rfl

/-- Run the given parsers one after the other and list their values in order. -/
def inOrder (parsers : List (Parser ν α)) : Parser ν (List α) :=
  parsers.foldl
    (fun earlier parser =>
      parser.apply (earlier.map fun values value => values ++ [value]))
    (valueOf [])

end ParserAlgebra.Parser
