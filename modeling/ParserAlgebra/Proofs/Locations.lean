import Mathlib.Data.List.Induction
import ParserAlgebra.Location

/-!
# Locations counted at once

A location is found by passing over letters one at a time. What it has counted in the end can be
said of all these letters together: how many there are, how many of them end lines, and how many
stand behind the last one that does.
-/

namespace ParserAlgebra.Location

/-- The letters behind the last line feed, which are all of them if there is none. -/
def lastLine (letters : List Char) : List Char :=
  (letters.reverse.takeWhile fun letter => letter ≠ '\n').reverse

theorem lastLine_append_singleton (letters : List Char) (letter : Char) :
    lastLine (letters ++ [letter]) =
      if letter = '\n' then [] else lastLine letters ++ [letter] := by
  by_cases feed : letter = '\n'
  · simp [lastLine, feed]
  · simp [lastLine, feed]

/-- The location of the place behind the letters, each of its numbers counted by itself. -/
structure IsBehind (letters : List Char) (location : Location) : Prop where
  line_eq : location.line = 1 + letters.count '\n'
  lineOffset_eq : location.lineOffset = (lastLine letters).length
  position_eq : location.position = letters.length

theorem IsBehind.step
    {letters : List Char} {location : Location} (behind : IsBehind letters location)
    (letter : Char) :
    IsBehind (letters ++ [letter]) (location.step letter) := by
  obtain ⟨line, lineOffset, position⟩ := behind
  by_cases feed : letter = '\n'
  · constructor
    · simp [Location.step, feed, line, Nat.add_assoc]
    · simp [Location.step, feed, lastLine_append_singleton]
    · simp [position]
  · constructor
    · simp [Location.step, feed, line]
    · simp [Location.step, feed, lastLine_append_singleton, lineOffset]
    · simp [position]

theorem isBehind_after (letters : List Char) : IsBehind letters (after letters) := by
  induction letters using List.reverseRecOn with
  | nil =>
      exact ⟨rfl, rfl, rfl⟩
  | append_singleton initial letter inductionHypothesis =>
      rw [after_append_singleton]
      exact inductionHypothesis.step letter

/-- The letters leave no choice of location. -/
theorem IsBehind.unique
    {letters : List Char} {left right : Location}
    (leftBehind : IsBehind letters left) (rightBehind : IsBehind letters right) :
    left = right := by
  have sameLine : left.line = right.line :=
    leftBehind.line_eq.trans rightBehind.line_eq.symm
  have sameLineOffset : left.lineOffset = right.lineOffset :=
    leftBehind.lineOffset_eq.trans rightBehind.lineOffset_eq.symm
  have samePosition : left.position = right.position :=
    leftBehind.position_eq.trans rightBehind.position_eq.symm
  cases left
  cases right
  simp only [mk.injEq]
  exact ⟨sameLine, sameLineOffset, samePosition⟩

theorem isBehind_iff (letters : List Char) (location : Location) :
    IsBehind letters location ↔ location = after letters := by
  constructor
  · intro behind
    exact behind.unique (isBehind_after letters)
  · intro same
    rw [same]
    exact isBehind_after letters

end ParserAlgebra.Location
