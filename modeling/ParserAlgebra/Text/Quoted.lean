import ParserAlgebra.Text.Combining
import ParserAlgebra.Text.Unprintable

/-!
# Quoted texts

A text is written between double quotes so that it can be read without doubt. Six letters have a
short form behind a backslash, letters that could not be seen are written by their number, and
every other letter stands for itself. Which letters count as hidden is a parameter of the format;
`quote` uses the standard choice.
-/

namespace ParserAlgebra.Text

/-- A letter is hidden when it has no printed form or joins the letter before it. -/
def isHidden (letter : Char) : Bool :=
  Unprintable.ranges.contains letter.toNat || Combining.ranges.contains letter.toNat

/-- A letter by its number: lower-case hexadecimal digits without leading zeros, in braces. -/
def encodeNumber (letter : Char) : List Char :=
  '\\' :: 'u' :: '{' :: (Nat.toDigits 16 letter.toNat ++ ['}'])

/-- The written form of one letter inside quotes. -/
def encodeLetter (hidden : Char → Bool) (letter : Char) : List Char :=
  if letter = '\x00' then ['\\', '0']
  else if letter = '\t' then ['\\', 't']
  else if letter = '\n' then ['\\', 'n']
  else if letter = '\r' then ['\\', 'r']
  else if letter = '"' then ['\\', '"']
  else if letter = '\\' then ['\\', '\\']
  else if hidden letter then encodeNumber letter
  else [letter]

/-- The written forms of all letters, one after the other. -/
def encode (hidden : Char → Bool) (letters : List Char) : List Char :=
  letters.flatMap (encodeLetter hidden)

@[simp]
theorem encode_nil (hidden : Char → Bool) :
    encode hidden [] = [] :=
  rfl

@[simp]
theorem encode_cons (hidden : Char → Bool) (letter : Char) (suffix : List Char) :
    encode hidden (letter :: suffix) =
      encodeLetter hidden letter ++ encode hidden suffix :=
  rfl

/-- A text in quotes, for any choice of hidden letters. -/
def quoteWith (hidden : Char → Bool) (text : String) : String :=
  String.ofList ('"' :: (encode hidden text.toList ++ ['"']))

/-- A text in quotes, with the standard choice of hidden letters. -/
def quote (text : String) : String :=
  quoteWith isHidden text

end ParserAlgebra.Text
