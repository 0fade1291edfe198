/-!
# White space, comments and ends of lines

Blanks are spaces and tabs.  A line ends with a line feed, which a carriage
return may precede, and a comment runs up to the end of its line.
-/

namespace Delegation.Toml

def isBlank (letter : Char) : Bool := letter == ' ' || letter == '\t'

/-- Letters that may stand in comments and, quotes and backslashes apart, in strings. -/
def isPrintable (letter : Char) : Bool :=
  letter == '\t' || (0x20 ≤ letter.toNat && letter.toNat ≤ 0x7E) || 0x80 ≤ letter.toNat

def skipBlanks (input : List Char) : List Char := input.dropWhile isBlank

def skipComment : List Char → List Char
  | '#' :: rest => rest.dropWhile isPrintable
  | input => input

def newline? : List Char → Option (List Char)
  | '\n' :: rest => some rest
  | '\r' :: '\n' :: rest => some rest
  | _ => none

def lineEnd? (input : List Char) : Option (List Char) :=
  match skipComment (skipBlanks input) with
  | [] => some []
  | rest => newline? rest

/-- Skips blanks, comments and ends of lines; the flag says whether a comment has begun. -/
def skipLinesFrom : Bool → List Char → List Char
  | _, '\n' :: rest => skipLinesFrom false rest
  | _, '\r' :: '\n' :: rest => skipLinesFrom false rest
  | true, letter :: rest =>
      if isPrintable letter then skipLinesFrom true rest else letter :: rest
  | false, letter :: rest =>
      if isBlank letter then skipLinesFrom false rest
      else if letter == '#' then skipLinesFrom true rest
      else letter :: rest
  | _, [] => []

def skipLines (input : List Char) : List Char := skipLinesFrom false input

end Delegation.Toml
