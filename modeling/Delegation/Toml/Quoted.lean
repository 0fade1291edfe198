import Delegation.Toml.Value
import Delegation.Toml.Blank
import Delegation.Toml.Digits

/-!
# Strings

A string is written in one of four ways: with escapes or literally, and on
one line or on several.  Each way is given by the piece that stands next in
its body, which is content or the end of the string; `bodyOf` puts the pieces
together.
-/

namespace Delegation.Toml

inductive Piece where
  | content (letters : List Char) (rest : List Char)
  /-- Quotes that directly precede the closing delimiter belong to the content. -/
  | close (letters : List Char) (rest : List Char)

def collect (piece : List Char → Option Piece) : Nat → Reader (List Char)
  | 0, _ => none
  | fuel + 1, input => do
      match ← piece input with
      | .close letters rest => some (letters, rest)
      | .content letters rest =>
          let (following, rest) ← collect piece fuel rest
          some (letters ++ following, rest)

/-- Every piece of content takes at least one letter of the input. -/
def bodyOf (piece : List Char → Option Piece) (input : List Char) :
    Option (List Char × List Char) :=
  collect piece (input.length + 1) input

/-! ## Escapes -/

def codeEscape (count : Nat) (input : List Char) : Option (Char × List Char) := do
  let (written, rest) ← fixedDigits count isHexDigit input
  let code := ofDigits 16 written
  if code < 0xD800 ∨ (0xDFFF < code ∧ code < 0x110000) then some (Char.ofNat code, rest)
  else none

def escape : Reader Char
  | 'b' :: rest => some ('\x08', rest)
  | 't' :: rest => some ('\t', rest)
  | 'n' :: rest => some ('\n', rest)
  | 'f' :: rest => some ('\x0c', rest)
  | 'r' :: rest => some ('\r', rest)
  | '\x22' :: rest => some ('\x22', rest)
  | '\\' :: rest => some ('\\', rest)
  | 'u' :: rest => codeEscape 4 rest
  | 'U' :: rest => codeEscape 8 rest
  | _ => none

def escapePiece (input : List Char) : Option Piece :=
  (escape input).map fun (letter, rest) => .content [letter] rest

/-! ## Strings on one line -/

def basicPiece : List Char → Option Piece
  | '\x22' :: rest => some (.close [] rest)
  | '\\' :: rest => escapePiece rest
  | letter :: rest => if isPrintable letter then some (.content [letter] rest) else none
  | [] => none

def literalPiece : List Char → Option Piece
  | '\x27' :: rest => some (.close [] rest)
  | letter :: rest => if isPrintable letter then some (.content [letter] rest) else none
  | [] => none

/-! ## Strings on several lines -/

/-- Quotes at the end of a body: three close it, and up to two more precede those. -/
def quotePiece (quote : Char) (rest : List Char) : Piece :=
  match (rest.takeWhile (· == quote)).length with
  | 0 | 1 => .content [quote] rest
  | 2 => .close [] (rest.drop 2)
  | 3 => .close [quote] (rest.drop 3)
  | _ => .close [quote, quote] (rest.drop 4)

/-- A backslash at the end of a line hides the white space up to the next text. -/
def continuation? (input : List Char) : Option (List Char) :=
  (newline? (skipBlanks input)).map fun rest => (skipMargin rest)
where
  skipMargin : List Char → List Char
    | '\r' :: '\n' :: rest => skipMargin rest
    | letter :: rest =>
        if isBlank letter || letter == '\n' then skipMargin rest else letter :: rest
    | [] => []

def multilineText (quote : Char) (input : List Char) : Option Piece :=
  match newline? input, input with
  | some rest, _ => some (.content ['\n'] rest)
  | none, letter :: rest =>
      if letter = quote then some (quotePiece quote rest)
      else if isPrintable letter then some (.content [letter] rest)
      else none
  | none, [] => none

def multilineBasicPiece : List Char → Option Piece
  | '\\' :: rest =>
      match continuation? rest with
      | some rest => some (.content [] rest)
      | none => escapePiece rest
  | input => multilineText '\x22' input

def multilineLiteralPiece : List Char → Option Piece := multilineText '\x27'

def skipFirstNewline (input : List Char) : List Char :=
  (newline? input).getD input

/-! ## Any string -/

def quoted : Reader (List Char)
  | '\x22' :: '\x22' :: '\x22' :: rest => bodyOf multilineBasicPiece (skipFirstNewline rest)
  | '\x27' :: '\x27' :: '\x27' :: rest => bodyOf multilineLiteralPiece (skipFirstNewline rest)
  | '\x22' :: rest => bodyOf basicPiece rest
  | '\x27' :: rest => bodyOf literalPiece rest
  | _ => none

end Delegation.Toml
