import Delegation.Text.Unseen

/-!
# Escaped text

A text in double quotes.  Letters that would not be seen as themselves are
written as escapes, by a name of one letter if they have one and otherwise by
their hexadecimal code.
-/

namespace Delegation.Text

def codeEscaped (letter : Char) : List Char :=
  '\\' :: 'u' :: '\x7b' :: Nat.toDigits 16 letter.toNat ++ ['\x7d']

def escapedLetter : Char → List Char
  | '\x00' => ['\\', '0']
  | '\t' => ['\\', 't']
  | '\r' => ['\\', 'r']
  | '\n' => ['\\', 'n']
  | '\\' => ['\\', '\\']
  | '\x22' => ['\\', '\x22']
  | letter => if isUnseen letter then codeEscaped letter else [letter]

def escaped (text : String) : String :=
  String.ofList ('\x22' :: text.toList.flatMap escapedLetter ++ ['\x22'])

end Delegation.Text
