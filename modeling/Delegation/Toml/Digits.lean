/-!
# Digits

Positional numerals in bases up to sixteen.
-/

namespace Delegation.Toml

def isHexDigit (letter : Char) : Bool :=
  letter.isDigit || ('a' ≤ letter && letter ≤ 'f') || ('A' ≤ letter && letter ≤ 'F')

def isOctalDigit (letter : Char) : Bool := '0' ≤ letter && letter ≤ '7'

def isBinaryDigit (letter : Char) : Bool := letter == '0' || letter == '1'

def digitValue (digit : Char) : Nat :=
  if digit ≤ '9' then digit.toNat - '0'.toNat
  else if digit ≤ 'F' then digit.toNat - 'A'.toNat + 10
  else digit.toNat - 'a'.toNat + 10

def ofDigits (base : Nat) (digits : List Char) : Nat :=
  digits.foldl (fun value digit => base * value + digitValue digit) 0

def fixedDigits (count : Nat) (accepts : Char → Bool) (input : List Char) :
    Option (List Char × List Char) :=
  if (input.take count).length = count ∧ (input.take count).all accepts then
    some (input.take count, input.drop count)
  else none

end Delegation.Toml
