import Delegation.Verdict
import Delegation.Types.DescriptorFault

/-!
# Primitive kinds

The eight primitive kinds of the virtual machine, each with a one-letter
descriptor and a keyword.  They are ordered by specificity:

  boolean < byte < short < int < char < long < float < double

This is not the order of widening conversions, in which `char` widens to
`int`; it orders every pair of distinct kinds.
-/

namespace Delegation

inductive Primitive where
  | boolean
  | byte
  | short
  | int
  | char
  | long
  | float
  | double
  deriving DecidableEq, Repr, Hashable

namespace Primitive

def all : List Primitive :=
  [.boolean, .byte, .short, .int, .char, .long, .float, .double]

def letter : Primitive → Char
  | .boolean => 'Z'
  | .byte => 'B'
  | .short => 'S'
  | .int => 'I'
  | .char => 'C'
  | .long => 'J'
  | .float => 'F'
  | .double => 'D'

def keyword : Primitive → String
  | .boolean => "boolean"
  | .byte => "byte"
  | .short => "short"
  | .int => "int"
  | .char => "char"
  | .long => "long"
  | .float => "float"
  | .double => "double"

def ofLetter? (letter : Char) : Option Primitive :=
  all.find? fun primitive => primitive.letter == letter

def isNamedBy (primitive : Primitive) (text : String) : Bool :=
  text == primitive.letter.toString || text == primitive.keyword

def parse (text : String) : Except DescriptorFault Primitive :=
  match all.find? (·.isNamedBy text) with
  | some primitive => .ok primitive
  | none => .error (.unknownPrimitive text)

/-! ## Specificity -/

def rank : Primitive → Nat
  | .boolean => 0
  | .byte => 1
  | .short => 2
  | .int => 3
  | .char => 4
  | .long => 5
  | .float => 6
  | .double => 7

def isMoreSpecific (first second : Primitive) : Bool :=
  first.rank < second.rank

/-- The more specific kind is preferred; a kind ties with itself. -/
def compare (left right : Primitive) : Verdict :=
  if left = right then .ambiguous
  else if left.isMoreSpecific right then .left
  else .right

theorem rank_injective {first second : Primitive} (h : first.rank = second.rank) :
    first = second := by
  revert h
  cases first <;> cases second <;> decide

end Primitive

end Delegation
