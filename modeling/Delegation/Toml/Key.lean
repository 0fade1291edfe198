import Delegation.Toml.Quoted

/-!
# Keys

A dotted key names an entry of a table inside tables.  Each of its parts is
bare or a string on one line, blanks around the parts count for nothing, and
the number of parts is limited.
-/

namespace Delegation.Toml

structure Path where
  parents : List String
  last : String
  deriving DecidableEq, Repr

namespace Path

def parts (path : Path) : List String := path.parents ++ [path.last]

def below (parent : String) (path : Path) : Path := ⟨parent :: path.parents, path.last⟩

end Path

def isBareKeyLetter (letter : Char) : Bool :=
  letter.isAlphanum || letter == '_' || letter == '-'

def keyPart : Reader String
  | '\x22' :: rest =>
      (bodyOf basicPiece rest).map fun (body, rest) => (String.ofList body, rest)
  | '\x27' :: rest =>
      (bodyOf literalPiece rest).map fun (body, rest) => (String.ofList body, rest)
  | input =>
      match input.takeWhile isBareKeyLetter with
      | [] => none
      | part => some (String.ofList part, input.dropWhile isBareKeyLetter)

def pathOf : Nat → Reader Path
  | 0, _ => none
  | budget + 1, input => do
      let (part, rest) ← keyPart (skipBlanks input)
      match skipBlanks rest with
      | '.' :: rest =>
          let (path, rest) ← pathOf budget rest
          some (path.below part, rest)
      | rest => some (⟨[], part⟩, rest)

def longestPath : Nat := 79

def path : Reader Path := pathOf longestPath

end Delegation.Toml
