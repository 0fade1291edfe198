import Delegation.Toml.Tree
import Delegation.Toml.Number
import Delegation.Toml.Moment

/-!
# Written values

A value is read by its first letter.  Arrays may spread over several lines
and end with a comma; tables in a value stay on one line and do not.  The
depth to which both may be nested bounds the recursion.
-/

namespace Delegation.Toml

def scalar : Reader Value
  | [] => none
  | 't' :: 'r' :: 'u' :: 'e' :: rest => some (.boolean true, rest)
  | 'f' :: 'a' :: 'l' :: 's' :: 'e' :: rest => some (.boolean false, rest)
  | input =>
      if beginsDate input ∨ beginsTime input then moment input
      else
        match quoted input with
        | some (body, rest) => some (.text (String.ofList body), rest)
        | none => number input

def items (element : Reader Value) : Nat → Reader (List Value)
  | 0, _ => none
  | fuel + 1, input =>
      match skipLines input with
      | ']' :: rest => some ([], rest)
      | input => do
          let (item, rest) ← element input
          match skipLines rest with
          | ',' :: rest => do
              let (others, rest) ← items element fuel rest
              some (item :: others, rest)
          | ']' :: rest => some ([item], rest)
          | _ => none

def entry (element : Reader Value) (input : List Char) :
    Option ((Path × Value) × List Char) := do
  let (path, rest) ← path input
  let (value, rest) ← element (skipBlanks (← after? '=' rest))
  some ((path, value), rest)

def inlineEntries (element : Reader Value) : Nat → Entries → Reader Entries
  | 0, _, _ => none
  | fuel + 1, before, input => do
      let ((path, value), rest) ← entry element input
      let entries ← assign path value before
      match skipBlanks rest with
      | ',' :: rest => inlineEntries element fuel entries rest
      | '\x7d' :: rest => some (entries, rest)
      | _ => none

def valueOf : Nat → Reader Value
  | 0, input => scalar input
  | depth + 1, '[' :: rest => do
      let (items, rest) ← items (valueOf depth) (rest.length + 1) rest
      some (.array items, rest)
  | depth + 1, '\x7b' :: rest =>
      match skipBlanks rest with
      | '\x7d' :: rest => some (.table [], rest)
      | rest => do
          let (entries, rest) ← inlineEntries (valueOf depth) (rest.length + 1) [] rest
          some (.table (Entries.toTable entries), rest)
  | _ + 1, input => scalar input

def deepestNesting : Nat := 79

def value : Reader Value := valueOf deepestNesting

end Delegation.Toml
