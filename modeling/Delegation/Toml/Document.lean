import Delegation.Toml.Written

/-!
# Documents

A document is a sequence of statements, one a line: entries, headers of
tables and headers of elements of arrays of tables.  An entry goes into the
table that was opened last, and into the root before any header.
-/

namespace Delegation.Toml

inductive Statement where
  | entry (path : Path) (value : Value)
  | table (path : Path)
  | element (path : Path)

def statement : Reader Statement
  | '[' :: '[' :: rest => do
      let (path, rest) ← path rest
      some (.element path, ← after? ']' (← after? ']' rest))
  | '[' :: rest => do
      let (path, rest) ← path rest
      some (.table path, ← after? ']' rest)
  | input => do
      let ((path, value), rest) ← entry value input
      some (.entry path value, rest)

/-- Every line takes at least one letter of the input. -/
def statements : Nat → List Char → Option (List Statement)
  | _, [] => some []
  | 0, _ => none
  | fuel + 1, input =>
      match lineEnd? input with
      | some rest => statements fuel rest
      | none => do
          let (first, rest) ← statement (skipBlanks input)
          let others ← statements fuel (← lineEnd? rest)
          some (first :: others)

structure Draft where
  root : Entries := []
  opened : List String := []

def Draft.add (draft : Draft) : Statement → Option Draft
  | .entry path value =>
      (assignIn draft.opened path value draft.root).map fun root => { draft with root }
  | .table path => (openTable path draft.root).map fun root => ⟨root, path.parts⟩
  | .element path => (openElement path draft.root).map fun root => ⟨root, path.parts⟩

def skipByteOrderMark : List Char → List Char
  | '\uFEFF' :: rest => rest
  | input => input

def parse (text : String) : Option Table := do
  let input := skipByteOrderMark text.toList
  let draft ← (← statements (input.length + 1) input).foldlM Draft.add {}
  some (Entries.toTable draft.root)

end Delegation.Toml
