import Delegation.Toml.Key

/-!
# The tree of a document

While a document is read, its tables still grow.  A table remembers how it
came about, which decides what may be added to it: a header opens a table
once, the parents that a header or a dotted key implies are open to further
entries of the same sort, and a table in a value is closed.
-/

namespace Delegation.Toml

inductive Origin where
  | header
  | implied
  | dotted
  deriving DecidableEq, Repr

inductive Node where
  | value (value : Value)
  | table (origin : Origin) (entries : List (String × Node))
  | tables (elements : List (List (String × Node)))

abbrev Entries := List (String × Node)

mutual

def Node.toValue : Node → Value
  | .value value => value
  | .table _ entries => .table (Entries.toTable entries)
  | .tables elements => .array (Entries.toTables elements)

def Entries.toTable : List (String × Node) → Table
  | [] => []
  | (key, node) :: entries => (key, node.toValue) :: Entries.toTable entries

def Entries.toTables : List (List (String × Node)) → List Value
  | [] => []
  | entries :: elements => .table (Entries.toTable entries) :: Entries.toTables elements

end

/-! ## Changing a tree -/

def replace (key : String) (node : Node) (entries : Entries) : Entries :=
  entries.map fun entry => if entry.1 = key then (key, node) else entry

def remove (key : String) (entries : Entries) : Entries :=
  entries.filter fun entry => entry.1 != key

/--
Changes the table at the end of a path, of which missing tables are created
with the given origin.  An array of tables stands for its last element.
-/
def changeAt (created : Origin) (change : Origin → Entries → Option Entries) :
    List String → Origin → Entries → Option Entries
  | [], origin, entries => change origin entries
  | key :: path, _, entries =>
      match entries.lookup key with
      | none => do
          let inner ← changeAt created change path created []
          some (entries ++ [(key, .table created inner)])
      | some (.value _) => none
      | some (.table origin inner) =>
          if created = .dotted ∧ origin = .header then none
          else do
            let inner ← changeAt created change path origin inner
            some (replace key (.table origin inner) entries)
      | some (.tables elements) => do
          let last ← elements.getLast?
          let inner ← changeAt created change path .header last
          some (replace key (.tables (elements.dropLast ++ [inner])) entries)

/-- Adds a value; a dotted key reaches only into tables that dotted keys have made. -/
def assign (path : Path) (value : Value) (entries : Entries) : Option Entries :=
  let add (origin : Origin) (inner : Entries) : Option Entries :=
    if path.parents ≠ [] ∧ origin ≠ .dotted then none
    else
      match inner.lookup path.last with
      | none => some (inner ++ [(path.last, .value value)])
      | some _ => none
  changeAt .dotted add path.parents .header entries

/-- Opens a table, which moves to the end of its parent if it was implied before. -/
def openTable (path : Path) (root : Entries) : Option Entries :=
  let openLast (_ : Origin) (entries : Entries) : Option Entries :=
    match entries.lookup path.last with
    | none => some (entries ++ [(path.last, .table .header [])])
    | some (.table .implied inner) =>
        some (remove path.last entries ++ [(path.last, .table .header inner)])
    | some _ => none
  changeAt .implied openLast path.parents .header root

def openElement (path : Path) (root : Entries) : Option Entries :=
  let openLast (_ : Origin) (entries : Entries) : Option Entries :=
    match entries.lookup path.last with
    | none => some (entries ++ [(path.last, .tables [[]])])
    | some (.tables elements) => some (replace path.last (.tables (elements ++ [[]])) entries)
    | some _ => none
  changeAt .implied openLast path.parents .header root

def assignIn (opened : List String) (path : Path) (value : Value) (root : Entries) :
    Option Entries :=
  changeAt .implied (fun _ entries => assign path value entries) opened .header root

end Delegation.Toml
