import Delegation.Toml.Binary64

/-!
# TOML values

A document and every table in it is a list of entries with distinct keys, in
the order in which they were written.
-/

namespace Delegation.Toml

inductive Value where
  | text (content : String)
  | integer (value : Int)
  | float (value : Binary64)
  | boolean (value : Bool)
  /-- A date, a time or both, as it was written. -/
  | moment (written : String)
  | array (items : List Value)
  | table (entries : List (String × Value))

abbrev Table := List (String × Value)

/-- Reads something at the start of a text and leaves the rest of the text. -/
abbrev Reader (α : Type) := List Char → Option (α × List Char)

def after? (mark : Char) : List Char → Option (List Char)
  | letter :: rest => if letter = mark then some rest else none
  | [] => none

end Delegation.Toml
