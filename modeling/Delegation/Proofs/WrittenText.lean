import Delegation.Settings.Basic
import Delegation.Toml.Document
import Mathlib.Data.List.TakeWhile

/-!
# Written text

What is written is read back, whatever follows it: names in quotes, lists of
them, headers and entries with bare keys, and lines.  A name needs no escape
if all of its letters are plain, and a bare key ends before the first letter
that no bare key has.

Documents are what a standard says they are, and a reader follows the standard
if it reads each of them as the table that it holds.  The smallest standard here
has the documents that are made of such lines and of comments, and `Toml.parse`
follows it.
-/

namespace Delegation.Toml

open Settings (quotedName listed)

/-! ## Names in quotes -/

/-- The letter stands for itself in a string with escapes. -/
def IsPlain (letter : Char) : Prop :=
  isPrintable letter = true ∧ letter ≠ '\x22' ∧ letter ≠ '\\'

instance (letter : Char) : Decidable (IsPlain letter) := inferInstanceAs (Decidable (_ ∧ _ ∧ _))

/-- A text that is written in quotes as it is. -/
structure IsPlainName (name : String) : Prop where
  nonempty : name.toList ≠ []
  plain : ∀ letter ∈ name.toList, IsPlain letter

instance (name : String) : Decidable (IsPlainName name) :=
  decidable_of_iff (name.toList ≠ [] ∧ name.toList.all (fun letter => decide (IsPlain letter)))
    ⟨fun h => ⟨h.1, by simpa using h.2⟩, fun h => ⟨h.nonempty, by simpa using h.plain⟩⟩

theorem basicPiece_of_isPlain {letter : Char} (h : IsPlain letter) (rest : List Char) :
    basicPiece (letter :: rest) = some (.content [letter] rest) := by
  obtain ⟨hprintable, hquote, hescape⟩ := h
  rw [basicPiece, if_pos hprintable]
  · exact hquote
  · exact hescape

/-- Each letter takes one step, and the closing quote a last one. -/
theorem collect_basicPiece {letters : List Char} (h : ∀ letter ∈ letters, IsPlain letter)
    (rest : List Char) {fuel : Nat} (hfuel : letters.length < fuel) :
    collect basicPiece fuel (letters ++ '\x22' :: rest) = some (letters, rest) := by
  induction letters generalizing fuel with
  | nil =>
      cases fuel with
      | zero => cases hfuel
      | succ fuel => rfl
  | cons letter letters ih =>
      cases fuel with
      | zero => cases hfuel
      | succ fuel =>
          have hletter := basicPiece_of_isPlain (h letter (by simp)) (letters ++ '\x22' :: rest)
          have hletters := ih (fun other hother => h other (by simp [hother]))
            (Nat.lt_of_succ_lt_succ hfuel)
          rw [List.cons_append, collect, hletter]
          simp [hletters]

theorem bodyOf_basicPiece {letters : List Char} (h : ∀ letter ∈ letters, IsPlain letter)
    (rest : List Char) :
    bodyOf basicPiece (letters ++ '\x22' :: rest) = some (letters, rest) :=
  collect_basicPiece h rest (by rw [List.length_append]; omega)

theorem quotedName_append (name : String) (rest : List Char) :
    quotedName name ++ rest = '\x22' :: (name.toList ++ '\x22' :: rest) := by
  simp [quotedName]

section

variable {name : String} (h : IsPlainName name) (rest : List Char)

include h

/-- The body does not start with a quote, so the quote before it opens a single line. -/
theorem quoted_quotedName : quoted (quotedName name ++ rest) = some (name.toList, rest) := by
  obtain ⟨first, others, hname⟩ := List.exists_cons_of_ne_nil h.nonempty
  have hfirst : IsPlain first := h.plain first (by simp [hname])
  have hbody := bodyOf_basicPiece h.plain rest
  rw [quotedName_append, quoted, hbody]
  intro others hopening
  rw [hname] at hopening
  exact hfirst.2.1 (List.cons.inj hopening).1

theorem scalar_quotedName : scalar (quotedName name ++ rest) = some (.text name, rest) := by
  have hquoted := quoted_quotedName h rest
  have hwritten := quotedName_append name rest
  have hdate : beginsDate (quotedName name ++ rest) = false := by
    simp [hwritten, beginsDate, fixedNumber, fixedDigits]
  have htime : beginsTime (quotedName name ++ rest) = false := by
    simp [hwritten, beginsTime, fixedNumber, fixedDigits]
  rw [scalar, if_neg (by simp [hdate, htime]), hquoted]
  · simp
  all_goals simp [hwritten]

theorem valueOf_quotedName (depth : Nat) :
    valueOf depth (quotedName name ++ rest) = some (.text name, rest) := by
  cases depth with
  | zero => exact scalar_quotedName h rest
  | succ depth =>
      rw [valueOf, scalar_quotedName h rest]
      all_goals simp [quotedName]

end

/-! ## Lists of names -/

section

variable {element : Reader Value} {input rest : List Char} {item : Value}
  (hskip : skipLines input = input) (hopen : ∀ after, input ≠ ']' :: after)

include hskip hopen

theorem items_of_last (hitem : element input = some (item, ']' :: rest)) (fuel : Nat) :
    items element (fuel + 1) input = some ([item], rest) := by
  rw [items, hskip]
  split
  · exact absurd rfl (hopen _)
  · rw [hitem]
    rfl

theorem items_of_next {others : List Value} {after : List Char} {fuel : Nat}
    (hitem : element input = some (item, ',' :: rest))
    (hothers : items element fuel rest = some (others, after)) :
    items element (fuel + 1) input = some (item :: others, after) := by
  rw [items, hskip]
  split
  · exact absurd rfl (hopen _)
  · rw [hitem]
    have hcomma : skipLines (',' :: rest) = ',' :: rest := rfl
    simp [hcomma, hothers]

end

/-- A blank in front of an item counts for nothing. -/
theorem items_space (element : Reader Value) (fuel : Nat) (rest : List Char) :
    items element fuel (' ' :: rest) = items element fuel rest := by
  have hspace : skipLines (' ' :: rest) = skipLines rest := rfl
  cases fuel with
  | zero => rfl
  | succ fuel => rw [items, items, hspace]

/-- The last name is followed by the closing bracket, and any other one by a comma. -/
theorem items_listed (depth : Nat) {names : List String} (h : ∀ name ∈ names, IsPlainName name)
    (rest : List Char) {fuel : Nat} (hfuel : names.length < fuel) :
    items (valueOf depth) fuel (listed names ++ ']' :: rest) =
      some (names.map .text, rest) := by
  induction names generalizing fuel with
  | nil =>
      cases fuel with
      | zero => cases hfuel
      | succ fuel => rfl
  | cons first others ih =>
      cases fuel with
      | zero => cases hfuel
      | succ fuel =>
          have hfirst := fun rest => valueOf_quotedName (h first (by simp)) rest depth
          have hopen : ∀ rest after, quotedName first ++ rest ≠ ']' :: after := by
            simp [quotedName]
          cases others with
          | nil => exact items_of_last rfl (hopen _) (hfirst _) fuel
          | cons second others =>
              have hothers := ih (fun name hname => h name (List.mem_cons_of_mem _ hname))
                (Nat.lt_of_succ_lt_succ hfuel)
              have hwritten : listed (first :: second :: others) ++ ']' :: rest =
                  quotedName first ++
                    ',' :: ' ' :: (listed (second :: others) ++ ']' :: rest) := by
                simp [listed]
              rw [← items_space] at hothers
              rw [hwritten]
              exact items_of_next rfl (hopen _) (hfirst _) hothers

theorem length_le_length_listed (names : List String) : names.length ≤ (listed names).length := by
  induction names with
  | nil => exact Nat.le_refl _
  | cons first others ih =>
      cases others with
      | nil => simp [listed, quotedName]
      | cons second others =>
          simp only [listed, List.length_append, List.length_cons] at ih ⊢
          omega

theorem valueOf_listed (depth : Nat) {names : List String}
    (h : ∀ name ∈ names, IsPlainName name) (rest : List Char) :
    valueOf (depth + 1) ('[' :: listed names ++ ']' :: rest) =
      some (.array (names.map .text), rest) := by
  have hlength := length_le_length_listed names
  rw [List.cons_append, valueOf, items_listed depth h rest (by simp; omega)]
  rfl

/-! ## Bare keys -/

/-- A text that is a key without quotes. -/
structure IsBareKey (key : String) : Prop where
  nonempty : key.toList ≠ []
  bare : ∀ letter ∈ key.toList, isBareKeyLetter letter = true

instance (key : String) : Decidable (IsBareKey key) :=
  decidable_of_iff (key.toList ≠ [] ∧ key.toList.all isBareKeyLetter)
    ⟨fun h => ⟨h.1, by simpa using h.2⟩, fun h => ⟨h.nonempty, by simpa using h.bare⟩⟩

theorem ne_of_isBareKeyLetter {letter mark : Char} (h : isBareKeyLetter letter = true)
    (hmark : isBareKeyLetter mark = false) : letter ≠ mark := by
  rintro rfl
  rw [h] at hmark
  cases hmark

theorem isBlank_of_isBareKeyLetter {letter : Char} (h : isBareKeyLetter letter = true) :
    isBlank letter = false := by
  have hspace : letter ≠ ' ' := ne_of_isBareKeyLetter h rfl
  have htab : letter ≠ '\t' := ne_of_isBareKeyLetter h rfl
  simp [isBlank, hspace, htab]

section

variable {key : String} (h : IsBareKey key)

include h

theorem exists_bareKeyLetter : ∃ first others, key.toList = first :: others ∧
    isBareKeyLetter first = true := by
  obtain ⟨first, others, hkey⟩ := List.exists_cons_of_ne_nil h.nonempty
  exact ⟨first, others, hkey, h.bare first (by simp [hkey])⟩

theorem skipBlanks_bareKey (rest : List Char) :
    skipBlanks (key.toList ++ rest) = key.toList ++ rest := by
  obtain ⟨first, others, hkey, hfirst⟩ := exists_bareKeyLetter h
  rw [hkey, List.cons_append, skipBlanks, List.dropWhile_cons_of_neg]
  simp [isBlank_of_isBareKeyLetter hfirst]

variable {mark : Char} (hmark : isBareKeyLetter mark = false) (rest : List Char)

include hmark

theorem keyPart_bareKey : keyPart (key.toList ++ mark :: rest) = some (key, mark :: rest) := by
  obtain ⟨first, others, hkey, hfirst⟩ := exists_bareKeyLetter h
  have hstop : ¬ isBareKeyLetter mark = true := by simp [hmark]
  have htake : (key.toList ++ mark :: rest).takeWhile isBareKeyLetter = key.toList := by
    rw [List.takeWhile_append_of_pos h.bare, List.takeWhile_cons_of_neg hstop, List.append_nil]
  have hdrop : (key.toList ++ mark :: rest).dropWhile isBareKeyLetter = mark :: rest := by
    rw [List.dropWhile_append_of_pos h.bare, List.dropWhile_cons_of_neg hstop]
  have hname : String.ofList (first :: others) = key := by rw [← hkey, String.ofList_toList]
  have hdouble : first ≠ '\x22' := ne_of_isBareKeyLetter hfirst rfl
  have hsingle : first ≠ '\x27' := ne_of_isBareKeyLetter hfirst rfl
  rw [keyPart, htake, hdrop]
  · simp only [hkey, hname]
  · simp [hkey, hdouble]
  · simp [hkey, hsingle]

theorem path_bareKey (hdot : ∀ after, skipBlanks (mark :: rest) ≠ '.' :: after) :
    path (key.toList ++ mark :: rest) = some (⟨[], key⟩, skipBlanks (mark :: rest)) := by
  rw [path, longestPath, pathOf, skipBlanks_bareKey h, keyPart_bareKey h hmark]
  simp only [Option.bind_eq_bind, Option.bind_some]

end

/-! ## Items -/

/-- A value that is written as a name or as a list of names. -/
inductive Item where
  | text (name : String) (h : IsPlainName name)
  | list (names : List String) (h : ∀ name ∈ names, IsPlainName name)

namespace Item

def written : Item → List Char
  | .text name _ => quotedName name
  | .list names _ => '[' :: listed names ++ [']']

def value : Item → Value
  | .text name _ => .text name
  | .list names _ => .array (names.map .text)

theorem skipBlanks_written (item : Item) (rest : List Char) :
    skipBlanks (item.written ++ rest) = item.written ++ rest := by
  cases item <;> rfl

theorem value_written (item : Item) (rest : List Char) :
    Toml.value (item.written ++ rest) = some (item.value, rest) := by
  cases item with
  | text name h => exact valueOf_quotedName h rest deepestNesting
  | list names h =>
      rw [written, List.append_assoc, List.singleton_append]
      exact valueOf_listed (deepestNesting - 1) h rest

end Item

/-! ## Statements -/

section

variable {key : String} (h : IsBareKey key)

include h

theorem lineEnd?_bareKey (rest : List Char) : lineEnd? (key.toList ++ rest) = none := by
  obtain ⟨first, others, hkey, hfirst⟩ := exists_bareKeyLetter h
  have hcomment : first ≠ '#' := ne_of_isBareKeyLetter hfirst rfl
  have hfeed : first ≠ '\n' := ne_of_isBareKeyLetter hfirst rfl
  have hreturn : first ≠ '\r' := ne_of_isBareKeyLetter hfirst rfl
  rw [lineEnd?, skipBlanks_bareKey h, hkey]
  simp [skipComment, newline?, hcomment, hfeed, hreturn]

theorem statement_header (rest : List Char) :
    statement ('[' :: key.toList ++ ']' :: rest) = some (.table ⟨[], key⟩, rest) := by
  obtain ⟨first, others, hkey, hfirst⟩ := exists_bareKeyLetter h
  have hbracket : first ≠ '[' := ne_of_isBareKeyLetter hfirst rfl
  have hpath : path (key.toList ++ ']' :: rest) = some (⟨[], key⟩, ']' :: rest) :=
    path_bareKey h rfl rest (by simp [skipBlanks, isBlank])
  have hclosed : after? ']' (']' :: rest) = some rest := rfl
  rw [List.cons_append, statement, hpath]
  · simp [hclosed]
  · simp [hkey, hbracket]

theorem statement_entry (item : Item) (rest : List Char) :
    statement (key.toList ++ ' ' :: '=' :: ' ' :: (item.written ++ rest)) =
      some (.entry ⟨[], key⟩ item.value, rest) := by
  obtain ⟨first, others, hkey, hfirst⟩ := exists_bareKeyLetter h
  have hbracket : first ≠ '[' := ne_of_isBareKeyLetter hfirst rfl
  have hpath : path (key.toList ++ ' ' :: '=' :: ' ' :: (item.written ++ rest)) =
      some (⟨[], key⟩, '=' :: ' ' :: (item.written ++ rest)) :=
    path_bareKey h rfl _ (by simp [skipBlanks, isBlank])
  have hassigned : after? '=' ('=' :: ' ' :: (item.written ++ rest)) =
      some (' ' :: (item.written ++ rest)) := rfl
  have hblank : skipBlanks (' ' :: (item.written ++ rest)) = item.written ++ rest :=
    item.skipBlanks_written rest
  rw [statement, entry, hpath]
  · simp [hassigned, hblank, item.value_written]
  all_goals simp [hkey, hbracket]

end

/-! ## Lines -/

/-- A comment, the header of a table, or an entry. -/
inductive Line where
  | comment (remark : String) (h : remark.toList.all isPrintable = true)
  | header (key : String) (h : IsBareKey key)
  | entry (key : String) (h : IsBareKey key) (item : Item)

namespace Line

def written : Line → List Char
  | .comment remark _ => '#' :: remark.toList
  | .header key _ => '[' :: key.toList ++ [']']
  | .entry key _ item => key.toList ++ " = ".toList ++ item.written

def meaning : Line → List Statement
  | .comment _ _ => []
  | .header key _ => [.table ⟨[], key⟩]
  | .entry key _ item => [.entry ⟨[], key⟩ item.value]

def ended (line : Line) : List Char := line.written ++ ['\n']

section

variable {written : List Char} {fuel : Nat} {rest : List Char}

theorem statements_of_lineEnd (h : lineEnd? (written ++ '\n' :: rest) = some rest) :
    statements (fuel + 1) (written ++ '\n' :: rest) = (statements fuel rest).map ([] ++ ·) := by
  rw [statements, h]
  · simp
  · simp

theorem statements_of_statement {meaning : Statement}
    (hnonempty : lineEnd? (written ++ '\n' :: rest) = none)
    (hreads : statement (skipBlanks (written ++ '\n' :: rest)) = some (meaning, '\n' :: rest)) :
    statements (fuel + 1) (written ++ '\n' :: rest) =
      (statements fuel rest).map ([meaning] ++ ·) := by
  have hlineEnd : lineEnd? ('\n' :: rest) = some rest := rfl
  rw [statements, hnonempty, hreads]
  · simp only [Option.bind_eq_bind, Option.bind_some, hlineEnd]
    exact Option.map_eq_bind.symm
  · simp

end

theorem lineEnd?_comment {remark : List Char} (h : remark.all isPrintable = true)
    (rest : List Char) : lineEnd? ('#' :: remark ++ '\n' :: rest) = some rest := by
  have hremark : (remark ++ '\n' :: rest).dropWhile isPrintable = '\n' :: rest := by
    rw [List.dropWhile_append_of_pos (List.all_eq_true.mp h)]
    rfl
  have hskip : skipComment (skipBlanks ('#' :: remark ++ '\n' :: rest)) = '\n' :: rest := hremark
  rw [lineEnd?, hskip]
  rfl

theorem statements_cons (line : Line) (fuel : Nat) (rest : List Char) :
    statements (fuel + 1) (line.ended ++ rest) =
      (statements fuel rest).map (line.meaning ++ ·) := by
  have hended : line.ended ++ rest = line.written ++ '\n' :: rest := by simp [ended]
  rw [hended]
  cases line with
  | comment remark h => exact statements_of_lineEnd (lineEnd?_comment h rest)
  | header key h =>
      have hbracket : ∀ rest, skipBlanks ('[' :: rest) = '[' :: rest := fun _ => rfl
      refine statements_of_statement rfl ?_
      simpa [written, hbracket] using statement_header h ('\n' :: rest)
  | entry key h item =>
      refine statements_of_statement ?_ ?_
      · simpa [written] using lineEnd?_bareKey h (" = ".toList ++ (item.written ++ '\n' :: rest))
      · simpa [written, skipBlanks_bareKey h] using statement_entry h item ('\n' :: rest)

theorem statements_lines (lines : List Line) {fuel : Nat} (hfuel : lines.length ≤ fuel) :
    statements fuel (lines.flatMap ended) = some (lines.flatMap meaning) := by
  induction lines generalizing fuel with
  | nil => cases fuel <;> rfl
  | cons line lines ih =>
      cases fuel with
      | zero => cases hfuel
      | succ fuel =>
          rw [List.flatMap_cons, statements_cons, ih (Nat.le_of_succ_le_succ hfuel)]
          rfl

theorem length_le_length_flatMap_ended (lines : List Line) :
    lines.length ≤ (lines.flatMap ended).length := by
  induction lines with
  | nil => exact Nat.le_refl _
  | cons line lines ih =>
      simp only [List.flatMap_cons, List.length_append, List.length_cons, ended] at ih ⊢
      omega

/-- No line begins with a byte order mark. -/
theorem skipByteOrderMark_lines (lines : List Line) :
    skipByteOrderMark (lines.flatMap ended) = lines.flatMap ended := by
  cases lines with
  | nil => rfl
  | cons line lines =>
      cases line with
      | comment remark h => rfl
      | header key h => rfl
      | entry key h item =>
          obtain ⟨first, others, hkey, hfirst⟩ := exists_bareKeyLetter h
          have hmark : first ≠ '\uFEFF' := ne_of_isBareKeyLetter hfirst rfl
          simp [ended, written, hkey, skipByteOrderMark, hmark]

end Line

/-! ## Documents -/

/-- A standard says which texts are documents, and what table each of them holds. -/
abbrev Standard := String → Table → Prop

/-- The reader reads every document of the standard as the table that it holds. -/
def Follows (parse : String → Option Table) (standard : Standard) : Prop :=
  ∀ text table, standard text table → parse text = some table

def textOf (lines : List Line) : String := String.ofList (lines.flatMap Line.ended)

/-- What the statements of the lines add up to. -/
def tableOf (lines : List Line) : Option Table :=
  ((lines.flatMap Line.meaning).foldlM Draft.add {}).map fun draft => Entries.toTable draft.root

/-- The documents that are made of lines. -/
def linewise : Standard := fun text table =>
  ∃ lines, text = textOf lines ∧ tableOf lines = some table

theorem parse_follows_linewise : Follows parse linewise := by
  rintro _ table ⟨lines, rfl, htable⟩
  have htext : (textOf lines).toList = lines.flatMap Line.ended := String.toList_ofList
  have hlength := Nat.le_succ_of_le (Line.length_le_length_flatMap_ended lines)
  have hstatements := Line.statements_lines lines hlength
  rw [← htable, tableOf, Option.map_eq_bind]
  simp only [parse, htext, Line.skipByteOrderMark_lines, hstatements, Option.bind_eq_bind,
    Option.bind_some]
  rfl

end Delegation.Toml
