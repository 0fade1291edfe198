import Delegation.Proofs.RoundTrip
import Mathlib.Data.List.Forall2
import Mathlib.Data.List.Perm.Subperm

/-!
# The keys that settings are read from

Settings come from the values of two keys, each read by itself, and from nothing
else that a document holds.  So documents that give both keys the same values are
read alike, in whatever order and with whatever other keys they do, as long as the
reader follows the standard that makes them documents.  A value that cannot be read
is refused before anybody looks for strategies that repeat.
-/

namespace Delegation

open Toml

/-! ## The same values -/

/--
The same value, whatever the order of entries in its tables.  Moments are not told apart: the same
one can be written in several ways, and nothing is read from it.
-/
inductive Toml.Value.Same : Value → Value → Prop where
  | refl (value : Value) : Same value value
  | moment (first second : String) : Same (.moment first) (.moment second)
  | array {items others : List Value} (h : List.Forall₂ Same items others) :
      Same (.array items) (.array others)
  | table {entries reordered others : Table} (hperm : entries.Perm reordered)
      (hkeys : reordered.map Prod.fst = others.map Prod.fst)
      (hvalues : List.Forall₂ Same (reordered.map Prod.snd) (others.map Prod.snd)) :
      Same (.table entries) (.table others)

/-! ## Values of one key -/

theorem isEmpty_eq_of_length_eq {α β : Type} {first : List α} {second : List β}
    (h : first.length = second.length) : first.isEmpty = second.isEmpty := by
  rw [Bool.eq_iff_iff, List.isEmpty_iff_length_eq_zero, List.isEmpty_iff_length_eq_zero, h]

theorem isEmptyValue_congr {first second : Value} (h : first.Same second) :
    isEmptyValue first = isEmptyValue second := by
  cases h with
  | refl => rfl
  | moment => rfl
  | array hitems => exact isEmpty_eq_of_length_eq hitems.length_eq
  | table hperm hkeys =>
      have hlength := congrArg List.length hkeys
      rw [List.length_map, List.length_map] at hlength
      exact isEmpty_eq_of_length_eq (hperm.length_eq.trans hlength)

section

variable {α : Type} (known : List (String × α))

theorem readName_table_of_two_le {entries : Table} (h : 2 ≤ entries.length) :
    readName known (.table entries) = .error .unclear := by
  match entries, h with
  | first :: second :: others, _ => rfl

/-- A table names something only by its one key, so the order of entries does not matter. -/
theorem readName_congr {first second : Value} (h : first.Same second) :
    readName known first = readName known second := by
  cases h with
  | refl => rfl
  | moment => rfl
  | array => rfl
  | @table entries reordered others hperm hkeys hvalues =>
      -- One entry cannot be reordered, and with two or more nothing is named anyway.
      match reordered, others with
      | [], [] => rw [hperm.eq_nil]
      | [(key, value)], [(otherKey, other)] =>
          obtain rfl : key = otherKey := by simpa using hkeys
          have hempty : isEmptyValue value = isEmptyValue other :=
            isEmptyValue_congr (by simpa using hvalues)
          rw [List.perm_singleton.mp hperm, readName, readName, hempty]
      | first :: second :: rest, others =>
          have hlength := congrArg List.length hkeys
          rw [List.length_map, List.length_map] at hlength
          have hmany : 2 ≤ (first :: second :: rest).length := by simp
          rw [readName_table_of_two_le known (hperm.length_eq ▸ hmany),
            readName_table_of_two_le known (hlength ▸ hmany)]

theorem mapM_readName_congr {items others : List Value} (h : List.Forall₂ Value.Same items others) :
    items.mapM (readName known) = others.mapM (readName known) := by
  induction h with
  | nil => rfl
  | cons hitem _ ih => rw [List.mapM_cons, List.mapM_cons, readName_congr known hitem, ih]

end

theorem readStrategies_congr {first second : Value} (h : first.Same second) :
    readStrategies first = readStrategies second := by
  cases h with
  | refl => rfl
  | moment => rfl
  | array hitems => exact mapM_readName_congr strategyNames hitems
  | table => rfl

theorem readTieBreaker_congr {first second : Value} (h : first.Same second) :
    readTieBreaker first = readTieBreaker second := by
  rw [readTieBreaker, readTieBreaker, readName_congr sideNames h]

theorem orDefault_congr {α : Type} (default : α) {read : Value → Except Misfit α}
    (hread : ∀ first second : Value, first.Same second → read first = read second)
    {first second : Option Value} (h : Option.Rel Value.Same first second) :
    orDefault default read first = orDefault default read second := by
  cases h with
  | none => rfl
  | some hvalue => exact hread _ _ hvalue

/-! ## Both keys -/

/-- What a key comes to: its default if it is absent, else what is read from its value. -/
def Gives {α : Type} (default : α) (read : Value → Except Misfit α) (value : Option Value)
    (meaning : α) : Prop :=
  value = none ∧ meaning = default ∨ ∃ present, value = some present ∧ read present = .ok meaning

/-- Each of the two keys comes to what the settings have, whatever the other one does. -/
structure KeysGive (entries : Table) (settings : Settings) : Prop where
  strategies : Gives Strategy.all readStrategies (entries.lookup "strategies") settings.strategies
  tieBreaker : Gives none readTieBreaker (entries.lookup "tie_breaker") settings.tieBreaker

/-- One of the two keys has a value that cannot be read. -/
def HasUnreadable (entries : Table) : Prop :=
  (∃ value misfit, entries.lookup "strategies" = some value ∧
    readStrategies value = .error misfit) ∨
  ∃ value misfit, entries.lookup "tie_breaker" = some value ∧ readTieBreaker value = .error misfit

section

variable {α : Type} {default : α} {read : Value → Except Misfit α} {value : Option Value}

theorem orDefault_eq_ok_iff {meaning : α} :
    orDefault default read value = .ok meaning ↔ Gives default read value meaning := by
  cases value with
  | none => simp [orDefault, Gives, eq_comm]
  | some present => simp [orDefault, Gives]

theorem exists_orDefault_eq_error_iff (default : α) :
    (∃ misfit, orDefault default read value = .error misfit) ↔
      ∃ present misfit, value = some present ∧ read present = .error misfit := by
  cases value with
  | none => simp [orDefault]
  | some present => simp [orDefault]

end

theorem settingsOfTable_eq_ok_iff {entries : Table} {settings : Settings} :
    settingsOfTable entries = .ok settings ↔ KeysGive entries settings := by
  have hkeys : KeysGive entries settings ↔
      orDefault Strategy.all readStrategies (entries.lookup "strategies") =
          .ok settings.strategies ∧
        orDefault none readTieBreaker (entries.lookup "tie_breaker") = .ok settings.tieBreaker := by
    rw [orDefault_eq_ok_iff, orDefault_eq_ok_iff]
    exact ⟨fun h => ⟨h.strategies, h.tieBreaker⟩, fun h => ⟨h.1, h.2⟩⟩
  rw [hkeys, settingsOfTable, strategiesKey, tieBreakerKey]
  obtain ⟨strategies, tieBreaker⟩ := settings
  cases orDefault Strategy.all readStrategies (entries.lookup "strategies") <;>
    cases orDefault none readTieBreaker (entries.lookup "tie_breaker") <;> simp

theorem exists_settingsOfTable_eq_error_iff {entries : Table} :
    (∃ misfit, settingsOfTable entries = .error misfit) ↔ HasUnreadable entries := by
  rw [HasUnreadable, ← exists_orDefault_eq_error_iff Strategy.all,
    ← exists_orDefault_eq_error_iff none, settingsOfTable, strategiesKey, tieBreakerKey]
  cases orDefault Strategy.all readStrategies (entries.lookup "strategies") <;>
    cases orDefault none readTieBreaker (entries.lookup "tie_breaker") <;> simp

/-- Both tables give either key the same value, or none. -/
structure AgreeOnKeys (entries others : Table) : Prop where
  strategies : Option.Rel Value.Same (entries.lookup "strategies") (others.lookup "strategies")
  tieBreaker : Option.Rel Value.Same (entries.lookup "tie_breaker") (others.lookup "tie_breaker")

/-- Only which of two unreadable values is reported depends on the rest of the tables. -/
theorem settingsOfTable_congr {entries others : Table} (h : AgreeOnKeys entries others) :
    settingsOfTable entries = settingsOfTable others ∨
      (∃ misfit, settingsOfTable entries = .error misfit) ∧
        ∃ misfit, settingsOfTable others = .error misfit := by
  have hstrategies := orDefault_congr Strategy.all (fun _ _ => readStrategies_congr) h.strategies
  have htieBreaker := orDefault_congr none (fun _ _ => readTieBreaker_congr) h.tieBreaker
  rw [settingsOfTable, settingsOfTable, strategiesKey, tieBreakerKey, hstrategies, htieBreaker]
  -- The order of entries is looked at only if neither value can be read.
  cases orDefault Strategy.all readStrategies (others.lookup "strategies") with
  | ok strategies => exact .inl (by cases orDefault none readTieBreaker _ <;> rfl)
  | error first =>
      cases orDefault none readTieBreaker (others.lookup "tie_breaker") with
      | ok tieBreaker => exact .inl rfl
      | error second => exact .inr ⟨⟨_, rfl⟩, _, rfl⟩

/-! ## Documents -/

/-- The text is a document with this table of settings; without any, it is as good as empty. -/
def HasTable (standard : Standard) (text : String) (entries : Table) : Prop :=
  ∃ document, standard text document ∧
    (document.lookup "ambiguity" = some (.table entries) ∨
      document.lookup "ambiguity" = none ∧ entries = [])

namespace Settings

theorem repeated?_eq_none_iff {settings : Settings} :
    settings.repeated? = none ↔ settings.strategies.Nodup := by
  obtain ⟨hnone, hnodup⟩ | ⟨position, strategy, hsome, hfirst⟩ := repeated?_cases settings
  · exact iff_of_true hnone hnodup
  · refine iff_of_false (by simp [hsome]) fun hnodup => ?_
    exact not_repeatsAt_of_nodup hnodup position strategy hfirst.repeats

theorem repeated?_eq_some_iff {settings : Settings} {strategy : Strategy} :
    settings.repeated? = some strategy ↔
      ∃ position, FirstRepeatAt settings.strategies position strategy := by
  obtain ⟨hnone, hnodup⟩ | ⟨position, other, hsome, hfirst⟩ := repeated?_cases settings
  · refine iff_of_false (by simp [hnone]) ?_
    rintro ⟨position, hfirst⟩
    exact not_repeatsAt_of_nodup hnodup position strategy hfirst.repeats
  · rw [hsome, Option.some_inj]
    constructor
    · rintro rfl
      exact ⟨position, hfirst⟩
    · rintro ⟨position, hother⟩
      exact hfirst.unique hother

section

variable {standard : Standard} {parse : String → Option Table} (hfollows : Follows parse standard)
  {text : String} {entries : Table} (h : HasTable standard text entries)

include hfollows h

/-- A document without the table is read like one with an empty table. -/
theorem exists_settingsOfDocument_eq :
    ∃ document, parse text = some document ∧
      settingsOfDocument document = settingsOfTable entries := by
  obtain ⟨document, hdocument, htable | ⟨hnone, rfl⟩⟩ := h
  · exact ⟨document, hfollows _ _ hdocument, by rw [settingsOfDocument, htable]; rfl⟩
  · exact ⟨document, hfollows _ _ hdocument, by rw [settingsOfDocument, hnone]; rfl⟩

theorem readBy_eq_of_misfit {misfit : Misfit} (hmisfit : settingsOfTable entries = .error misfit) :
    readBy parse text = .error (.misfit misfit) := by
  obtain ⟨document, hparse, hdocument⟩ := exists_settingsOfDocument_eq hfollows h
  simp only [readBy, hparse, hdocument, hmisfit]

theorem readBy_eq_of_settings {settings : Settings}
    (hsettings : settingsOfTable entries = .ok settings) :
    readBy parse text =
      settings.repeated?.elim (.ok settings) (.error <| .repeatedStrategy ·) := by
  obtain ⟨document, hparse, hdocument⟩ := exists_settingsOfDocument_eq hfollows h
  exact readBy_eq_of_document hparse (hdocument.trans hsettings)

theorem readBy_eq_ok_iff {settings : Settings} :
    readBy parse text = .ok settings ↔
      KeysGive entries settings ∧ settings.strategies.Nodup := by
  rw [← settingsOfTable_eq_ok_iff, ← repeated?_eq_none_iff]
  cases htable : settingsOfTable entries with
  | error misfit => simp [readBy_eq_of_misfit hfollows h htable]
  | ok other =>
      rw [readBy_eq_of_settings hfollows h htable]
      cases hrepeated : other.repeated? with
      | none =>
          simp only [Option.elim_none, Except.ok.injEq, iff_self_and]
          rintro rfl
          exact hrepeated
      | some strategy =>
          simp only [Option.elim_some, reduceCtorEq, Except.ok.injEq, false_iff, not_and]
          rintro rfl
          simp [hrepeated]

theorem exists_readBy_eq_misfit_iff :
    (∃ misfit, readBy parse text = .error (.misfit misfit)) ↔ HasUnreadable entries := by
  rw [← exists_settingsOfTable_eq_error_iff]
  cases htable : settingsOfTable entries with
  | error misfit => simp [readBy_eq_of_misfit hfollows h htable]
  | ok settings =>
      rw [readBy_eq_of_settings hfollows h htable]
      cases settings.repeated? <;> simp

theorem readBy_eq_repeated_iff {strategy : Strategy} :
    readBy parse text = .error (.repeatedStrategy strategy) ↔
      ∃ settings position, KeysGive entries settings ∧
        FirstRepeatAt settings.strategies position strategy := by
  simp only [← settingsOfTable_eq_ok_iff, exists_and_left, ← repeated?_eq_some_iff]
  cases htable : settingsOfTable entries with
  | error misfit => simp [readBy_eq_of_misfit hfollows h htable]
  | ok settings =>
      rw [readBy_eq_of_settings hfollows h htable]
      cases hrepeated : settings.repeated? <;> simp [hrepeated]

end

/-- Whatever the text holds, strategies that repeat are looked for last. -/
theorem nodup_of_readBy {parse : String → Option Table} {text : String} {settings : Settings}
    (h : readBy parse text = .ok settings) : settings.strategies.Nodup := by
  cases hparse : parse text with
  | none => simp [readBy, hparse] at h
  | some document =>
      cases hdocument : settingsOfDocument document with
      | error misfit => simp [readBy, hparse, hdocument] at h
      | ok found =>
          cases hrepeated : found.repeated? with
          | some strategy => simp [readBy, hparse, hdocument, hrepeated] at h
          | none =>
              simp only [readBy, hparse, hdocument, hrepeated, Except.ok.injEq] at h
              rwa [← h, ← repeated?_eq_none_iff]

theorem length_le_of_nodup {strategies : List Strategy} (h : strategies.Nodup) :
    strategies.length ≤ 5 := by
  have hall : strategies ⊆ Strategy.all := fun strategy _ => by cases strategy <;> decide
  exact (h.subperm hall).length_le

theorem readBy_alike {standard : Standard} {parse : String → Option Table}
    (hfollows : Follows parse standard) {first second : String} {entries others : Table}
    (hfirst : HasTable standard first entries) (hsecond : HasTable standard second others)
    (hagree : AgreeOnKeys entries others) :
    (∃ settings, readBy parse first = .ok settings ∧ readBy parse second = .ok settings) ∨
    (∃ misfit other, readBy parse first = .error (.misfit misfit) ∧
      readBy parse second = .error (.misfit other)) ∨
    ∃ strategy, readBy parse first = .error (.repeatedStrategy strategy) ∧
      readBy parse second = .error (.repeatedStrategy strategy) := by
  obtain hsame | ⟨⟨misfit, hmisfit⟩, other, hother⟩ := settingsOfTable_congr hagree
  · cases htable : settingsOfTable others with
    | error misfit =>
        have hmisfit := hsame.trans htable
        exact .inr (.inl ⟨misfit, misfit, readBy_eq_of_misfit hfollows hfirst hmisfit,
          readBy_eq_of_misfit hfollows hsecond htable⟩)
    | ok settings =>
        rw [readBy_eq_of_settings hfollows hfirst (hsame.trans htable),
          readBy_eq_of_settings hfollows hsecond htable]
        cases settings.repeated? with
        | none => exact .inl ⟨settings, rfl, rfl⟩
        | some strategy => exact .inr (.inr ⟨strategy, rfl, rfl⟩)
  · exact .inr (.inl ⟨misfit, other, readBy_eq_of_misfit hfollows hfirst hmisfit,
      readBy_eq_of_misfit hfollows hsecond hother⟩)

/--
By a reader that follows a standard, documents whose tables agree on both keys are read alike.  One
is read as settings if both keys give them, absent ones by default, and no strategy repeats; it is
a misfit exactly if a value cannot be read, repeated strategies or not, and else the first of those
is named.
-/
theorem read_keys_exact {standard : Standard} {parse : String → Option Table}
    (hfollows : Follows parse standard) :
    (∀ first second entries others, HasTable standard first entries →
      HasTable standard second others → AgreeOnKeys entries others →
        (∃ settings, readBy parse first = .ok settings ∧ readBy parse second = .ok settings) ∨
        (∃ misfit other, readBy parse first = .error (.misfit misfit) ∧
          readBy parse second = .error (.misfit other)) ∨
        ∃ strategy, readBy parse first = .error (.repeatedStrategy strategy) ∧
          readBy parse second = .error (.repeatedStrategy strategy)) ∧
    (∀ text entries, HasTable standard text entries →
      (∀ settings, readBy parse text = .ok settings ↔
        KeysGive entries settings ∧ settings.strategies.Nodup) ∧
      ((∃ misfit, readBy parse text = .error (.misfit misfit)) ↔ HasUnreadable entries) ∧
      ∀ strategy, readBy parse text = .error (.repeatedStrategy strategy) ↔
        ∃ settings position, KeysGive entries settings ∧
          FirstRepeatAt settings.strategies position strategy) ∧
    ∀ text settings, readBy parse text = .ok settings →
      settings.strategies.Nodup ∧ settings.strategies.length ≤ 5 :=
  ⟨fun _ _ _ _ => readBy_alike hfollows,
    fun _ _ h => ⟨fun _ => readBy_eq_ok_iff hfollows h, exists_readBy_eq_misfit_iff hfollows h,
      fun _ => readBy_eq_repeated_iff hfollows h⟩,
    fun _ _ h => ⟨nodup_of_readBy h, length_le_of_nodup (nodup_of_readBy h)⟩⟩

/-! ## Documents of lines -/

theorem hasTable_textOf {lines : List Line} {document entries : Table}
    (hdocument : tableOf lines = some document)
    (hentries : document.lookup "ambiguity" = some (.table entries)) :
    HasTable linewise (textOf lines) entries :=
  ⟨document, ⟨lines, rfl, hdocument⟩, .inl hentries⟩

/-- Not the name of a side. -/
def middle : Item := .text "middle" (by decide)

/-- A strategy repeats, and the name after it is no side. -/
def plainLines : List Line :=
  [headerLine, strategiesLine [.name, .name],
    .entry "tie_breaker" isBareKey_tieBreaker middle]

/-- The same keys the other way round, with a comment and one more key at either level. -/
def shuffledLines : List Line :=
  [.entry "title" (by decide) middle, .comment " in any order" (by decide),
    headerLine,
    .entry "tie_breaker" isBareKey_tieBreaker middle,
    .entry "source" (by decide) (.list ["a", "b"] (by decide)), strategiesLine [.name, .name]]

theorem read_keys_exact_shuffled :
    (∃ misfit other, Settings.read (textOf plainLines) = .error (.misfit misfit) ∧
      Settings.read (textOf shuffledLines) = .error (.misfit other)) ∧
    Settings.read (textOf [headerLine, tieBreakerLine .left]) =
      .ok { tieBreaker := some .left } := by
  obtain ⟨halike, hexact, -⟩ := read_keys_exact parse_follows_linewise
  have hplain : HasTable linewise (textOf plainLines) _ := hasTable_textOf rfl rfl
  have hshuffled : HasTable linewise (textOf shuffledLines) _ := hasTable_textOf rfl rfl
  have htieBreaker : HasTable linewise
      (textOf [headerLine, tieBreakerLine .left]) _ :=
    hasTable_textOf rfl rfl
  constructor
  · obtain ⟨misfit, hmisfit⟩ := (hexact _ _ hplain).2.1.mpr (.inr ⟨_, _, rfl, rfl⟩)
    rcases halike _ _ _ _ hplain hshuffled ⟨.some (.refl _), .some (.refl _)⟩ with
      ⟨settings, hread, -⟩ | hmisfits | ⟨strategy, hread, -⟩
    · simp [hmisfit] at hread
    · exact hmisfits
    · simp [hmisfit] at hread
  · exact ((hexact _ _ htieBreaker).1 _).mpr ⟨⟨.inl ⟨rfl, rfl⟩, .inr ⟨_, rfl, rfl⟩⟩, by decide⟩

end Settings

end Delegation
