import Delegation.Settings.Reading
import Delegation.Proofs.WrittenText
import Mathlib.Data.List.Nodup

/-!
# Written settings are read back

Settings are written as a document with one table.  If the reader follows the
standard for documents that the writer keeps to, what is read are the same
settings, and they are refused if a strategy is listed twice, since only reading
looks for one.  `Settings.write` writes a line for the table and one for each of
its entries, and `Settings.read` reads such lines.
-/

namespace Delegation

namespace Settings

open Toml

/-! ## Repeated strategies -/

/-- The strategy at a position is listed before that position already. -/
def RepeatsAt (strategies : List Strategy) (position : Nat) (strategy : Strategy) : Prop :=
  strategies[position]? = some strategy ∧ strategy ∈ strategies.take position

/-- No position before this one repeats a strategy. -/
structure FirstRepeatAt (strategies : List Strategy) (position : Nat) (strategy : Strategy) :
    Prop where
  repeats : RepeatsAt strategies position strategy
  first : ∀ earlier < position, ∀ other, ¬ RepeatsAt strategies earlier other

theorem not_repeatsAt_of_nodup {strategies : List Strategy} (h : strategies.Nodup)
    (position : Nat) (strategy : Strategy) : ¬ RepeatsAt strategies position strategy := by
  rintro ⟨hlast, hearlier⟩
  obtain ⟨hposition, hlast⟩ := List.getElem?_eq_some_iff.mp hlast
  obtain ⟨earlier, hlt, hearlier⟩ := List.mem_take_iff_getElem.mp hearlier
  have hsame : earlier = position := (h.getElem_inj_iff).mp (hearlier.trans hlast.symm)
  omega

theorem repeatsAt_append {before : List Strategy} {position : Nat}
    (h : position < before.length) (after : List Strategy) (strategy : Strategy) :
    RepeatsAt (before ++ after) position strategy ↔ RepeatsAt before position strategy := by
  rw [RepeatsAt, RepeatsAt, List.getElem?_append_left h, List.take_append_of_le_length h.le]

theorem firstRepeatAt_length {before : List Strategy} (h : before.Nodup) {strategy : Strategy}
    (hrepeat : strategy ∈ before) (after : List Strategy) :
    FirstRepeatAt (before ++ strategy :: after) before.length strategy where
  repeats := by simpa [RepeatsAt] using hrepeat
  first earlier hearlier other := by
    rw [repeatsAt_append hearlier]
    exact not_repeatsAt_of_nodup h earlier other

theorem FirstRepeatAt.unique {strategies : List Strategy} {first second : Nat}
    {strategy other : Strategy} (hfirst : FirstRepeatAt strategies first strategy)
    (hsecond : FirstRepeatAt strategies second other) : strategy = other := by
  obtain hlt | rfl | hlt := lt_trichotomy first second
  · exact absurd hfirst.repeats (hsecond.first first hlt strategy)
  · exact Option.some.inj (hfirst.repeats.1.symm.trans hsecond.repeats.1)
  · exact absurd hsecond.repeats (hfirst.first second hlt other)

/-- The strategies that the search has passed are all different. -/
theorem firstRepeat_cases {before : List Strategy} (h : before.Nodup)
    (strategies : List Strategy) :
    (firstRepeat before strategies = none ∧ (before ++ strategies).Nodup) ∨
      ∃ position strategy, firstRepeat before strategies = some strategy ∧
        FirstRepeatAt (before ++ strategies) position strategy := by
  induction strategies generalizing before with
  | nil => exact .inl ⟨rfl, by simpa using h⟩
  | cons strategy strategies ih =>
      by_cases hrepeat : strategy ∈ before
      · right
        exact ⟨before.length, strategy, by simp [firstRepeat, hrepeat],
          firstRepeatAt_length h hrepeat strategies⟩
      · have hbefore : (before ++ [strategy]).Nodup := by
          rw [← List.concat_eq_append, List.nodup_concat]
          exact ⟨hrepeat, h⟩
        have hothers := ih hbefore
        rw [List.append_assoc, List.singleton_append] at hothers
        rwa [firstRepeat, if_neg hrepeat]

theorem repeated?_cases (settings : Settings) :
    (settings.repeated? = none ∧ settings.strategies.Nodup) ∨
      ∃ position strategy, settings.repeated? = some strategy ∧
        FirstRepeatAt settings.strategies position strategy :=
  firstRepeat_cases List.nodup_nil settings.strategies

/-! ## The lines of settings -/

theorem isPlainName_key (strategy : Strategy) : IsPlainName strategy.key := by
  cases strategy <;> decide

theorem isPlainName_text (side : Side) : IsPlainName side.text := by
  cases side <;> decide

theorem isPlainName_of_mem_map_key {strategies : List Strategy} :
    ∀ name ∈ strategies.map Strategy.key, IsPlainName name := by
  intro name hname
  obtain ⟨strategy, -, rfl⟩ := List.mem_map.mp hname
  exact isPlainName_key strategy

theorem isBareKey_ambiguity : IsBareKey "ambiguity" := by decide

theorem isBareKey_strategies : IsBareKey "strategies" := by decide

theorem isBareKey_tieBreaker : IsBareKey "tie_breaker" := by decide

def headerLine : Line := .header "ambiguity" isBareKey_ambiguity

def strategiesLine (strategies : List Strategy) : Line :=
  .entry "strategies" isBareKey_strategies
    (.list (strategies.map Strategy.key) isPlainName_of_mem_map_key)

def tieBreakerLine (side : Side) : Line :=
  .entry "tie_breaker" isBareKey_tieBreaker (.text side.text (isPlainName_text side))

def lines (settings : Settings) : List Line :=
  headerLine :: strategiesLine settings.strategies ::
    settings.tieBreaker.toList.map tieBreakerLine

theorem write_eq_textOf (settings : Settings) : settings.write = textOf settings.lines := by
  unfold write textOf
  congr 1
  cases htieBreaker : settings.tieBreaker <;>
    simp [lines, htieBreaker, headerLine, strategiesLine, tieBreakerLine, Line.ended,
      Line.written, Item.written]

/-! ## The document of settings -/

def entries (settings : Settings) : Table :=
  ("strategies", .array (settings.strategies.map fun strategy => .text strategy.key)) ::
    settings.tieBreaker.toList.map fun side => ("tie_breaker", .text side.text)

def document (settings : Settings) : Table := [("ambiguity", .table settings.entries)]

/--
Settings are written as a document of the standard: a table with the list of strategies and, if
there is one, the side that breaks ties.
-/
def WritesDocuments {Fault : Type} (standard : Standard)
    (write : Settings → Except Fault String) : Prop :=
  ∀ settings, ∃ text, write settings = .ok text ∧ standard text settings.document

theorem tableOf_lines (settings : Settings) : tableOf settings.lines = some settings.document := by
  have hnames : (settings.strategies.map Strategy.key).map Value.text =
      settings.strategies.map fun strategy => .text strategy.key := List.map_map
  rw [document, entries, ← hnames]
  -- The keys are known, and the values are put into the table whatever they are.
  obtain ⟨strategies, tieBreaker⟩ := settings
  cases tieBreaker <;> rfl

theorem linewise_write (settings : Settings) : linewise settings.write settings.document :=
  ⟨settings.lines, write_eq_textOf settings, tableOf_lines settings⟩

/-! ## What is read -/

theorem readName_strategy (strategy : Strategy) :
    readName strategyNames (.text strategy.key) = .ok strategy := by
  cases strategy <;> rfl

theorem readName_side (side : Side) : readName sideNames (.text side.text) = .ok side := by
  cases side <;> rfl

theorem readStrategies_map (strategies : List Strategy) :
    readStrategies (.array (strategies.map fun strategy => .text strategy.key)) =
      .ok strategies := by
  rw [readStrategies]
  induction strategies with
  | nil => rfl
  | cons strategy strategies ih =>
      rw [List.map_cons, List.mapM_cons, readName_strategy, ih]
      rfl

theorem readTieBreaker_map (tieBreaker : Option Side) :
    orDefault none readTieBreaker (tieBreaker.map fun side => .text side.text) =
      .ok tieBreaker := by
  cases tieBreaker with
  | none => rfl
  | some side => simp [orDefault, readTieBreaker, readName_side, Except.map]

theorem settingsOfTable_entries (settings : Settings) :
    settingsOfTable settings.entries = .ok settings := by
  have hstrategies : orDefault Strategy.all readStrategies
      (settings.entries.lookup strategiesKey) = .ok settings.strategies :=
    readStrategies_map settings.strategies
  have hlookup : settings.entries.lookup tieBreakerKey =
      settings.tieBreaker.map fun side => .text side.text := by
    obtain ⟨strategies, tieBreaker⟩ := settings
    cases tieBreaker <;> rfl
  have htieBreaker : orDefault none readTieBreaker
      (settings.entries.lookup tieBreakerKey) = .ok settings.tieBreaker := by
    rw [hlookup, readTieBreaker_map]
  simp only [settingsOfTable, hstrategies, htieBreaker]

theorem settingsOfDocument_document (settings : Settings) :
    settingsOfDocument settings.document = .ok settings :=
  settingsOfTable_entries settings

/-- Only the search for a repeated strategy can refuse what a document gives. -/
theorem readBy_eq_of_document {parse : String → Option Table} {text : String} {document : Table}
    {settings : Settings} (hparse : parse text = some document)
    (hdocument : settingsOfDocument document = .ok settings) :
    readBy parse text =
      settings.repeated?.elim (.ok settings) (.error <| .repeatedStrategy ·) := by
  simp only [readBy, hparse, hdocument]
  cases settings.repeated? <;> rfl

/--
If settings are written as documents of a standard that the reader follows, then what was written
is read back, or the first strategy that repeats an earlier one is named.
-/
theorem read_write {Fault : Type} {standard : Standard} {parse : String → Option Table}
    {write : Settings → Except Fault String} (hparse : Follows parse standard)
    (hwrite : WritesDocuments standard write) (settings : Settings) :
    ∃ text, write settings = .ok text ∧
      (readBy parse text = .ok settings ↔ settings.strategies.Nodup) ∧
      (¬ settings.strategies.Nodup → ∃ position strategy,
        FirstRepeatAt settings.strategies position strategy ∧
          readBy parse text = .error (.repeatedStrategy strategy)) := by
  obtain ⟨text, htext, hdocument⟩ := hwrite settings
  refine ⟨text, htext, ?_⟩
  rw [readBy_eq_of_document (hparse _ _ hdocument) (settingsOfDocument_document settings)]
  obtain ⟨hnone, hnodup⟩ | ⟨position, strategy, hsome, hfirst⟩ := repeated?_cases settings
  · simp [hnone, hnodup]
  · have hrepeats : ¬ settings.strategies.Nodup := fun hnodup =>
      not_repeatsAt_of_nodup hnodup position strategy hfirst.repeats
    refine ⟨by simp [hsome, hrepeats], fun _ => ⟨position, strategy, hfirst, ?_⟩⟩
    rw [hsome, Option.elim_some]

/-- Lines are a standard that `write` keeps to and `read` follows. -/
theorem read_write_owner_repeated :
    (∀ settings : Settings,
      Settings.read settings.write = .ok settings ↔ settings.strategies.Nodup) ∧
    ¬ [Strategy.name, .owner, .owner, .name].Nodup ∧
    Settings.read (write ⟨[.name, .owner, .owner, .name], some .right⟩) =
      .error (.repeatedStrategy .owner) := by
  let writer : Settings → Except Empty String := fun settings => .ok settings.write
  have hwrite : WritesDocuments linewise writer := fun settings =>
    ⟨settings.write, rfl, linewise_write settings⟩
  have hspec := read_write parse_follows_linewise hwrite
  have hrepeats : ¬ [Strategy.name, .owner, .owner, .name].Nodup := by decide
  have hbefore : [Strategy.name, .owner].Nodup := by decide
  have howner : FirstRepeatAt [.name, .owner, .owner, .name] 2 .owner :=
    firstRepeatAt_length hbefore (by decide) [.name]
  refine ⟨fun settings => ?_, hrepeats, ?_⟩
  · obtain ⟨text, htext, hread, -⟩ := hspec settings
    rwa [← Except.ok.inj htext] at hread
  · obtain ⟨text, htext, -, hread⟩ := hspec ⟨[.name, .owner, .owner, .name], some .right⟩
    obtain ⟨position, strategy, hfirst, hfault⟩ := hread hrepeats
    rwa [hfirst.unique howner, ← Except.ok.inj htext] at hfault

end Settings

end Delegation
