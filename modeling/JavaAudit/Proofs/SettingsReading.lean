import JavaAudit.Proofs.ShownNumbers
import JavaAudit.Settings

/-! Reading settings from a file.

An entry of the settings table is stored, or skipped with a warning, or stops the reading. Main
statement: a file that TOML can read gives settings exactly if no entry of a setting stops it, and
then a value that cannot be converted leaves its setting at the default. Two things stop the
reading: a tolerance that is an integer beyond the doubles, and an integer in any setting that has
more digits than messages show. -/

set_option autoImplicit false

namespace JavaAudit

namespace Setting

def current (setting : Setting) (settings : Settings Float) : Toml.Value :=
  match setting with
  | .complexity => .integer settings.limits.complexity
  | .highComplexity => .integer settings.limits.highComplexity
  | .parameters => .integer settings.limits.parameters
  | .lineGap => .integer settings.regions.lineGap
  | .tolerance => .real settings.regions.tolerance
  | .minSize => .integer settings.regions.minSize

theorem current_store_of_ne {setting other : Setting} (different : setting ≠ other)
    (value : Toml.Value) (settings : Settings Float) :
    setting.current (other.store value settings) = setting.current settings := by
  unfold store
  split <;> cases setting <;> first | rfl | exact absurd rfl different

theorem current_store_of_convert {setting : Setting} {value converted : Toml.Value}
    (converts : setting.convert value = .ok (some converted)) (settings : Settings Float) :
    setting.current (setting.store converted settings) = converted := by
  by_cases isWhole : setting = .tolerance
  · subst isWhole
    rw [convert_tolerance] at converts
    cases real : realNumber? value with
    | error error => rw [real] at converts; cases converts
    | ok result =>
      rw [real] at converts
      obtain ⟨number, _, rfl⟩ := Option.map_eq_some_iff.mp (Except.ok.inj converts)
      rfl
  · rw [convert_whole isWhole] at converts
    obtain ⟨number, _, rfl⟩ := Option.map_eq_some_iff.mp (Except.ok.inj converts)
    cases setting <;> first | rfl | exact absurd rfl isWhole

theorem convert_beyond {number : Int} (beyond : Decimal.overflowBound ≤ number.natAbs) :
    tolerance.convert (.integer number) = .error .integerTooLarge := by
  rw [convert_tolerance, realNumber?, (Decimal.ofInt?_eq_none_iff number).mpr beyond]
  rfl

theorem exists_convert {setting : Setting} {value : Toml.Value}
    (near : ∀ number, setting = .tolerance → value = .integer number →
      number.natAbs < Decimal.overflowBound) :
    ∃ result, setting.convert value = .ok result := by
  by_cases isWhole : setting = .tolerance
  · rw [isWhole, convert_tolerance]
    cases value with
    | integer number =>
      have some : Decimal.ofInt? number ≠ none :=
        mt (Decimal.ofInt?_eq_none_iff number).mp (Nat.not_le.mpr (near number isWhole rfl))
      obtain ⟨real, found⟩ := Option.ne_none_iff_exists'.mp some
      rw [realNumber?, found]
      exact ⟨_, rfl⟩
    | _ => exact ⟨_, rfl⟩
  · exact ⟨_, convert_whole isWhole value⟩

theorem isDisplayable_of_convert {setting : Setting} {value converted : Toml.Value}
    (converts : setting.convert value = .ok (some converted)) :
    converted.isDisplayable = true ∨ converted = value := by
  by_cases isWhole : setting = .tolerance
  · rw [isWhole, convert_tolerance] at converts
    cases real : realNumber? value with
    | error error => rw [real] at converts; cases converts
    | ok result =>
      rw [real] at converts
      obtain ⟨number, _, rfl⟩ := Option.map_eq_some_iff.mp (Except.ok.inj converts)
      exact .inl rfl
  · rw [convert_whole isWhole] at converts
    obtain ⟨number, found, rfl⟩ := Option.map_eq_some_iff.mp (Except.ok.inj converts)
    cases value with
    | integer given =>
      cases found
      exact .inr rfl
    | text written =>
      -- The numeral reader is held to the limit of the messages.
      exact .inl ((Toml.Value.isDisplayable_integer number).mpr (Numeral.int?_natAbs_lt found))
    | _ => cases found

/-- What cannot be shown is an integer or a collection, and is converted to nothing else. -/
theorem convert_undisplayable {value : Toml.Value} (hidden : value.isDisplayable = false)
    (setting : Setting) :
    setting.convert value = .error .integerTooLarge ∨ setting.convert value = .ok none ∨
      setting.convert value = .ok (some value) := by
  cases value with
  | integer number =>
    by_cases isWhole : setting = .tolerance
    · -- What has too many digits is beyond the doubles as well, so no tolerance is this large.
      have many : Toml.Value.displayLimit ≤ number.natAbs :=
        Nat.not_lt.mp (mt (Toml.Value.isDisplayable_integer number).mpr (by simp [hidden]))
      subst isWhole
      exact .inl (convert_beyond (Decimal.overflowBound_le.trans many))
    · exact .inr (.inr (convert_whole isWhole _))
  | array | table => exact .inr (.inl (by cases setting <;> rfl))
  | _ => cases hidden

end Setting

namespace Settings

inductive Stops : String × Toml.Value → Prop where
  /-- The tolerance is an integer that is near no double. -/
  | tolerance {number : Int} (beyond : Decimal.overflowBound ≤ number.natAbs) :
      Stops (Setting.tolerance.name, .integer number)
  /-- A setting has an integer in its value that messages cannot show. -/
  | digits (setting : Setting) {value : Toml.Value} {number : Int} (holds : value.Holds number)
      (many : Toml.Value.displayLimit ≤ number.natAbs) : Stops (setting.name, value)

def assignment? (entry : String × Toml.Value) : Option (Setting × Toml.Value) :=
  (Setting.ofName? entry.1).bind fun setting =>
    match setting.convert entry.2 with
    | .ok (some value) => some (setting, value)
    | _ => none

def warning? (entry : String × Toml.Value) : Option Event :=
  match Setting.ofName? entry.1 with
  | none => some (.unknownSetting entry.1)
  | some setting =>
    match setting.convert entry.2 with
    | .ok none => some (.ignoredSetting entry.1 setting.expected entry.2.display)
    | _ => none

def failure? (entry : String × Toml.Value) : Option ReadError :=
  (Setting.ofName? entry.1).bind fun setting =>
    match setting.convert entry.2 with
    | .error error => some error
    | .ok none => if entry.2.isDisplayable then none else some .integerTooLong
    | .ok (some _) => none

def Loaded.after (loaded : Loaded) (entry : String × Toml.Value) : Loaded where
  settings := (assignment? entry).elim loaded.settings fun given =>
    given.1.store given.2 loaded.settings
  stored := loaded.stored ++ ((assignment? entry).map fun given => (entry.1, given.2)).toList
  events := loaded.events ++ (warning? entry).toList

theorem Loaded.read_eq (loaded : Loaded) (entry : String × Toml.Value) :
    loaded.read entry = (failure? entry).elim (.ok (loaded.after entry)) .error := by
  unfold Loaded.read Loaded.after failure? warning? assignment?
  cases known : Setting.ofName? entry.1 with
  | none => simp [Loaded.report, pure, Except.pure]
  | some setting =>
    cases result : setting.convert entry.2 with
    | error error => simp [result, bind, Except.bind]
    | ok converted =>
      cases converted with
      | none =>
        cases shown : entry.2.isDisplayable <;>
          simp [result, shown, Loaded.shown, Loaded.report, bind, Except.bind, pure,
            Except.pure]
      | some value => simp [result, bind, Except.bind, pure, Except.pure]

theorem assignment?_eq_some_iff {entry : String × Toml.Value} {setting : Setting}
    {value : Toml.Value} :
    assignment? entry = some (setting, value) ↔
      entry.1 = setting.name ∧ setting.convert entry.2 = .ok (some value) := by
  rw [assignment?, Option.bind_eq_some_iff]
  constructor
  · rintro ⟨other, known, given⟩
    split at given
    · next converts =>
      cases given
      exact ⟨Setting.ofName?_eq_some_iff.mp known, converts⟩
    · cases given
  · rintro ⟨known, converts⟩
    exact ⟨setting, Setting.ofName?_eq_some_iff.mpr known, by rw [converts]⟩

theorem warning?_eq_ignored_iff {name key expected shown : String} {value : Toml.Value} :
    warning? (name, value) = some (.ignoredSetting key expected shown) ↔
      ∃ setting : Setting, name = key ∧ key = setting.name ∧ setting.convert value = .ok none ∧
        expected = setting.expected ∧ shown = value.display := by
  rw [warning?]
  constructor
  · intro warned
    split at warned
    · cases warned
    · next setting known =>
      split at warned
      · next converts =>
        cases warned
        exact ⟨setting, rfl, Setting.ofName?_eq_some_iff.mp known, converts, rfl, rfl⟩
      · cases warned
  · rintro ⟨setting, rfl, rfl, converts, rfl, rfl⟩
    simp only [Setting.ofName?_name, converts]

/-- An entry can be read, and its value shown afterwards, exactly if it does not stop. -/
theorem not_stops_iff (entry : String × Toml.Value) :
    ¬Stops entry ↔ failure? entry = none ∧
      ∀ given, assignment? entry = some given → given.2.isDisplayable = true := by
  constructor
  · intro harmless
    obtain ⟨name, value⟩ := entry
    cases known : Setting.ofName? name with
    | none => simp [failure?, assignment?, known]
    | some setting =>
      obtain rfl := Setting.ofName?_eq_some_iff.mp known
      have shown : value.isDisplayable = true :=
        (Toml.Value.isDisplayable_iff value).mpr fun number holds =>
          Nat.lt_of_not_le fun many => harmless (.digits setting holds many)
      obtain ⟨result, converts⟩ : ∃ result, setting.convert value = .ok result := by
        refine Setting.exists_convert fun number isTolerance isInteger => ?_
        subst isTolerance isInteger
        exact Nat.lt_of_not_le fun beyond => harmless (.tolerance beyond)
      constructor
      · cases result <;> simp [failure?, known, converts, shown]
      · rintro ⟨other, converted⟩ given
        obtain ⟨_, converts⟩ := assignment?_eq_some_iff.mp given
        obtain displayable | rfl := Setting.isDisplayable_of_convert converts
        · exact displayable
        · exact shown
  · rintro ⟨reads, displayable⟩ stops
    cases stops with
    | tolerance beyond =>
      simp [failure?, Setting.ofName?_name, Setting.convert_beyond beyond] at reads
    | @digits setting value number holds many =>
      have hidden : value.isDisplayable = false := Bool.eq_false_iff.mpr fun shown =>
        Nat.not_le.mpr ((Toml.Value.isDisplayable_iff value).mp shown number holds) many
      -- The value stops the conversion, the warning about it, or the closing message.
      obtain converts | converts | converts := Setting.convert_undisplayable hidden setting
      · simp [failure?, Setting.ofName?_name, converts] at reads
      · simp [failure?, Setting.ofName?_name, converts, hidden] at reads
      · have shown := displayable (setting, value) (assignment?_eq_some_iff.mpr ⟨rfl, converts⟩)
        rw [hidden] at shown
        cases shown

namespace Loaded

theorem foldlM_read (entries : Toml.Table) (loaded : Loaded) :
    entries.foldlM Loaded.read loaded =
      (entries.findSome? failure?).elim (.ok (entries.foldl Loaded.after loaded)) .error := by
  induction entries generalizing loaded with
  | nil => rfl
  | cons entry rest ih =>
    rw [List.foldlM_cons, read_eq, List.findSome?_cons, List.foldl_cons]
    cases failure? entry with
    | none => exact ih (loaded.after entry)
    | some error => rfl

theorem events_foldl (entries : Toml.Table) (loaded : Loaded) :
    (entries.foldl after loaded).events = loaded.events ++ entries.filterMap warning? := by
  induction entries generalizing loaded with
  | nil => simp
  | cons entry rest ih =>
    rw [List.foldl_cons, ih, after]
    cases warned : warning? entry <;> simp [warned]

theorem stored_foldl (entries : Toml.Table) (loaded : Loaded) :
    (entries.foldl after loaded).stored = loaded.stored ++
      entries.filterMap fun entry => (assignment? entry).map fun given => (entry.1, given.2) := by
  induction entries generalizing loaded with
  | nil => simp
  | cons entry rest ih =>
    rw [List.foldl_cons, ih, after]
    cases given : assignment? entry <;> simp [given]

theorem current_after {setting : Setting} {value : Toml.Value} {entry : String × Toml.Value}
    (given : assignment? entry = some (setting, value)) (loaded : Loaded) :
    setting.current (loaded.after entry).settings = value := by
  obtain ⟨_, converts⟩ := assignment?_eq_some_iff.mp given
  rw [after, given]
  exact Setting.current_store_of_convert converts loaded.settings

theorem current_after_of_ne {setting : Setting} {entry : String × Toml.Value}
    (absent : ∀ value, assignment? entry ≠ some (setting, value)) (loaded : Loaded) :
    setting.current (loaded.after entry).settings = setting.current loaded.settings := by
  rw [after]
  cases given : assignment? entry with
  | none => rfl
  | some other =>
    obtain ⟨other, value⟩ := other
    have different : setting ≠ other := by
      rintro rfl
      exact absent value given
    exact Setting.current_store_of_ne different value loaded.settings

theorem current_foldl_of_ne {setting : Setting} {entries : Toml.Table}
    (absent : ∀ entry ∈ entries, ∀ value, assignment? entry ≠ some (setting, value))
    (loaded : Loaded) :
    setting.current (entries.foldl after loaded).settings = setting.current loaded.settings := by
  induction entries generalizing loaded with
  | nil => rfl
  | cons entry rest ih =>
    obtain ⟨first, others⟩ := List.forall_mem_cons.mp absent
    rw [List.foldl_cons, ih others, current_after_of_ne first]

end Loaded

/-- The entries that are read: those of the section if there is one, else the whole table. -/
def sectionEntries (table : Toml.Table) : Toml.Table :=
  match (table.lookup "classlens").getD (.table false table) with
  | .table _ entries => entries
  | _ => []

/-- What becomes of the values that cannot be converted, and of those that can. -/
structure SkipsUnusable (entries : Toml.Table) (loaded : Loaded) : Prop where
  /-- The values that cannot be converted are reported, and no others. -/
  warned : ∀ key expected shown, .ignoredSetting key expected shown ∈ loaded.events ↔
    ∃ (setting : Setting) (value : Toml.Value), (key, value) ∈ entries ∧ key = setting.name ∧
      setting.convert value = .ok none ∧ expected = setting.expected ∧ shown = value.display
  /-- A setting without a value that can be converted is left at its default. -/
  kept : ∀ setting : Setting,
    (∀ value, (setting.name, value) ∈ entries → setting.convert value = .ok none) →
    setting.current loaded.settings = setting.current standard
  /-- The last value of a setting that can be converted is taken. -/
  taken : ∀ before (setting : Setting) value converted after,
    entries = before ++ (setting.name, value) :: after →
    setting.convert value = .ok (some converted) →
    (∀ other, (setting.name, other) ∈ after → setting.convert other = .ok none) →
    setting.current loaded.settings = converted

theorem assignment?_ne {setting : Setting} {entries : Toml.Table}
    (unusable : ∀ value, (setting.name, value) ∈ entries → setting.convert value = .ok none) :
    ∀ entry ∈ entries, ∀ value, assignment? entry ≠ some (setting, value) := by
  rintro ⟨name, value⟩ member converted given
  obtain ⟨rfl, converts⟩ := assignment?_eq_some_iff.mp given
  rw [unusable value member] at converts
  cases converts

theorem skipsUnusable_foldl (entries : Toml.Table) {event : Event}
    (closing : ∀ key expected shown, Event.ignoredSetting key expected shown ≠ event) :
    SkipsUnusable entries ((entries.foldl Loaded.after (.defaults [])).report event) where
  warned := by
    intro key expected shown
    rw [Loaded.report, Loaded.events_foldl, List.mem_append, List.mem_singleton,
      or_iff_left (closing key expected shown), Loaded.defaults, List.nil_append,
      List.mem_filterMap]
    constructor
    · rintro ⟨⟨name, value⟩, member, warned⟩
      obtain ⟨setting, rfl, facts⟩ := warning?_eq_ignored_iff.mp warned
      exact ⟨setting, value, member, facts⟩
    · rintro ⟨setting, value, member, facts⟩
      exact ⟨(key, value), member, warning?_eq_ignored_iff.mpr ⟨setting, rfl, facts⟩⟩
  kept := by
    intro setting unusable
    exact Loaded.current_foldl_of_ne (assignment?_ne unusable) _
  taken := by
    rintro before setting value converted after rfl converts unusable
    -- No entry behind it gives the setting another value.
    have given : assignment? (setting.name, value) = some (setting, converted) :=
      assignment?_eq_some_iff.mpr ⟨rfl, converts⟩
    rw [Loaded.report, List.foldl_append, List.foldl_cons,
      Loaded.current_foldl_of_ne (assignment?_ne unusable), Loaded.current_after given]

theorem forall_not_stops_iff (entries : Toml.Table) :
    (∀ entry ∈ entries, ¬Stops entry) ↔ entries.findSome? failure? = none ∧
      (Toml.Value.table false
        (entries.foldl Loaded.after (.defaults [])).stored).isDisplayable = true := by
  rw [Toml.Value.isDisplayable, Toml.Value.entriesDisplayable_iff_forall, Loaded.stored_foldl,
    Loaded.defaults, List.nil_append, List.findSome?_eq_none_iff]
  simp only [not_stops_iff, List.mem_filterMap, Option.map_eq_some_iff]
  constructor
  · intro harmless
    refine ⟨fun entry member => (harmless entry member).1, ?_⟩
    rintro _ ⟨entry, member, given, found, rfl⟩
    exact (harmless entry member).2 given found
  · rintro ⟨reads, displayable⟩ entry member
    exact ⟨reads entry member, fun given found =>
      displayable (entry.1, given.2) ⟨entry, member, given, found, rfl⟩⟩

def closing (path : String) (table : Toml.Table) : Event :=
  match (table.lookup "classlens").getD (.table false table) with
  | .table _ entries => .settingsLoaded path
    (Toml.Value.table false (entries.foldl Loaded.after (.defaults [])).stored).display
  | _ => .settingsNotTable path

theorem closing_ne (path : String) (table : Toml.Table) (key expected shown : String) :
    Event.ignoredSetting key expected shown ≠ closing path table := by
  rw [closing]
  split <;> nofun

theorem ofFile_eq_ok_iff {path : String} {table : Toml.Table} {loaded : Loaded} :
    ofFile path table = .ok loaded ↔ (∀ entry ∈ sectionEntries table, ¬Stops entry) ∧
      ((sectionEntries table).foldl Loaded.after (.defaults [])).report (closing path table) =
        loaded := by
  rw [ofFile, sectionEntries, closing]
  generalize (table.lookup "classlens").getD (.table false table) = chosen
  cases chosen with
  | table isInline entries =>
    simp only [forall_not_stops_iff, ofTable, Loaded.foldlM_read]
    generalize entries.findSome? failure? = failed, entries.foldl Loaded.after _ = final
    cases failed with
    | some error => exact iff_of_false nofun nofun
    | none =>
      cases shown : (Toml.Value.table false final.stored).isDisplayable <;>
        simp [Loaded.shown, shown, bind, Except.bind, pure, Except.pure]
  | _ => simp [Loaded.report, Loaded.defaults]

/-- The result of a TOML reader on a file, which is malformed if it is not UTF-8. -/
def tomlResult (decoder : Toml.Decoder) (bytes : ByteArray) : Except Toml.Fault Toml.Table :=
  (Text.decode? bytes).elim (.error .malformed) decoder.read

/-- A file that can be read gives settings, whatever its table, unless an entry stops. -/
theorem settings_returned_iff (decoder : Toml.Decoder) (find : String → FileEntry)
    (name : String) (bytes : ByteArray) (found : find (Path.normalize name) = .file bytes) :
    (tomlResult decoder bytes = .error .malformed → load find (some name) decoder =
      .ok (.defaults [.settingsMalformed (Path.normalize name)])) ∧
    (∀ table, tomlResult decoder bytes = .ok table →
      load find (some name) decoder = ofFile (Path.normalize name) table) ∧
    ∀ path table,
      ((∃ loaded, ofFile path table = .ok loaded) ↔
        ∀ entry ∈ sectionEntries table, ¬Stops entry) ∧
      ∀ loaded, ofFile path table = .ok loaded → SkipsUnusable (sectionEntries table) loaded := by
  have load_eq : load find (some name) decoder =
      ofText decoder (Path.normalize name) (Text.decode? bytes) := by
    simp only [load, found]
  refine ⟨fun malformed => ?_, fun table read => ?_, fun path table => ⟨?_, ?_⟩⟩
  · rw [tomlResult] at malformed
    simp only [load_eq, ofText, malformed]
  · rw [tomlResult] at read
    simp only [load_eq, ofText, read]
  · simp only [ofFile_eq_ok_iff, exists_and_left, exists_eq', and_true]
  · intro loaded returned
    obtain ⟨_, rfl⟩ := ofFile_eq_ok_iff.mp returned
    exact skipsUnusable_foldl _ (closing_ne path table)

def mistypedLimit : ByteArray :=
  "[classlens]\nmax_parameters = true\nregion_line_gap = \"4\"\n".toUTF8

def mistypedLimitEntries : Toml.Table :=
  [("max_parameters", .truth true), ("region_line_gap", .text "4")]

theorem tomlResult_mistypedLimit :
    tomlResult .standard mistypedLimit = .ok [("classlens", .table false mistypedLimitEntries)] := by
  rfl

theorem mistyped_limit_keeps_default :
    ∃ loaded, load (fun _ => .file mistypedLimit) (some "limits.toml") = .ok loaded ∧
      Setting.parameters.current loaded.settings = .integer 7 ∧
      Setting.lineGap.current loaded.settings = .integer 4 ∧
      .ignoredSetting "max_parameters" "int" "True" ∈ loaded.events := by
  obtain ⟨_, reads, returned⟩ :=
    settings_returned_iff .standard (fun _ => .file mistypedLimit) "limits.toml" mistypedLimit rfl
  obtain ⟨returns, skips⟩ :=
    returned (Path.normalize "limits.toml") [("classlens", .table false mistypedLimitEntries)]
  have harmless : ∀ entry ∈ mistypedLimitEntries, ¬Stops entry :=
    (forall_not_stops_iff mistypedLimitEntries).mpr (by decide +kernel)
  obtain ⟨loaded, isLoaded⟩ := returns.mpr harmless
  have result : SkipsUnusable mistypedLimitEntries loaded := skips loaded isLoaded
  refine ⟨loaded, (reads _ tomlResult_mistypedLimit).trans isLoaded, ?_, ?_, ?_⟩
  · refine result.kept .parameters fun value member => ?_
    obtain rfl : value = .truth true := by simpa [mistypedLimitEntries, Setting.name] using member
    rfl
  · exact result.taken [("max_parameters", .truth true)] .lineGap (.text "4") (.integer 4) []
      rfl rfl nofun
  · exact (result.warned _ _ _).mpr
      ⟨.parameters, .truth true, List.mem_cons_self, rfl, rfl, rfl, rfl⟩

/-- An integer beyond the doubles is not skipped, where a text that is no number would be. -/
theorem vast_tolerance_stops_reading :
    ofFile "limits.toml" [("region_score_tolerance", .integer (2 * 10 ^ 308))] =
      .error .integerTooLarge := by
  have beyond : Decimal.overflowBound ≤ (2 * 10 ^ 308 : Int).natAbs := by decide +kernel
  have failed : failure? ("region_score_tolerance", .integer (2 * 10 ^ 308)) =
      some .integerTooLarge := by
    rw [failure?, show Setting.ofName? "region_score_tolerance" = some .tolerance from rfl,
      Option.bind_some, Setting.convert_beyond beyond]
  have atTop : [("region_score_tolerance", Toml.Value.integer (2 * 10 ^ 308))].lookup "classlens" =
      none := rfl
  simp only [ofFile, atTop, Option.getD_none, ofTable, Loaded.foldlM_read, List.findSome?_cons,
    failed]
  rfl

end Settings

end JavaAudit
