import JavaAudit.Proofs.SettingsReading

/-! Settings and their entries.

All entries of the settings table go through one loop. Main statement: if the loop comes to its end,
each setting is what its own entry says, whatever stands beside it and in whatever order, and the
warnings are those of the skipped entries, one for each. -/

set_option autoImplicit false

namespace JavaAudit

namespace Setting

/-- The value that a setting takes from its entry. A whole number is given as such or as text; the
tolerance may also be a fraction. Truth values, dates and collections are no numbers. -/
inductive Accepts : Setting → Toml.Value → Toml.Value → Prop where
  | whole {setting : Setting} (isWhole : setting ≠ .tolerance) (number : Int) :
      Accepts setting (.integer number) (.integer number)
  | wholeText {setting : Setting} (isWhole : setting ≠ .tolerance) {text : String} {number : Int}
      (read : Numeral.int? 10 (Text.trim text.toList) = some number) :
      Accepts setting (.text text) (.integer number)
  | real (number : Float) : Accepts .tolerance (.real number) (.real number)
  | rounded {number : Int} {real : Float} (near : Decimal.ofInt? number = some real) :
      Accepts .tolerance (.integer number) (.real real)
  | realText {text : String} {real : Float}
      (read : Numeral.real? (Text.trim text.toList) = some real) :
      Accepts .tolerance (.text text) (.real real)

theorem accepts_tolerance_iff {value converted : Toml.Value} :
    tolerance.Accepts value converted ↔ ∃ real, realNumber? value = .ok (some real) ∧
      .real real = converted := by
  constructor
  · intro accepts
    cases accepts with
    | whole isWhole => exact absurd rfl isWhole
    | wholeText isWhole => exact absurd rfl isWhole
    | real number => exact ⟨number, rfl, rfl⟩
    | @rounded number real near => exact ⟨real, by rw [realNumber?, near], rfl⟩
    | @realText text real read => exact ⟨real, by rw [realNumber?, read], rfl⟩
  · rintro ⟨real, found, rfl⟩
    -- Only integers, reals and texts are numbers; the others are refused by the reader.
    cases value with
    | integer number =>
      rw [realNumber?] at found
      split at found
      · next near =>
        cases found
        exact .rounded near
      · cases found
    | real number =>
      cases found
      exact .real _
    | text text => exact .realText (Except.ok.inj found)
    | _ => cases found

theorem accepts_whole_iff {setting : Setting} (isWhole : setting ≠ .tolerance)
    {value converted : Toml.Value} :
    setting.Accepts value converted ↔ ∃ number, wholeNumber? value = some number ∧
      .integer number = converted := by
  constructor
  · intro accepts
    cases accepts with
    | whole _ number => exact ⟨number, rfl, rfl⟩
    | @wholeText _ _ text number read => exact ⟨number, read, rfl⟩
    | real | rounded | realText => exact absurd rfl isWhole
  · rintro ⟨number, found, rfl⟩
    cases value with
    | integer given =>
      cases found
      exact .whole isWhole _
    | text text => exact .wholeText isWhole found
    | _ => cases found

theorem convert_eq_some_iff {setting : Setting} {value converted : Toml.Value} :
    setting.convert value = .ok (some converted) ↔ setting.Accepts value converted := by
  by_cases isWhole : setting = .tolerance
  · subst isWhole
    rw [convert_tolerance, accepts_tolerance_iff]
    cases realNumber? value with
    | error error => exact iff_of_false nofun nofun
    | ok result => simp [Except.map]
  · rw [convert_whole isWhole, accepts_whole_iff isWhole, Except.ok.injEq,
      Option.map_eq_some_iff]

end Setting

namespace Settings

/-- The entry is skipped with the warning: its key names no setting, or its setting takes no value
from it. -/
inductive Skips : String × Toml.Value → Event → Prop where
  | unknown {key : String} (unknown : ∀ setting : Setting, key ≠ setting.name)
      (value : Toml.Value) : Skips (key, value) (.unknownSetting key)
  | unusable (setting : Setting) {value : Toml.Value}
      (unusable : ∀ converted, ¬setting.Accepts value converted) :
      Skips (setting.name, value)
        (.ignoredSetting setting.name setting.expected value.display)

theorem convert_eq_none_iff {setting : Setting} {value : Toml.Value}
    (harmless : ¬Stops (setting.name, value)) :
    setting.convert value = .ok none ↔ ∀ converted, ¬setting.Accepts value converted := by
  have reads := ((not_stops_iff _).mp harmless).1
  simp only [← Setting.convert_eq_some_iff]
  cases result : setting.convert value with
  | error error => simp [failure?, Setting.ofName?_name, result] at reads
  | ok converted => cases converted <;> simp

theorem warning?_eq_some_iff {entry : String × Toml.Value} (harmless : ¬Stops entry)
    {event : Event} : warning? entry = some event ↔ Skips entry event := by
  obtain ⟨key, value⟩ := entry
  cases known : Setting.ofName? key with
  | none =>
    have unknown : ∀ setting : Setting, key ≠ setting.name := by
      rintro setting rfl
      rw [Setting.ofName?_name] at known
      cases known
    simp only [warning?, known, Option.some.injEq]
    constructor
    · rintro rfl
      exact .unknown unknown value
    · intro skips
      cases skips with
      | unknown => rfl
      | unusable setting => exact absurd rfl (unknown setting)
  | some setting =>
    obtain rfl := Setting.ofName?_eq_some_iff.mp known
    have noneIff := convert_eq_none_iff harmless
    simp only [warning?, known]
    constructor
    · intro warned
      split at warned
      · next converts =>
        cases warned
        exact .unusable setting (noneIff.mp converts)
      · cases warned
    · intro skips
      generalize isKey : setting.name = key at skips
      cases skips with
      | unknown unknown => exact absurd isKey.symm (unknown setting)
      | unusable other unusable =>
        -- A key names one setting, so the skipped entry is about this one.
        obtain rfl : setting = other := by
          have found := Setting.ofName?_name setting
          rw [isKey, Setting.ofName?_name] at found
          exact (Option.some.inj found).symm
        rw [noneIff.mpr unusable]

theorem forall₂_filterMap {α β : Type} {relation : α → β → Prop} {transform : α → Option β}
    {items : List α}
    (related : ∀ item ∈ items, ∀ result, transform item = some result → relation item result) :
    List.Forall₂ relation (items.filter fun item => (transform item).isSome)
      (items.filterMap transform) := by
  induction items with
  | nil => exact .nil
  | cons item rest ih =>
    obtain ⟨first, others⟩ := List.forall_mem_cons.mp related
    cases result : transform item with
    | none => simpa [result] using ih others
    | some value => simpa [result] using ⟨first value result, ih others⟩

theorem level_of_warning? {entry : String × Toml.Value} {event : Event}
    (warned : warning? entry = some event) : event.level = .warning := by
  unfold warning? at warned
  split at warned
  · cases warned
    rfl
  · split at warned
    · cases warned
      rfl
    · cases warned

theorem level_closing (path : String) (table : Toml.Table) :
    (closing path table).level ≠ .warning := by
  rw [closing]
  split <;> simp [Event.level]

def Loaded.warnings (loaded : Loaded) : List Event :=
  loaded.events.filter (·.level == .warning)

theorem warnings_foldl (entries : Toml.Table) {event : Event} (quiet : event.level ≠ .warning) :
    ((entries.foldl Loaded.after (.defaults [])).report event).warnings =
      entries.filterMap warning? := by
  have all : (entries.filterMap warning?).filter (·.level == .warning) =
      entries.filterMap warning? := by
    rw [List.filter_eq_self]
    intro event member
    obtain ⟨entry, _, warned⟩ := List.mem_filterMap.mp member
    rw [level_of_warning? warned]
    rfl
  rw [Loaded.warnings, Loaded.report, Loaded.events_foldl, List.filter_append, Loaded.defaults,
    List.nil_append, all, List.filter_singleton, beq_false_of_ne quiet]
  exact List.append_nil _

/-- The settings are those of the entries, each taken by itself. -/
structure FollowEntries (entries : Toml.Table) (loaded : Loaded) : Prop where
  /-- A setting has the value of its entry, if it takes one from it. -/
  taken : ∀ (setting : Setting) value converted, entries.lookup setting.name = some value →
    setting.Accepts value converted → setting.current loaded.settings = converted
  /-- Without such an entry it has its default. -/
  kept : ∀ setting : Setting, (∀ value converted, entries.lookup setting.name = some value →
    ¬setting.Accepts value converted) → setting.current loaded.settings = setting.current standard
  /-- The skipped entries, in the order of the table, are each warned about once. -/
  warned : ∃ skipped, skipped.Sublist entries ∧
    (∀ entry ∈ entries, entry ∈ skipped ↔ ∃ event, Skips entry event) ∧
    List.Forall₂ Skips skipped loaded.warnings

theorem followEntries_foldl {entries : Toml.Table} (distinct : (entries.map (·.1)).Nodup)
    (harmless : ∀ entry ∈ entries, ¬Stops entry) {event : Event}
    (closing : ∀ key expected shown, Event.ignoredSetting key expected shown ≠ event)
    (quiet : event.level ≠ .warning) :
    FollowEntries entries ((entries.foldl Loaded.after (.defaults [])).report event) := by
  have skips := skipsUnusable_foldl entries closing
  have lookup_iff {key : String} {value : Toml.Value} :
      entries.lookup key = some value ↔ (key, value) ∈ entries :=
    Assoc.lookup_eq_some_iff_mem distinct
  constructor
  · intro setting value converted found accepts
    obtain ⟨before, after, split⟩ := List.append_of_mem (lookup_iff.mp found)
    refine skips.taken before setting value converted after split
      (Setting.convert_eq_some_iff.mpr accepts) fun other again => ?_
    -- The entry is the only one of its key.
    rw [split, List.map_append, List.map_cons] at distinct
    have fresh := (List.nodup_cons.mp (List.Nodup.of_append_right distinct)).1
    exact absurd (List.mem_map_of_mem again) fresh
  · intro setting unusable
    refine skips.kept setting fun value member => ?_
    exact (convert_eq_none_iff (harmless _ member)).mpr fun converted =>
      unusable value converted (lookup_iff.mpr member)
  · rw [warnings_foldl entries quiet]
    refine ⟨entries.filter fun entry => (warning? entry).isSome, List.filter_sublist,
      fun entry member => ?_, ?_⟩
    · rw [List.mem_filter, Option.isSome_iff_exists, and_iff_right member]
      exact exists_congr fun event => warning?_eq_some_iff (harmless entry member)
    · exact forall₂_filterMap fun entry member event =>
        (warning?_eq_some_iff (harmless entry member)).mp

theorem distinct_sectionEntries {table : Toml.Table}
    (distinct : (Toml.Value.table false table).Distinct) :
    ((sectionEntries table).map (·.1)).Nodup := by
  rw [sectionEntries]
  cases found : table.lookup "classlens" with
  | none => exact distinct.nodup
  | some value =>
    have valueDistinct := distinct.lookup found
    cases value with
    | table isInline entries => exact valueDistinct.nodup
    | _ => exact .nil

theorem followEntries_of_ofFile {path : String} {table : Toml.Table} {loaded : Loaded}
    (distinct : (Toml.Value.table false table).Distinct)
    (returned : ofFile path table = .ok loaded) :
    FollowEntries (sectionEntries table) loaded := by
  obtain ⟨harmless, rfl⟩ := ofFile_eq_ok_iff.mp returned
  exact followEntries_foldl (distinct_sectionEntries distinct) harmless (closing_ne path table)
    (level_closing path table)

/-- A setting has the same value in two results if its entries are the same. -/
theorem FollowEntries.current_eq {entries others : Toml.Table} {loaded other : Loaded}
    (follows : FollowEntries entries loaded) (otherFollows : FollowEntries others other)
    {setting : Setting} (same : entries.lookup setting.name = others.lookup setting.name) :
    setting.current loaded.settings = setting.current other.settings := by
  by_cases accepted : ∃ value converted, entries.lookup setting.name = some value ∧
      setting.Accepts value converted
  · obtain ⟨value, converted, found, accepts⟩ := accepted
    rw [follows.taken setting value converted found accepts,
      otherFollows.taken setting value converted (same ▸ found) accepts]
  · have unusable : ∀ value converted, entries.lookup setting.name = some value →
        ¬setting.Accepts value converted := fun value converted found accepts =>
      accepted ⟨value, converted, found, accepts⟩
    rw [follows.kept setting unusable, otherFollows.kept setting (same ▸ unusable)]

theorem distinct_tomlResult {decoder : Toml.Decoder} {bytes : ByteArray} {table : Toml.Table}
    (read : tomlResult decoder bytes = .ok table) : (Toml.Value.table false table).Distinct := by
  rw [tomlResult] at read
  cases decoded : Text.decode? bytes with
  | none => rw [decoded] at read; cases read
  | some text =>
    rw [decoded] at read
    exact decoder.distinct text table read

theorem load_eq_ofFile {decoder : Toml.Decoder} {find : String → FileEntry} {name : String}
    {bytes : ByteArray} {table : Toml.Table} (found : find (Path.normalize name) = .file bytes)
    (read : tomlResult decoder bytes = .ok table) :
    load find (some name) decoder = ofFile (Path.normalize name) table := by
  rw [tomlResult] at read
  simp only [load, found, ofText, read]

/-- A file that is read gives a table in which no key stands twice. From any such table, if settings
are returned at all, each setting follows its own entry in the section, or at the top level if there
is no section, and has the same value for every other table with that entry. -/
theorem settings_follow_entries :
    (∀ (decoder : Toml.Decoder) (find : String → FileEntry) name bytes table,
      find (Path.normalize name) = .file bytes → tomlResult decoder bytes = .ok table →
        (Toml.Value.table false table).Distinct ∧
        load find (some name) decoder = ofFile (Path.normalize name) table) ∧
    ∀ path table loaded, (Toml.Value.table false table).Distinct →
      ofFile path table = .ok loaded →
      FollowEntries (sectionEntries table) loaded ∧
      ∀ otherPath other otherLoaded, (Toml.Value.table false other).Distinct →
        ofFile otherPath other = .ok otherLoaded →
        ∀ setting : Setting, (sectionEntries table).lookup setting.name =
            (sectionEntries other).lookup setting.name →
          setting.current loaded.settings = setting.current otherLoaded.settings := by
  constructor
  · intro decoder find name bytes table found read
    exact ⟨distinct_tomlResult read, load_eq_ofFile found read⟩
  · intro path table loaded distinct returned
    have follows := followEntries_of_ofFile distinct returned
    refine ⟨follows, fun otherPath other otherLoaded otherDistinct otherReturned setting same => ?_⟩
    exact follows.current_eq (followEntries_of_ofFile otherDistinct otherReturned) same

theorem exists_ofFile {table : Toml.Table}
    (harmless : ∀ entry ∈ sectionEntries table, ¬Stops entry) (path : String) :
    ∃ loaded, ofFile path table = .ok loaded :=
  ⟨_, ofFile_eq_ok_iff.mpr ⟨harmless, rfl⟩⟩

def crowdedTable : Toml.Table :=
  [("verbose", .truth true), ("region_line_gap", .text "4"), ("max_parameters", .real 2.5)]

theorem line_gap_follows_entry :
    ∃ loaded other, load (fun _ => .file mistypedLimit) (some "limits.toml") = .ok loaded ∧
      ofFile "more.toml" crowdedTable = .ok other ∧
      Setting.lineGap.current loaded.settings = .integer 4 ∧
      Setting.lineGap.current other.settings = .integer 4 ∧
      Setting.parameters.current other.settings = .integer 7 := by
  have harmless : ∀ entry ∈ sectionEntries crowdedTable, ¬Stops entry :=
    (forall_not_stops_iff crowdedTable).mpr (by decide +kernel)
  have limitHarmless : ∀ entry ∈ sectionEntries [("classlens", .table false mistypedLimitEntries)],
      ¬Stops entry :=
    (forall_not_stops_iff mistypedLimitEntries).mpr (by decide +kernel)
  have plain : ∀ entry ∈ crowdedTable, entry.2.isPlain = true := by decide +kernel
  have distinct : (Toml.Value.table false crowdedTable).Distinct :=
    .table (by decide +kernel) fun entry member => .plain (plain entry member)
  obtain ⟨reading, following⟩ := settings_follow_entries
  obtain ⟨limitDistinct, loads⟩ := reading .standard (fun _ => .file mistypedLimit) "limits.toml"
    mistypedLimit _ rfl tomlResult_mistypedLimit
  obtain ⟨loaded, returned⟩ := exists_ofFile limitHarmless (Path.normalize "limits.toml")
  obtain ⟨other, otherReturned⟩ := exists_ofFile harmless "more.toml"
  obtain ⟨follows, alike⟩ := following _ _ _ limitDistinct returned
  obtain ⟨otherFollows, _⟩ := following _ _ _ distinct otherReturned
  have gap := follows.taken .lineGap (.text "4") (.integer 4) rfl (.wholeText (by decide) rfl)
  refine ⟨loaded, other, loads.trans returned, otherReturned, gap, ?_, ?_⟩
  · exact (alike _ _ _ distinct otherReturned .lineGap rfl).symm.trans gap
  · refine otherFollows.kept .parameters fun value converted found accepts => ?_
    obtain rfl : value = .real 2.5 := (Option.some.inj found).symm
    cases accepts

end Settings

end JavaAudit
