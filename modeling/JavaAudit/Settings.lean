import JavaAudit.Analysis
import JavaAudit.Toml.Reader
import JavaAudit.Workspace

/-! Settings from a TOML file.

The settings stand in a table of their own or at the top level. A missing or malformed file leaves
all of them at their defaults, an unusable value one of them. -/

set_option autoImplicit false

namespace JavaAudit

/-- Why a command stops on a file that exists, or on a value in it. -/
inductive ReadError where
  | isDirectory (path : String)
  | nameTooLong (path : String)
  /-- An integer beyond the largest double. -/
  | integerTooLarge
  /-- An integer with more digits than messages show. -/
  | integerTooLong
  /-- A settings file that the reader has no rule for. -/
  | unreadable (fault : Toml.Fault)
  deriving DecidableEq, Repr

def ReadError.message : ReadError → String
  | .isDirectory path => "[Errno 21] Is a directory: " ++ Text.quoted path
  | .nameTooLong path => "[Errno 36] File name too long: " ++ Text.quoted path
  | .integerTooLong =>
    "Exceeds the limit (4300 digits) for integer string conversion; " ++
      "use sys.set_int_max_str_digits() to increase the limit"
  | .unreadable fault => fault.message
  | .integerTooLarge => "int too large to convert to float"

def Settings.standard : Settings Float where
  regions := { tolerance := 20.0 }

inductive Setting where
  | complexity
  | highComplexity
  | parameters
  | lineGap
  | tolerance
  | minSize
  deriving DecidableEq, Repr

namespace Setting

def name : Setting → String
  | .complexity => "complexity_threshold"
  | .highComplexity => "high_complexity_threshold"
  | .parameters => "max_parameters"
  | .lineGap => "region_line_gap"
  | .tolerance => "region_score_tolerance"
  | .minSize => "min_region_size"

def all : List Setting :=
  [.complexity, .highComplexity, .parameters, .lineGap, .tolerance, .minSize]

def ofName? (text : String) : Option Setting :=
  all.find? (·.name == text)

def expected : Setting → String
  | .tolerance => "float"
  | _ => "int"

def wholeNumber? : Toml.Value → Option Int
  | .integer value => some value
  | .text text => Numeral.int? 10 (Text.trim text.toList)
  | _ => none

def realNumber? : Toml.Value → Except ReadError (Option Float)
  | .integer value =>
    match Decimal.ofInt? value with
    | some real => .ok (some real)
    | none => .error .integerTooLarge
  | .real value => .ok (some value)
  | .text text => .ok (Numeral.real? (Text.trim text.toList))
  | _ => .ok none

/-- A value in the type of the setting, if it has one there. -/
def convert (setting : Setting) (value : Toml.Value) : Except ReadError (Option Toml.Value) :=
  match setting with
  | .tolerance => do return (← realNumber? value).map .real
  | _ => .ok ((wholeNumber? value).map .integer)

def store (setting : Setting) (value : Toml.Value) (settings : Settings Float) :
    Settings Float :=
  match setting, value with
  | .complexity, .integer number => { settings with limits.complexity := number }
  | .highComplexity, .integer number => { settings with limits.highComplexity := number }
  | .parameters, .integer number => { settings with limits.parameters := number }
  | .lineGap, .integer number => { settings with regions.lineGap := number }
  | .minSize, .integer number => { settings with regions.minSize := number }
  | .tolerance, .real number => { settings with regions.tolerance := number }
  | _, _ => settings

end Setting

namespace Settings

structure Loaded where
  settings : Settings Float
  /-- The values that were stored. -/
  stored : Toml.Table
  events : List Event

namespace Loaded

def report (loaded : Loaded) (event : Event) : Loaded :=
  { loaded with events := loaded.events ++ [event] }

def defaults (events : List Event) : Loaded :=
  ⟨standard, [], events⟩

def shown (value : Toml.Value) : Except ReadError String :=
  if value.isDisplayable then .ok value.display else .error .integerTooLong

def read (loaded : Loaded) (entry : String × Toml.Value) : Except ReadError Loaded := do
  match Setting.ofName? entry.1 with
  | none => return loaded.report (.unknownSetting entry.1)
  | some setting =>
    match ← setting.convert entry.2 with
    | none => return loaded.report (.ignoredSetting entry.1 setting.expected (← shown entry.2))
    | some value =>
      return { loaded with
        settings := setting.store value loaded.settings
        stored := loaded.stored ++ [(entry.1, value)] }

end Loaded

def ofTable (table : Toml.Table) : Except ReadError Loaded :=
  table.foldlM Loaded.read (.defaults [])

/-- The settings in the table of a file: its own section if there is one, else the top level. -/
def ofFile (path : String) (table : Toml.Table) : Except ReadError Loaded :=
  match (table.lookup "classlens").getD (.table false table) with
  | .table _ entries => do
    let loaded ← ofTable entries
    return loaded.report (.settingsLoaded path (← Loaded.shown (.table false loaded.stored)))
  | _ => .ok (.defaults [.settingsNotTable path])

/-- The settings in the text of a file, which is missing if the file is not UTF-8. -/
def ofText (decoder : Toml.Decoder) (path : String) (text : Option String) :
    Except ReadError Loaded :=
  match text.elim (.error .malformed) decoder.read with
  | .error .malformed => .ok (.defaults [.settingsMalformed path])
  | .error fault => .error (.unreadable fault)
  | .ok table => ofFile path table

def load (find : String → FileEntry) (path : Option String)
    (decoder : Toml.Decoder := .standard) : Except ReadError Loaded :=
  match path with
  | none => .ok (.defaults [])
  | some path =>
    let path := Path.normalize path
    match find path with
    | .absent => .ok (.defaults [.settingsMissing path])
    | .directory => .error (.isDirectory path)
    | .overlong => .error (.nameTooLong path)
    | .file bytes => ofText decoder path (Text.decode? bytes)

end Settings

namespace Setting

theorem ofName?_eq_some_iff {text : String} {setting : Setting} :
    ofName? text = some setting ↔ text = setting.name := by
  constructor
  · intro found
    have same := List.find?_some found
    exact (beq_iff_eq.mp same).symm
  · rintro rfl
    cases setting <;> decide

theorem ofName?_name (setting : Setting) : ofName? setting.name = some setting :=
  ofName?_eq_some_iff.mpr rfl

theorem convert_whole {setting : Setting} (isWhole : setting ≠ .tolerance) (value : Toml.Value) :
    setting.convert value = .ok ((wholeNumber? value).map .integer) := by
  cases setting <;> first | rfl | exact absurd rfl isWhole

theorem convert_tolerance (value : Toml.Value) :
    tolerance.convert value = (realNumber? value).map (·.map .real) := by
  rw [convert]
  cases realNumber? value <;> rfl

end Setting

end JavaAudit
