import JavaAudit.Command.Arguments
import JavaAudit.Presentation.Console
import JavaAudit.Presentation.Record
import JavaAudit.Settings

/-! The command: analyse files and report on each. -/

set_option autoImplicit false

namespace JavaAudit

def Level.rank : Level → Nat
  | .debug => 0
  | .info => 1
  | .warning => 2
  | .error => 3

namespace Command

structure Environment where
  find : String → FileEntry
  /-- The syntax tree of a text, under the path of its file. -/
  parse : String → String → Option Node
  toml : Toml.Decoder := .standard
  /-- Console markup that shows a text as it is. -/
  escape : String → String := Markup.escape

structure FileResult where
  result : Except String (Report Float)
  events : List Event

namespace FileResult

def failure (message : String) (events : List Event) : FileResult :=
  ⟨.error message, events⟩

def report? (file : FileResult) : Option (Report Float) :=
  file.result.toOption

def errorBlock? (escape : String → String) (file : FileResult) : Option Block :=
  match file.result with
  | .error message => some (.error (escape message))
  | .ok _ => none

end FileResult

def analyzeText (environment : Environment) (settings : Settings Float) (path text : String) :
    FileResult :=
  let outcome := match environment.parse path text with
    | some tree => Analysis.analyzeParsed settings path tree
    | none => Analysis.analyze settings path none
  ⟨outcome.result.mapError (·.message), outcome.events⟩

def analyzeFile (environment : Environment) (settings : Settings Float) (name : String) :
    Except ReadError FileResult :=
  let path := Path.normalize name
  match environment.find path with
  | .absent => .ok (.failure ("File does not exist: " ++ path) [])
  | .directory => .error (.isDirectory path)
  | .overlong => .error (.nameTooLong path)
  | .file bytes =>
    match Text.decode? bytes with
    | none => .ok (.failure ("Not a UTF-8 source file: " ++ path) [.undecodable path])
    | some text => .ok (analyzeText environment settings path text)

structure Output where
  exitCode : Nat
  /-- The reports as one document, if that was asked for. -/
  document : Option Document
  console : List Block
  events : List Event

def Arguments.threshold (arguments : Arguments) : Level :=
  if arguments.verbose then .debug else .warning

def present (escape : String → String) (arguments : Arguments) (loaded : Settings.Loaded)
    (files : List FileResult) : Output :=
  let reports := files.filterMap (·.report?)
  let errors := files.filterMap (·.errorBlock? escape)
  { exitCode := if errors.isEmpty then 0 else 1
    document := if arguments.json then some (.list (reports.map (·.document))) else none
    console := errors ++ (if arguments.json then [] else reports.flatMap (Block.ofReport escape))
    events := (loaded.events ++ files.flatMap (·.events)).filter fun event =>
      arguments.threshold.rank ≤ event.level.rank }

def run (environment : Environment) (arguments : Arguments) : Except ReadError Output := do
  let loaded ← Settings.load environment.find arguments.settingsPath environment.toml
  let files ← arguments.files.mapM (analyzeFile environment loaded.settings)
  return present environment.escape arguments loaded files

theorem analyzeText_result (environment : Environment) (settings : Settings Float)
    (path text : String) :
    (analyzeText environment settings path text).result =
      (Analysis.analyze settings path (environment.parse path text)).result.mapError
        (·.message) := by
  rw [analyzeText]
  cases environment.parse path text <;> rfl

end Command

end JavaAudit
