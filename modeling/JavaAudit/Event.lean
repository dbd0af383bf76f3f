/-! What an analysis reports about its own progress. -/

set_option autoImplicit false

namespace JavaAudit

inductive Level where
  | debug
  | info
  | warning
  | error
  deriving DecidableEq, Repr

def Level.name : Level → String
  | .debug => "DEBUG"
  | .info => "INFO"
  | .warning => "WARNING"
  | .error => "ERROR"

inductive Event where
  /-- The syntax tree of the file holds nodes made by error recovery. -/
  | parseErrors (path : String)
  | analyzing (path : String)
  | extracted (types methods : Nat)
  | ruleFailed (rule : String) (line : Nat) (reason : String)
  | malformedLiteral (line : Nat)
  | optimizationFindings (owner method : String) (count : Nat)
  | securityFindings (owner method : String) (count : Nat)
  /-- Too short a run of scored lines to make a region. -/
  | droppedRun (size : Nat) (first last : Int)
  | analyzed (path : String) (optimizations securityIssues regions : Nat)
  | settingsMissing (path : String)
  | settingsMalformed (path : String)
  | settingsNotTable (path : String)
  | unknownSetting (key : String)
  | ignoredSetting (key expected value : String)
  | settingsLoaded (path values : String)
  | undecodable (path : String)
  deriving DecidableEq, Repr

namespace Event

def level : Event → Level
  | .parseErrors _ | .settingsMissing _ | .unknownSetting _ | .ignoredSetting .. => .warning
  | .analyzing _ | .analyzed .. => .info
  | .extracted .. | .malformedLiteral _ | .optimizationFindings .. | .securityFindings ..
    | .droppedRun .. | .settingsLoaded .. => .debug
  | .ruleFailed .. | .settingsMalformed _ | .settingsNotTable _ | .undecodable _ => .error

def message : Event → String
  | .parseErrors path => s!"Parse errors in {path}"
  | .analyzing path => s!"Analyzing {path}"
  | .extracted types methods => s!"Extracted {types} types and {methods} methods"
  | .ruleFailed rule line reason => s!"Rule {rule} failed at line {line}: {reason}"
  | .malformedLiteral line => s!"Skipping malformed integer literal at line {line}"
  | .optimizationFindings owner method count =>
    s!"{owner}.{method}: {count} optimization findings"
  | .securityFindings owner method count => s!"{owner}.{method}: {count} security findings"
  | .droppedRun size first last => s!"Dropping {size}-line run at lines {first}-{last}"
  | .analyzed path optimizations securityIssues regions =>
    s!"{path}: {optimizations} optimization findings, {securityIssues} security findings, " ++
      s!"{regions} regions"
  | .settingsMissing path => s!"Config file not found, using defaults: {path}"
  | .settingsMalformed path => s!"Failed to parse config file {path}, using defaults"
  | .settingsNotTable path => s!"[classlens] in {path} is not a table, using defaults"
  | .unknownSetting key => s!"Ignoring unknown config key: {key}"
  | .ignoredSetting key expected value =>
    s!"Ignoring config key {key}: expected {expected}, got {value}"
  | .settingsLoaded path values => s!"Loaded config from {path}: {values}"
  | .undecodable path => s!"Failed to decode {path}"

end Event

end JavaAudit
