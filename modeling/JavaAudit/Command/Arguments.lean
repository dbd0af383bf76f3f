import JavaAudit.Text.Character

/-! The arguments of the command.

Files come in one run, before, between or after the options. Long options may be shortened as long
as they stay unique, single-letter flags may be joined, and two hyphens end the options. -/

set_option autoImplicit false

namespace JavaAudit.Command

structure Arguments where
  files : List String
  settingsPath : Option String
  json : Bool
  verbose : Bool
  deriving DecidableEq, Repr

inductive Request where
  | run (arguments : Arguments)
  | help
  | misuse
  deriving DecidableEq, Repr

inductive Flag where
  | help
  | json
  | verbose
  deriving DecidableEq, Repr

inductive Word where
  | operand (text : String)
  /-- Two hyphens; all that follows are operands. -/
  | separator
  /-- Flags in one argument. -/
  | flags (list : List Flag)
  /-- The option for the settings file, with its value if that is attached. -/
  | settings (path : Option String)
  | unknown
  /-- A flag with a value, or with an unknown letter joined to it. -/
  | invalid
  deriving DecidableEq, Repr

namespace Word

inductive LongOption where
  | flag (flag : Flag)
  | settings
  deriving DecidableEq, Repr

def longOptions : List (String × LongOption) := [
  ("help", .flag .help), ("config", .settings), ("json", .flag .json),
  ("verbose", .flag .verbose)]

def shortFlag? : Char → Option Flag
  | 'h' => some .help
  | 'v' => some .verbose
  | _ => none

def joined (flag : Flag) (letters : List Char) : Word :=
  match letters.mapM shortFlag? with
  | some others => .flags (flag :: others)
  | none => .invalid

def ofShort (flag : Flag) (rest : List Char) : Word :=
  match rest with
  | ['='] => .invalid
  | '=' :: letters => joined flag letters
  | letters => joined flag letters

/-- Does the text after a hyphen make a negative number? A line feed at the end does not count. -/
def isNumber (text : List Char) : Bool :=
  let text := if text.getLast? == some '\n' then text.dropLast else text
  let isDecimal := fun c => (Text.decimalValue? c).isSome
  match text.dropWhile isDecimal with
  | [] => !text.isEmpty
  | '.' :: fraction => !fraction.isEmpty && fraction.all isDecimal
  | _ => false

/-- An argument that looks like an option and is none: a number or a text with a space is still an
operand. -/
def ofUnknown (text : String) : Word :=
  if isNumber (text.toList.drop 1) || text.toList.contains ' ' then .operand text else .unknown

def ofLong (option : LongOption) (value : Option String) : Word :=
  match option, value with
  | .flag flag, none => .flags [flag]
  | .flag _, some _ => .invalid
  | .settings, path => .settings path

/-- An argument before the separator; none if it could be several long options. -/
def ofText? (text : String) : Option Word :=
  match text.toList with
  | '-' :: '-' :: rest =>
    let name := rest.takeWhile (· != '=')
    let value :=
      if rest.contains '=' then some (String.ofList (rest.drop (name.length + 1))) else none
    match longOptions.filter fun option => name.isPrefixOf option.1.toList with
    | [] => some (ofUnknown text)
    | [(_, option)] => some (ofLong option value)
    | _ => none
  | '-' :: first :: rest =>
    match shortFlag? first with
    | some flag => some (ofShort flag rest)
    | none => some (ofUnknown text)
  | _ => some (.operand text)

def ofTexts? : List String → Option (List Word)
  | [] => some []
  | "--" :: rest => some (.separator :: rest.map .operand)
  | text :: rest => do
    let word ← ofText? text
    let words ← ofTexts? rest
    some (word :: words)

end Word

inductive Phase where
  | before
  | within
  | after
  deriving DecidableEq, Repr

structure Progress where
  arguments : Arguments := ⟨[], none, false, false⟩
  phase : Phase := .before
  /-- Was there an argument that belongs to nothing? -/
  surplus : Bool := false
  deriving DecidableEq, Repr

namespace Progress

def operand (progress : Progress) (text : String) : Progress :=
  if progress.phase = .after then { progress with surplus := true }
  else
    { progress with
      arguments.files := progress.arguments.files ++ [text]
      phase := .within }

def separator (progress : Progress) : Progress :=
  if progress.phase = .after then { progress with surplus := true } else progress

def endRun (progress : Progress) : Progress :=
  if progress.phase = .within then { progress with phase := .after } else progress

def flag (progress : Progress) : Flag → Progress
  | .help => progress
  | .json => { progress with arguments.json := true }
  | .verbose => { progress with arguments.verbose := true }

def settings (progress : Progress) (path : String) : Progress :=
  { progress.endRun with arguments.settingsPath := some path }

/-- Read the remaining arguments. Help is given as soon as it is asked for. -/
def read (progress : Progress) : List Word → Request
  | [] =>
    if progress.surplus || progress.arguments.files.isEmpty then .misuse
    else .run progress.arguments
  | .operand text :: rest => (progress.operand text).read rest
  | .separator :: rest => progress.separator.read rest
  | .flags list :: rest =>
    if list.contains .help then .help else (list.foldl flag progress.endRun).read rest
  | .settings (some path) :: rest => (progress.settings path).read rest
  | .settings none :: .operand path :: rest => (progress.settings path).read rest
  | .settings none :: _ => .misuse
  | .unknown :: rest => { progress.endRun with surplus := true }.read rest
  | .invalid :: _ => .misuse

end Progress

def Request.ofTexts (texts : List String) : Request :=
  match Word.ofTexts? texts with
  | none => .misuse
  | some words => ({} : Progress).read words

end JavaAudit.Command
