import JavaAudit.Command.Run
import JavaAudit.Tree.Preorder

/-! The command line.

The syntax tree of a source file is read from a dump beside it, whose name ends in `.tree`. -/

set_option autoImplicit false

namespace JavaAudit.Command

def usage : String :=
  "usage: javaaudit [-h] [--config CONFIG] [--json] [-v] files [files ...]"

/-- What is at a path; a path that exists and cannot be read counts as a directory. -/
def readEntry (path : String) : IO FileEntry := do
  if Path.isOverlong path then return .overlong
  try
    return .file (← IO.FS.readBinFile path)
  catch
    | .noFileOrDirectory .. => return .absent
    | _ => return .directory

structure Loaded where
  path : String
  entry : FileEntry
  dump : FileEntry

def loadPath (name : String) : IO Loaded := do
  let path := Path.normalize name
  return ⟨path, ← readEntry path, ← readEntry (path ++ ".tree")⟩

def Loaded.tree? (loaded : Loaded) (text : String) : Option Node :=
  match loaded.dump with
  | .file bytes => (Text.decode? bytes).bind (Node.ofDump? (.ofText text))
  | _ => none

def Environment.ofLoaded (files : List Loaded) : Environment where
  find path := ((files.find? (·.path == path)).map (·.entry)).getD .absent
  parse path text := (files.find? (·.path == path)).bind (·.tree? text)

def Output.print (output : Output) : IO UInt32 := do
  for event in output.events do
    IO.eprintln s!"{event.level.name}: {event.message}"
  for block in output.console do
    for line in block.lines do
      IO.println line
  for document in output.document do
    IO.println document.json
  return UInt32.ofNat output.exitCode

end JavaAudit.Command

section

open JavaAudit Command

def main (texts : List String) : IO UInt32 := do
  match Request.ofTexts texts with
  | .help =>
    IO.println usage
    return 0
  | .misuse =>
    IO.eprintln usage
    return 2
  | .run arguments =>
    let files ← (arguments.settingsPath.toList ++ arguments.files).mapM loadPath
    match run (.ofLoaded files) arguments with
    | .error error =>
      IO.eprintln error.message
      return 1
    | .ok output => output.print

end
