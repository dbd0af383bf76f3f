/-! Files as the commands see them. -/

set_option autoImplicit false

namespace JavaAudit

namespace Text

def unifyLineEnds : List Char → List Char
  | [] => []
  | '\r' :: '\n' :: rest => '\n' :: unifyLineEnds rest
  | '\r' :: rest => '\n' :: unifyLineEnds rest
  | c :: rest => c :: unifyLineEnds rest

def decode? (bytes : ByteArray) : Option String :=
  (String.fromUTF8? bytes).map fun text => String.ofList (unifyLineEnds text.toList)

end Text

inductive FileEntry where
  | absent
  | directory
  | file (bytes : ByteArray)
  /-- A name on the way is longer than names can be. -/
  | overlong

namespace Path

def components (path : String) : List String :=
  (path.splitOn "/").filter fun name => !name.isEmpty && name != "."

/-- Exactly two leading slashes are kept, any other number of them counts as one. -/
def root (path : String) : String :=
  match path.toList with
  | '/' :: '/' :: '/' :: _ => "/"
  | '/' :: '/' :: _ => "//"
  | '/' :: _ => "/"
  | _ => ""

/-- A path without redundant parts; the empty path is the working directory. -/
def normalize (path : String) : String :=
  let text := root path ++ "/".intercalate (components path)
  if text.isEmpty then "." else text

def nameLimit : Nat := 255

def lengthLimit : Nat := 4095

def isOverlong (path : String) : Bool :=
  lengthLimit < path.utf8ByteSize || (components path).any (nameLimit < ·.utf8ByteSize)

end Path

structure Workspace where
  files : List (String × ByteArray)

namespace Workspace

/-- What stands at a place of the working directory. The directories are those that hold a
file. -/
def entry (workspace : Workspace) (place : List String) : FileEntry :=
  match workspace.files.find? fun file => Path.components file.1 == place with
  | some file => .file file.2
  | none =>
    if place.isEmpty || workspace.files.any fun file =>
        place.isPrefixOf (Path.components file.1) then .directory
    else .absent

/-- Follow names from a directory, which is a place in the working directory or, without one,
stands above it. Nothing but directories is known above. -/
def follow (workspace : Workspace) : Option (List String) → List String → FileEntry
  | none, [] => .directory
  | some place, [] => workspace.entry place
  | place, name :: rest =>
    if name == ".." then
      match place with
      | none | some [] => workspace.follow none rest
      | some (first :: others) => workspace.follow (some (first :: others).dropLast) rest
    else if Path.nameLimit < name.utf8ByteSize then .overlong
    else
      match place with
      | none => .absent
      | some place =>
        match workspace.entry (place ++ [name]) with
        | .directory => workspace.follow (some (place ++ [name])) rest
        | found => if rest.isEmpty then found else .absent

def find (workspace : Workspace) (path : String) : FileEntry :=
  if Path.lengthLimit < path.utf8ByteSize then .overlong
  else
    workspace.follow (if (Path.root path).isEmpty then some [] else none) (Path.components path)

end Workspace

end JavaAudit
