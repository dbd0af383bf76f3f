/-! Text in console markup, where tags such as `[red]` set the style. -/

set_option autoImplicit false

namespace JavaAudit.Markup

def opensTag : List Char → Bool
  | [] => false
  | first :: rest =>
    (first.isLower || first == '#' || first == '/' || first == '@') &&
      (rest.find? fun c => c == ']' || c == '[') == some ']'

/-- Put a backslash before each tag and double the backslashes in front of it; `pending` counts
the backslashes just read. -/
def escapeTags (pending : Nat) : List Char → List Char
  | [] => List.replicate pending '\\'
  | c :: rest =>
    if c == '\\' then escapeTags (pending + 1) rest
    else if c == '[' && opensTag rest then
      List.replicate (2 * pending + 1) '\\' ++ c :: escapeTags 0 rest
    else List.replicate pending '\\' ++ c :: escapeTags 0 rest

/-- A single backslash at the end would escape what follows. -/
def closeBackslash (text : List Char) : List Char :=
  if ['\\'].isSuffixOf text && !(['\\', '\\'].isSuffixOf text) then text ++ ['\\'] else text

def escape (text : String) : String :=
  String.ofList (closeBackslash (escapeTags 0 text.toList))

/-- Drop the tags and undo the escapes; `inTag` says whether a tag is open, and `pending` counts
the backslashes just read. -/
def plainFrom (inTag : Bool) (pending : Nat) : List Char → List Char
  | [] => List.replicate pending '\\'
  | c :: rest =>
    if inTag then plainFrom (c != ']') 0 rest
    else if c == '\\' then plainFrom false (pending + 1) rest
    else if c == '[' && opensTag rest then
      List.replicate (pending / 2) '\\' ++
        (if pending % 2 == 1 then c :: plainFrom false 0 rest else plainFrom true 0 rest)
    else List.replicate pending '\\' ++ c :: plainFrom false 0 rest

def plain (markup : String) : String :=
  String.ofList (plainFrom false 0 markup.toList)

end JavaAudit.Markup
