import JavaAudit.Text.Search
import JavaAudit.Toml.Fault

/-! From the text of a TOML file to its lines.

Comments become spaces, and so do line ends inside brackets. A line end right after an opening
fence of three marks moves in front of it. Keys are checked on the way. -/

set_option autoImplicit false

namespace JavaAudit.Toml

def isMark (c : Char) : Bool :=
  c == '"' || c == '\''

def isEscaped (before : List Char) : Bool :=
  (before.takeWhile (· == '\\')).length % 2 == 1

inductive KeyPhase where
  | outside
  | within
  /-- After a blank or a closing mark. -/
  | beyond
  deriving DecidableEq, Repr

inductive HeaderPhase where
  | outside
  | table
  | item
  deriving DecidableEq, Repr

structure Scan where
  /-- The text of the lines so far, last character first. -/
  written : List Char := []
  key : KeyPhase := .outside
  /-- Has the key a point? -/
  dotted : Bool := false
  /-- The mark of the open string. -/
  string : Option Char := none
  /-- Is a string open that three marks fence? -/
  fenced : Bool := false
  /-- Open square brackets, less the surplus of closing ones. -/
  depth : Int := 0
  header : HeaderPhase := .outside
  /-- Has the line only blanks so far? -/
  lineStart : Bool := true
  inComment : Bool := false
  deriving DecidableEq, Repr

namespace Scan

def push (scan : Scan) (c : Char) : Scan :=
  { scan with written := c :: scan.written }

def resumeKey (scan : Scan) (next : Option Char) : Except Fault Scan :=
  match next with
  | none => .error .listEnds
  | some c => .ok (if Text.isBlank c || c == '.' then scan else { scan with key := .within })

def endKey (scan : Scan) (c : Char) : Except Fault Scan :=
  if c == '=' then .ok { scan with key := .outside, dotted := false } else .error .malformed

def keyStep (scan : Scan) (c : Char) (next : Option Char) : Except Fault Scan :=
  if c == '\n' then .error .malformed
  else
    match scan.string with
    | some mark =>
      .ok (if c == mark && !isEscaped scan.written then
        { scan with key := .beyond, string := none } else scan)
    | none =>
      if scan.key = .within then
        if Text.isBlank c then .ok { scan with key := .beyond }
        else if c == '.' then .ok { scan with dotted := true }
        else if Text.isWordChar c || c == '-' then .ok scan
        else if scan.dotted && scan.written.head? == some '.' && isMark c then
          .ok { scan with string := some c }
        else scan.endKey c
      else if Text.isBlank c then if scan.dotted then scan.resumeKey next else .ok scan
      else if c == '.' then { scan with dotted := true }.resumeKey next
      else scan.endKey c

def toggle (scan : Scan) (mark : Char) (isFence : Bool) : Scan :=
  if isFence then
    { scan with fenced := !scan.fenced, string := if scan.fenced then none else some mark }
  else { scan with string := if scan.string.isSome then none else some mark }

/-- The effect of a mark. `before` is the text before it, last character first. A basic string
knows escapes, which are not looked for after a single mark. -/
def markStep (scan : Scan) (before : List Char) (mark : Char) : Scan :=
  let run := (before.takeWhile (· == mark)).length
  let isFence := 2 ≤ run
  let escapes := mark == '"' &&
    (if run = 0 then isEscaped before else isFence && isEscaped (before.drop 2))
  if scan.string.any (· != mark) || escapes then scan else scan.toggle mark isFence

def bracketStep (scan : Scan) (c : Char) (next : Option Char) : Scan :=
  if scan.string.isSome then scan
  else if c == '[' && scan.header = .outside then
    if scan.lineStart then
      { scan with header := if next == some '[' then .item else .table }
    else { scan with depth := scan.depth + 1 }
  else if c == ']' then
    match scan.header with
    | .table => { scan with header := .outside }
    | .item =>
      if scan.written.head? == some ']' then { scan with header := .outside } else scan
    | .outside => { scan with depth := scan.depth - 1 }
  else scan

/-- A line end after two marks in a fenced string becomes a mark; a third mark becomes a space. -/
def fencedLineEnd (scan : Scan) : Scan :=
  match scan.written with
  | first :: second :: rest =>
    if isMark first && second == first then
      let rest := match rest with
        | third :: more => (if third == first then ' ' else third) :: more
        | [] => []
      { scan with written := first :: first :: second :: rest }
    else scan.push '\n'
  | _ => scan.push '\n'

def lineEnd (scan : Scan) : Except Fault Scan :=
  if scan.fenced then .ok scan.fencedLineEnd
  else if scan.string.isSome then .error .malformed
  else if scan.depth ≠ 0 then .ok (scan.push ' ')
  else .ok { scan.push '\n' with lineStart := true }

/-- The first character of a line opens its key, unless it opens a header. -/
def openLine (scan : Scan) (c : Char) : Except Fault Scan :=
  if !scan.lineStart || c == ' ' || c == '\t' then .ok scan
  else if scan.header ≠ .outside then .ok { scan with lineStart := false }
  else if c == '=' then .error .malformed
  else .ok { scan with lineStart := false, key := .within }

def plainStep (scan : Scan) (ring : List Char) (c : Char) (next : Option Char) :
    Except Fault Scan :=
  if c == '\n' then scan.lineEnd
  else if c == '#' && scan.string.isNone && scan.header = .outside then
    .ok { scan.push ' ' with inComment := true }
  else do
    let marked := if isMark c then scan.markStep (scan.written ++ ring) c else scan
    let opened ← (marked.bracketStep c next).openLine c
    return opened.push c

def step (scan : Scan) (ring : List Char) (c : Char) (next : Option Char) : Except Fault Scan :=
  if scan.key ≠ .outside then do return (← scan.keyStep c next).push c
  else if scan.inComment && c != '\n' then .ok (scan.push ' ')
  else { scan with inComment := false }.plainStep ring c next

/-- Read the rest of a file. What stands before its first character is its end, `ring`. -/
def run (scan : Scan) (ring : List Char) : List Char → Except Fault Scan
  | [] => if scan.key ≠ .outside || scan.string.isSome then .error .malformed else .ok scan
  | c :: rest => do (← scan.step ring c rest.head?).run ring rest

end Scan

def lines (text : List Char) : Except Fault (List (List Char)) := do
  let scan ← ({} : Scan).run text.reverse text
  return Text.pieces ['\n'] scan.written.reverse

end JavaAudit.Toml
