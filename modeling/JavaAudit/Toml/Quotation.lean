import JavaAudit.Numeral.Integer
import JavaAudit.Toml.Statement

/-! Strings, and what is quoted in a line. -/

set_option autoImplicit false

namespace JavaAudit.Toml

open Text

/-- Cut at single marks, after as many pieces between double marks as it takes to close the last
single mark. -/
def closeSingle (single : List (List Char)) :
    List (List Char) → List (List Char) × List (List Char)
  | [] => (single, [])
  | next :: rest =>
    if single.length % 2 == 0 then
      let last := single.getLast?.getD [] ++ '"' :: next
      closeSingle (single.dropLast ++ pieces ['\''] last) rest
    else (single, next :: rest)

def cutFirst : List (List Char) → List (List Char)
  | [] => []
  | first :: rest => pieces ['\''] first ++ rest

/-- The parts of a line that stand outside and inside of marks, by turns. -/
def quotePieces (line : List Char) : List (List Char) :=
  match pieces ['"'] line with
  | [] => []
  | first :: rest =>
    if !rest.isEmpty && first.contains '\'' then
      let (single, double) := closeSingle (pieces ['\''] first) rest
      single ++ cutFirst double
    else cutFirst (first :: rest)

/-- The number, from one, of the first occurrence of a separator outside marks. -/
def separatorNumber (separator : List Char) (isQuoted : Bool) : List (List Char) → Nat
  | [] => 1
  | piece :: rest =>
    if !isQuoted && occursIn separator piece then 1
    else occurrences separator piece + separatorNumber separator (!isQuoted) rest

def endsEscaped (text : List Char) : Bool :=
  isEscaped text.reverse

/-- Nothing but escaped marks follows the end of a string. The pieces are those between its marks,
`fences` counts the marks in a row, and `isClosed` says whether the end was seen. -/
def endsProperly (isFenced isClosed : Bool) (fences : Nat) : List (List Char) → Bool
  | [] => true
  | [] :: rest =>
    if isFenced then endsProperly isFenced isClosed (fences + 1) rest
    else endsProperly isFenced true fences rest
  | piece :: rest =>
    if endsEscaped piece then endsProperly isFenced isClosed fences rest
    else if isClosed then false
    else if !isFenced || 1 < fences then endsProperly isFenced true fences rest
    else endsProperly isFenced isClosed 0 rest

def isProper (mark : Char) (text : List Char) : Bool :=
  match pieces [mark] text.tail with
  | [] :: [] :: rest => endsProperly true false 0 rest
  | all => endsProperly false false 0 all

def simpleEscape? : Char → Option Char
  | '0' => some '\x00'
  | 'b' => some '\x08'
  | 't' => some '\t'
  | 'n' => some '\n'
  | 'f' => some '\x0c'
  | 'r' => some '\r'
  | '"' => some '"'
  | _ => none

/-- Are the escapes known? The pieces are those after each backslash, and `isPaired` says whether
the last backslash is itself escaped. -/
def escapesKnown (isPaired : Bool) : List (List Char) → Bool
  | [] => true
  | [] :: rest => escapesKnown (!isPaired) rest
  | (c :: _) :: rest =>
    ((simpleEscape? c).isSome || c == 'u' || c == 'U' || isPaired) && escapesKnown false rest

def hexValue? (digits : List Char) : Option Nat :=
  (digits.mapM fun c => if c.toNat < 0x80 then Numeral.digitIn? 16 c else none).map
    (Numeral.ofDigits 16)

/-- The character of a numeric escape. The first two digits alone can rule it out, as they would
for a surrogate of four digits. -/
def scalar (digits : List Char) : Except Fault Char := do
  let code ← require (hexValue? digits)
  match digits.map Char.toLower with
  | [] | ['d'] => .error .textEnds
  | first :: second :: _ =>
    if first == 'd' && '7' < second then .error .malformed else ofCode code
  | _ => ofCode code
where
  ofCode (code : Nat) : Except Fault Char :=
    if code < 0xD800 ∨ (0xDFFF < code ∧ code < 0x110000) then .ok (Char.ofNat code)
    else if code < 0x80000000 then .error .malformed
    else .error .codeTooLarge

/-- Resolve numeric escapes. The pieces start after each escape sign, and `isEscaped` says whether
the next sign is itself escaped, which is looked up again only after such a sign. -/
def resolveCodes (sign : List Char) (width : Nat) (isEscaped : Bool) (resolved : List Char) :
    List (List Char) → Except Fault (List Char)
  | [] => .ok resolved
  | piece :: rest =>
    if isEscaped then
      resolveCodes sign width (endsEscaped piece) (resolved ++ sign ++ piece) rest
    else do
      let c ← scalar (piece.take width)
      resolveCodes sign width false (resolved ++ c :: piece.drop width) rest

def resolveLetter (letter : Char) (width : Nat) (text : List Char) : Except Fault (List Char) :=
  match pieces ['\\', letter] text with
  | [] => .ok text
  | first :: rest => resolveCodes ['\\', letter] width (endsEscaped first) first rest

def unescape? : List Char → Option (List Char)
  | [] => some []
  | '\\' :: c :: rest =>
    match simpleEscape? c with
    | some char => (unescape? rest).map (char :: ·)
    | none =>
      if c == '\\' then (unescape? rest).map ('\\' :: ·)
      else if c == 'u' || c == 'U' then (unescape? rest).map (['\\', c] ++ ·)
      else none
  | c :: rest => (unescape? rest).map (c :: ·)

/-- Resolve the escapes of a basic string: the numeric ones first, so that what they stand for may
start another escape. -/
def resolve (text : List Char) : Except Fault (List Char) := do
  if escapesKnown false ((pieces ['\\'] text).drop 1) then
    let short ← resolveLetter 'u' 4 text
    let long ← resolveLetter 'U' 8 short
    require (unescape? long)
  else .error .malformed

/-- Take the marks off a string whose escapes are resolved. A second mark like the first is taken
for a part of a fence if a third follows or the string ends there. -/
def unwrapMarks (mark : Char) (text : List Char) : List Char :=
  let isFenced := match text with
    | [_, second] => second == mark
    | _ :: second :: third :: _ => second == mark && third == second
    | _ => false
  let inner := if isFenced then (text.drop 2).dropLast.dropLast else text
  inner.tail.dropLast

def string (mark : Char) (text : List Char) : Except Fault String := do
  if isProper mark text then
    let resolved ← if mark == '"' then resolve text else pure text
    return String.ofList (unwrapMarks mark resolved)
  else .error .malformed

end JavaAudit.Toml
