import JavaAudit.Decimal.Shortest

/-! Plain structured values, and their text as JSON. -/

set_option autoImplicit false

namespace JavaAudit

inductive Document where
  | null
  | truth (value : Bool)
  | integer (value : Int)
  | real (value : Float)
  | text (value : String)
  | list (items : List Document)
  | record (entries : List (String × Document))

namespace Document

def texts (items : List String) : Document :=
  .list (items.map .text)

def hexDigit (value : Nat) : Char :=
  (Nat.toDigits 16 (value % 16)).headD '0'

def unitEscape (unit : Nat) : List Char :=
  ['\\', 'u', hexDigit (unit / 4096), hexDigit (unit / 256), hexDigit (unit / 16), hexDigit unit]

/-- Characters beyond ASCII are escaped as one unit or as a pair of surrogates. -/
def escapeChar (c : Char) : List Char :=
  match c with
  | '"' => ['\\', '"']
  | '\\' => ['\\', '\\']
  | '\n' => ['\\', 'n']
  | '\r' => ['\\', 'r']
  | '\t' => ['\\', 't']
  | '\x08' => ['\\', 'b']
  | '\x0c' => ['\\', 'f']
  | _ =>
    let code := c.toNat
    if 0x20 ≤ code ∧ code < 0x7F then [c]
    else if code < 0x10000 then unitEscape code
    else
      unitEscape (0xD800 + (code - 0x10000) / 0x400) ++
        unitEscape (0xDC00 + (code - 0x10000) % 0x400)

def quote (text : String) : String :=
  "\"" ++ String.ofList (text.toList.flatMap escapeChar) ++ "\""

def realText (value : Float) : String :=
  match Decimal.Double.ofFloat value with
  | .undefined => "NaN"
  | .infinite negative => if negative then "-Infinity" else "Infinity"
  | .finite .. => Decimal.general value

def lineBreak (level : Nat) : String :=
  String.ofList ('\n' :: List.replicate (2 * level) ' ')

def bracket (left right : String) (level : Nat) (items : List String) : String :=
  if items.isEmpty then left ++ right
  else
    left ++ lineBreak (level + 1) ++ ("," ++ lineBreak (level + 1)).intercalate items ++
      lineBreak level ++ right

mutual

/-- The JSON text of a document that starts at the given indentation level. -/
def jsonAt (level : Nat) : Document → String
  | .null => "null"
  | .truth value => if value then "true" else "false"
  | .integer value => toString value
  | .real value => realText value
  | .text value => quote value
  | .list items => bracket "[" "]" level (jsonItems (level + 1) items)
  | .record entries => bracket "\x7b" "\x7d" level (jsonEntries (level + 1) entries)

def jsonItems (level : Nat) : List Document → List String
  | [] => []
  | item :: rest => jsonAt level item :: jsonItems level rest

def jsonEntries (level : Nat) : List (String × Document) → List String
  | [] => []
  | (key, value) :: rest => (quote key ++ ": " ++ jsonAt level value) :: jsonEntries level rest

end

def json (document : Document) : String :=
  jsonAt 0 document

end Document

end JavaAudit
