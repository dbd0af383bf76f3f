import JavaAudit.Numeral.Real
import JavaAudit.Toml.Quotation
import JavaAudit.Toml.Value

/-! Values of TOML files as they are written. -/

set_option autoImplicit false

namespace JavaAudit.Toml

open Text

/-- Underscores stand inside numbers only, and decimal integers have no leading zero. -/
def isStrictNumber (text : List Char) : Bool :=
  match text with
  | [] => false
  | [c] => c != '_'
  | first :: second :: rest =>
    let isSigned := first == '+' || first == '-'
    first != '_' && text.getLast? != some '_' &&
      !occursIn ['_', '.'] text && !occursIn ['.', '_'] text &&
      !(first == '0' && !(['.', 'o', 'b', 'x'].contains second)) &&
      !(isSigned && second == '0' && !rest.isEmpty && rest.head? != some '.') &&
      !occursIn ['_', '_'] (if isSigned then second :: rest else text)

/-- An unsigned number: with a point or an exponent it is real, otherwise an integer that may name
its base. -/
def number? (negative : Bool) (text : List Char) : Option Value :=
  let isReal := text.contains '.' ||
    (!text.contains 'x' && (text.contains 'e' || text.contains 'E'))
  if isReal then
    if (text.contains '.' && ((text.dropWhile (· != '.')).drop 1).isEmpty)
        || !text.head?.any Char.isDigit then none
    else (Numeral.real? text).map fun value => .real (if negative then 0.0 - value else value)
  else if lower text == "inf".toList || lower text == "nan".toList then
    (Numeral.real? text).map fun value => .real (if negative then 0.0 - value else value)
  else
    (Numeral.markedInt? text).map fun value => .integer (if negative then 0 - value else value)

def signedNumber? (text : List Char) : Option Value :=
  match text with
  | '-' :: rest => number? true (rest.filter (· != '_'))
  | '+' :: rest => number? false (rest.filter (· != '_'))
  | _ => number? false (text.filter (· != '_'))

def calendar? (text : List Char) : Option Value :=
  if !text.tail.contains '-' then none
  else if text.length = 10 then (Date.ofText? text).map .date
  else (Moment.ofText? text).map .moment

def bare? (isStrict : Bool) (text : List Char) : Option Value :=
  if text == "true".toList then some (.truth true)
  else if text == "false".toList then some (.truth false)
  else if lower text == "true".toList || lower text == "false".toList then none
  else
    match Clock.atFront? text with
    | some clock => if clock.isValid then some (.time clock) else none
    | none =>
      match calendar? text with
      | some value => some value
      | none => if isStrict then signedNumber? text else none

def startsWithString (text : List Char) : Bool :=
  (trim text.tail.dropLast).head?.any isMark

def isBounded (text : List Char) : Bool :=
  match text with
  | [] | [_] => true
  | first :: rest => rest.getLast? == some first && !endsEscaped rest.dropLast

/-- Is an item of an array of strings complete? One that starts with a fence ends with one. -/
def isCompleteItem (written : List Char) : Bool :=
  let text := trim written
  isBounded text &&
    match text with
    | first :: second :: third :: _ =>
      let isFence := first == second && second == third
      !(isFence && ((text.reverse.drop 1).take 2).all (· != first))
    | _ => true

/-- Join the items of an array of strings that were cut at commas inside strings. The last item is
looked at only if something was joined to it. -/
def joinItems (isJoined : Bool) (item : List Char) :
    List (List Char) → Except Fault (List (List Char))
  | [] => if isJoined && !isCompleteItem item then .error .listEnds else .ok [item]
  | next :: rest =>
    if isCompleteItem item then do return item :: (← joinItems false next rest)
    else joinItems true (item ++ ',' :: next) rest

/-- Cut an array of arrays at the commas outside brackets. `current` is the open piece, last
character first. -/
def nestedItems (depth : Int) (current : List Char) : List Char → List (List Char)
  | [] => [current.reverse]
  | c :: rest =>
    if c == ',' && depth == 0 then current.reverse :: nestedItems depth [] rest
    else
      let change : Int := if c == '[' then 1 else if c == ']' then -1 else 0
      nestedItems (depth + change) (c :: current) rest

/-- The inline tables of an array. `current` is the open one, last character first; between two of
them the character after a closing brace is skipped, which `skip` says. -/
def tableItems (depth : Nat) (inString skip : Bool) (current : Option (List Char)) :
    List Char → List (List Char)
  | [] => []
  | c :: rest =>
    match current with
    | none =>
      tableItems depth inString false (if !skip && c == '\x7b' then some [c] else none) rest
    | some before =>
      let inString := if isMark c then !inString || isEscaped before else inString
      let depth := if !inString && c == '\x7b' then depth + 1 else depth
      if inString || c != '\x7d' then tableItems depth inString false (some (c :: before)) rest
      else if 1 < depth then tableItems (depth - 1) inString false (some (c :: before)) rest
      else (c :: before).reverse :: tableItems depth inString true none rest

def writtenItems (text : List Char) : Except Fault (List (List Char)) :=
  let inner := text.tail.dropLast
  if inner.contains '[' && (trim (inner.takeWhile (· != '['))).isEmpty then
    .ok (nestedItems 0 [] inner)
  else if (trim inner).head? == some '\x7b' then
    match inner with
    | [] => .ok []
    | first :: rest =>
      .ok (tableItems (if first == '\x7b' then 1 else 0) false false (some [first]) rest)
  else
    match pieces [','] inner with
    | [] => .ok []
    | first :: rest =>
      if startsWithString text then joinItems false first rest else .ok (first :: rest)

/-- Read the items of an array. They have one type, that of `first`, and items without text do not
count. -/
def readItems (read : List Char → Except Fault Value) (first : Option Value) :
    List (List Char) → Except Fault (List Value)
  | [] => .ok []
  | written :: rest =>
    if (trim written).isEmpty then readItems read first rest
    else do
      let item ← read (trim written)
      if first.any (!·.sameType item) then .error .malformed
      else return item :: (← readItems read (some (first.getD item)) rest)

theorem isPlain_of_number? {negative : Bool} {text : List Char} {value : Value}
    (read : number? negative text = some value) : value.isPlain = true := by
  simp only [number?] at read
  split at read
  · split at read
    · cases read
    · obtain ⟨_, _, rfl⟩ := Option.map_eq_some_iff.mp read
      rfl
  · split at read
    all_goals
      obtain ⟨_, _, rfl⟩ := Option.map_eq_some_iff.mp read
      rfl

theorem isPlain_of_signedNumber? {text : List Char} {value : Value}
    (read : signedNumber? text = some value) : value.isPlain = true := by
  unfold signedNumber? at read
  split at read
  all_goals exact isPlain_of_number? read

theorem isPlain_of_calendar? {text : List Char} {value : Value}
    (read : calendar? text = some value) : value.isPlain = true := by
  unfold calendar? at read
  split at read
  · cases read
  · split at read
    all_goals
      obtain ⟨_, _, rfl⟩ := Option.map_eq_some_iff.mp read
      rfl

theorem isPlain_of_bare? {isStrict : Bool} {text : List Char} {value : Value}
    (read : bare? isStrict text = some value) : value.isPlain = true := by
  -- What is read is a truth value, a time, a date or a number, in this order.
  unfold bare? at read
  split at read
  · cases read
    rfl
  · split at read
    · cases read
      rfl
    · split at read
      · cases read
      · split at read
        · split at read
          · cases read
            rfl
          · cases read
        · split at read
          · next found =>
            cases read
            exact isPlain_of_calendar? found
          · split at read
            · exact isPlain_of_signedNumber? read
            · cases read

open Value (Distinct)

theorem yields_readItems {read : List Char → Except Fault Value}
    (reads : ∀ text, Yields Distinct (read text)) (first : Option Value)
    (written : List (List Char)) :
    Yields (∀ item ∈ ·, item.Distinct) (readItems read first written) := by
  induction written generalizing first with
  | nil => exact .ok nofun
  | cons text rest ih =>
    rw [readItems]
    split
    · exact ih first
    · refine .bind (reads _) fun item itemDistinct => ?_
      split
      · exact .error
      · exact .bind (ih _) fun others othersDistinct =>
          .ok (List.forall_mem_cons.mpr ⟨itemDistinct, othersDistinct⟩)

end JavaAudit.Toml
