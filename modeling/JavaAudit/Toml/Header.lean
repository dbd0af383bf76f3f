import JavaAudit.Toml.Quotation
import JavaAudit.Toml.Value

/-! Headers of tables and of items of arrays of tables. -/

set_option autoImplicit false

namespace JavaAudit.Toml

open Text

structure Header where
  path : List String
  /-- Does the header open one more table of an array? -/
  isItem : Bool
  deriving DecidableEq, Repr

namespace Header

def isBareNameChar (c : Char) : Bool :=
  c.isAlphanum || c == '_' || c == '-'

/-- The names between the points of a header. `written` is a quoted name that a point has cut. -/
def names (written : Option (List Char)) : List (List Char) → Except Fault (List String)
  | [] => if written.isSome then .error .malformed else .ok []
  | piece :: rest =>
    let joined := match written with
      | none => trim piece
      | some before => before ++ '.' :: piece
    let text := trim joined
    match text with
    | [] => .error .malformed
    | first :: _ =>
      if !isMark first then
        if text.all isBareNameChar then do
          return String.ofList text :: (← names none rest)
        else .error .malformed
      else if text.getLast? == some first && text.length ≠ 1 then do
        return String.ofList text.tail.dropLast :: (← names none rest)
      else names (some joined) rest

def closedPath (closing : List Char) (text : List Char) : Except Fault (List String) :=
  let number := separatorNumber closing false (quotePieces text)
  let (inner, rest) := cutAt closing number text
  if occurrences closing text < number || !(trim rest).isEmpty then .error .malformed
  else names none (pieces ['.'] inner)

def ofLine (line : List Char) : Except Fault Header :=
  match line with
  | '[' :: '[' :: rest => do return ⟨← closedPath [']', ']'] rest, true⟩
  | '[' :: first :: rest => do return ⟨← closedPath [']'] (first :: rest), false⟩
  | _ => .error .malformed

end Header

/-- A level below which a header has opened a table. -/
structure Opened where
  level : Value
  /-- The way to the table. -/
  steps : List Step
  /-- Names of tables that exist only because a table inside them was opened. -/
  implied : List String

namespace Opened

def fresh (isItem isEnd : Bool) : Value :=
  if isItem && isEnd then .array [.empty] else .empty

/-- Open what the end of a header names once more: an implied table, or an array for its next
item. -/
def again (isItem : Bool) (name : String) (value : Value) (implied : List String) :
    Except Fault (Value × List String) :=
  if implied.contains name then
    if isItem then .error .malformed else .ok (value, implied.erase name)
  else if isItem then do return (← value.append .empty, implied)
  else .error .malformed

def named (isItem isEnd : Bool) (name : String) (entries : Table) (implied : List String) :
    Except Fault (Value × List String) :=
  match entries.lookup name with
  | none => .ok (fresh isItem isEnd, if isEnd then implied else implied ++ [name])
  | some value => if isEnd then again isItem name value implied else .ok (value, implied)

def target (isItem : Bool) (value : Value) : Except Fault (Value × Bool) :=
  match isItem, value with
  | false, _ | true, .table .. => .ok (value, false)
  | true, _ => do return (← value.last, true)

def inLast (level : Value) (opened : Opened) : Opened :=
  { opened with level := level.putLast opened.level, steps := .last :: opened.steps }

def inMember (level : Value) (name : String) (opened : Opened) : Opened :=
  { opened with level := level.put name opened.level, steps := .key name :: opened.steps }

/-- Open the table at a path below a level. A level that is no table stands for its last part. -/
def ofPath (isItem : Bool) : List String → Value → List String → Except Fault Opened
  | [], level, implied => .ok ⟨level, [], implied⟩
  | name :: path, level, implied => do
    if name.isEmpty then .error .malformed
    else
      let isEnd := path.isEmpty
      match level with
      | .table _ entries =>
        let (value, implied) ← named isItem isEnd name entries implied
        let (inner, isLast) ← target isItem value
        let opened ← ofPath isItem path inner implied
        return inMember level name (if isLast then inLast value opened else opened)
      | _ =>
        let part ← level.last
        let value ← part.member name (fresh isItem isEnd)
        let (inner, isLast) ← target isItem value
        let opened ← ofPath isItem path inner implied
        let opened := if isLast then inLast value opened else opened
        return inLast level (inMember part name opened)

variable {level value : Value} {entries : Table} {opened : Opened}

theorem fresh_distinct (isItem isEnd : Bool) : (fresh isItem isEnd).Distinct := by
  rw [fresh]
  split
  · exact .array (List.forall_mem_singleton.mpr (.emptyTable false))
  · exact .emptyTable false

theorem yields_again (isItem : Bool) (name : String) (distinct : value.Distinct)
    (implied : List String) : Yields (·.1.Distinct) (again isItem name value implied) := by
  rw [again]
  split
  · split
    · exact .error
    · exact .ok distinct
  · split
    · exact .bind (distinct.append (.emptyTable false)) fun _ longer => .ok longer
    · exact .error

theorem yields_named {isInline : Bool} (isItem isEnd : Bool) (name : String)
    (distinct : (Value.table isInline entries).Distinct) (implied : List String) :
    Yields (·.1.Distinct) (named isItem isEnd name entries implied) := by
  rw [named]
  split
  · exact .ok (fresh_distinct isItem isEnd)
  · next value found =>
    split
    · exact yields_again isItem name (distinct.lookup found) implied
    · exact .ok (distinct.lookup found)

theorem yields_target (isItem : Bool) (distinct : value.Distinct) :
    Yields (·.1.Distinct) (target isItem value) := by
  unfold target
  split
  · exact .ok distinct
  · exact .ok distinct
  · exact .bind distinct.last fun _ lastDistinct => .ok lastDistinct

theorem inLast_distinct (distinct : level.Distinct) (inner : opened.level.Distinct) :
    (inLast level opened).level.Distinct :=
  distinct.putLast inner

theorem inMember_distinct (distinct : level.Distinct) (name : String)
    (inner : opened.level.Distinct) : (inMember level name opened).level.Distinct :=
  distinct.put name inner

theorem yields_ofPath (isItem : Bool) (path : List String) (distinct : level.Distinct)
    (implied : List String) :
    Yields (·.level.Distinct) (ofPath isItem path level implied) := by
  -- Every part of the result is an old level, a fresh one, or one that the induction hypothesis
  -- covers.
  induction path generalizing level implied with
  | nil => exact .ok distinct
  | cons name path ih =>
    rw [ofPath.eq_def]
    dsimp only
    split
    · exact .error
    · split
      · refine .bind (yields_named isItem path.isEmpty name distinct implied) ?_
        intro found foundDistinct
        refine .bind (yields_target isItem foundDistinct) fun goal goalDistinct => ?_
        refine .bind (ih goalDistinct _) fun opened inner => .ok ?_
        refine inMember_distinct distinct name ?_
        split
        · exact inLast_distinct foundDistinct inner
        · exact inner
      · refine .bind distinct.last fun part partDistinct => ?_
        refine .bind (partDistinct.member name (fresh_distinct isItem path.isEmpty)) ?_
        intro value valueDistinct
        refine .bind (yields_target isItem valueDistinct) fun goal goalDistinct => ?_
        refine .bind (ih goalDistinct _) fun opened inner => .ok ?_
        refine inLast_distinct distinct (inMember_distinct partDistinct name ?_)
        split
        · exact inLast_distinct valueDistinct inner
        · exact inner

end Opened

end JavaAudit.Toml
