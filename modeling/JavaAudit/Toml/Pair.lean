import JavaAudit.Toml.Literal

/-! Keys with their values. -/

set_option autoImplicit false

namespace JavaAudit.Toml

open Text

/-- A text that goes on in the next line. -/
structure Pending where
  key : String
  text : List Char
  /-- Does the next line follow without its margin? -/
  joins : Bool
  deriving DecidableEq, Repr

abbrev Stored := Value × Option Pending

def lastItem (item : List Char) : List (List Char) → Except Fault (List Char)
  | [] => .ok item
  | before :: rest =>
    match item with
    | [] => .error .textEnds
    | c :: _ => if isMark c then .ok item else lastItem (before ++ ',' :: item) rest

def isOpenFence (text : List Char) : Except Fault Bool :=
  match text with
  | [] => .error .textEnds
  | mark :: rest =>
    if !isMark mark then .ok false
    else
      match rest with
      | [] => .error .textEnds
      | second :: more =>
        if second != mark then .ok false
        else
          match more with
          | [] => .error .textEnds
          | third :: _ =>
            .ok (third == mark &&
              !(5 < text.length && (text.reverse.take 3).all (· == mark)))

def isOpen (text : List Char) : Except Fault Bool :=
  if text.length < 3 then .ok false
  else if text.head? == some '[' && text.getLast? != some ']' && startsWithString text then
    match (pieces [','] (trim text.tail)).reverse with
    | [] => .ok false
    | item :: before => do isOpenFence (← lastItem item before)
  else isOpenFence text

/-- A line that goes on: a backslash at its end joins the next line to it. -/
def Pending.ofLine (key : String) (text : List Char) : Pending :=
  if endsEscaped text then ⟨key, text.dropLast, true⟩ else ⟨key, text ++ ['\n'], false⟩

/-- The levels of a dotted key that has quoted parts. Only what is not quoted is cut at points. -/
def quotedLevels (isQuoted : Bool) : List (List Char) → List (List Char)
  | [] => []
  | piece :: rest =>
    (if isQuoted then [piece] else (pieces ['.'] piece).map trim) ++ quotedLevels (!isQuoted) rest

def levels (key : List Char) : List (List Char) :=
  if key.any isMark then quotedLevels false (quotePieces key) else pieces ['.'] key

/-- The tables that a key names and the name in the last of them. Levels without text do not
count. -/
def keyPath (key : List Char) : Except Fault (List String × String) :=
  if key.contains '.' then
    match (levels key).reverse.dropWhile (·.isEmpty) with
    | [] => .error .listEnds
    | last :: before =>
      .ok ((before.reverse.filter (!·.isEmpty)).map String.ofList, String.ofList (trim last))
  else
    match key with
    | [] => .error .textEnds
    | first :: _ =>
      if isMark first && key.getLast? == some first then do
        return ([], String.ofList (← require (unescape? key.tail.dropLast)))
      else .ok ([], String.ofList key)

/-- Can the text right after an equals sign be a value? Without a blank in front of it, it has to
be a string, in brackets, a truth value, a number, a date or a time. -/
def isWellPlaced (written : List Char) : Bool :=
  match written with
  | [] => true
  | first :: _ =>
    [' ', '\t', '\'', '"', '[', '\x7b'].contains first ||
      trim written == "true".toList || trim written == "false".toList ||
      (Numeral.real? written).isSome || (calendar? written).isSome ||
      (Clock.atFront? written).isSome

structure Cut where
  key : List Char
  written : List Char
  /-- May the value be a number? -/
  isStrict : Bool
  deriving DecidableEq, Repr

namespace Cut

def atSign (number : Nat) (statement : List Char) : Cut :=
  let (key, written) := cutAt ['='] number statement
  ⟨key, written, isStrictNumber (trim written)⟩

def dropUnderscores (cut : Cut) : Cut :=
  if cut.written.head?.any Char.isDigit then
    { cut with written := cut.written.filter (· != '_') }
  else cut

/-- The first cut after which a value is well placed. It may be a number only if the values of all
cuts up to it may. -/
def wellPlaced (cut : Cut) : List Cut → Except Fault Cut
  | [] => if isWellPlaced cut.written then .ok cut else .error .malformed
  | next :: rest =>
    if isWellPlaced cut.written then .ok cut
    else if cut.written == next.written then .error .malformed
    else wellPlaced { next with isStrict := cut.isStrict && next.isStrict } rest

/-- Cut a statement at an equals sign: the first one outside marks, or a later one if no value can
follow that. -/
def ofStatement (statement : List Char) : Except Fault Cut := do
  let number := separatorNumber ['='] false (quotePieces statement)
  let count := occurrences ['='] statement
  -- The last cut comes twice, so that it is also tried with its underscores.
  let later := (List.range (count + 2 - number)).map fun more =>
    atSign (number + 1 + more) statement
  let cut ← wellPlaced (atSign number statement).dropUnderscores later
  return { cut with key := trim cut.key, written := trim cut.written }

end Cut

def storeNew (read : Bool → List Char → Except Fault Value) (key : String) (cut : Cut)
    (level : Value) : Except Fault Stored := do
  let isPending ← isOpen cut.written
  let value ← if isPending then .ok .empty else read cut.isStrict cut.written
  match level with
  | .table _ entries =>
    if (entries.lookup key).isSome then .error .malformed
    else if !isPending then .ok (level.put key value, none)
    else if key.isEmpty then .error .keylessText
    else .ok (level, some (.ofLine key cut.written))
  | _ => .error .malformed

/-- Store the key and the value of a statement; `read` reads values. Missing tables on the way are
made. -/
def storePair (read : Bool → List Char → Except Fault Value) (statement : List Char)
    (level : Value) : Except Fault Stored := do
  let cut ← Cut.ofStatement statement
  let (path, key) ← keyPath cut.key
  level.atSteps (storeNew read key cut) (path.map .key)

/-- Can the text be a whole entry of an inline table? A value may not start with a plus sign
there, and the words for values without digits are not known. -/
def isInlineEntry (text : List Char) : Except Fault Bool :=
  if !text.contains '=' then .error .malformed
  else
    match trim ((text.dropWhile (· != '=')).drop 1) with
    | [] => .error .textEnds
    | first :: rest =>
      let value := first :: rest
      let last := value.getLast?
      .ok ((isMark first && last == some first) || first == '-' || first.isDigit ||
        value == "true".toList || value == "false".toList ||
        (first == '[' && last == some ']') || (first == '\x7b' && last == some '\x7d'))

def joinEntries (entry : List Char) : List (List Char) → Except Fault (List (List Char))
  | [] => do if ← isInlineEntry entry then return [entry] else .error .malformed
  | next :: rest => do
    if ← isInlineEntry entry then return entry :: (← joinEntries next rest)
    else joinEntries (entry ++ ',' :: next) rest

def writtenEntries (text : List Char) : Except Fault (List (List Char)) :=
  match pieces [','] text.tail.dropLast with
  | [] => .ok []
  | [only] => if (trim only).isEmpty then .ok [] else joinEntries only []
  | first :: rest => joinEntries first rest

def storeEntries (read : Bool → List Char → Except Fault Value) :
    List (List Char) → Value → Except Fault Value
  | [], level => .ok level
  | entry :: rest, level => do
    let (level, pending) ← storePair read entry level
    if pending.isSome then return level else storeEntries read rest level

def storeInline (read : Bool → List Char → Except Fault Value) (text : List Char)
    (level : Value) : Except Fault Value := do
  storeEntries read (← writtenEntries text) level

/-- A value whose brackets nest less deep than `fuel`; `isStrict` says whether it may be a
number. -/
def valueWithin : Nat → Bool → List Char → Except Fault Value
  | 0, _, _ => .error .malformed
  | fuel + 1, isStrict, text =>
    match text with
    | [] => .error .malformed
    | '"' :: _ => do return .text (← string '"' text)
    | '\'' :: _ => do return .text (← string '\'' text)
    | '[' :: _ => do
      return .array (← readItems (valueWithin fuel true) none (← writtenItems text))
    | '\x7b' :: _ => storeInline (valueWithin fuel) text (.table true [])
    | _ => require (bare? isStrict text)

def value (isStrict : Bool) (text : List Char) : Except Fault Value :=
  valueWithin (text.length + 1) isStrict text

open Value (Distinct)

def ReadsDistinct (read : Bool → List Char → Except Fault Value) : Prop :=
  ∀ isStrict text, Yields Distinct (read isStrict text)

section
variable {read : Bool → List Char → Except Fault Value} {level : Value}

theorem yields_storeNew (reads : ReadsDistinct read) (key : String) (cut : Cut)
    (distinct : level.Distinct) : Yields (·.1.Distinct) (storeNew read key cut level) := by
  refine .bind_any fun isPending => ?_
  cases isPending with
  | true =>
    -- A value that stays open is stored with its last line, and until then the level is kept.
    refine .bind (.ok (Distinct.emptyTable false)) fun _ _ => ?_
    cases level with
    | table isInline entries =>
      simp only [Bool.not_true, Bool.false_eq_true, if_false]
      split
      · exact .error
      · split
        · exact .error
        · exact .ok distinct
    | _ => exact .error
  | false =>
    refine .bind (reads _ _) fun value given => ?_
    cases level with
    | table isInline entries =>
      dsimp only
      split
      · exact .error
      · exact .ok (distinct.put key given)
    | _ => exact .error

theorem yields_storePair (reads : ReadsDistinct read) (statement : List Char)
    (distinct : level.Distinct) : Yields (·.1.Distinct) (storePair read statement level) :=
  .bind_any fun cut => .bind_any fun named =>
    distinct.atSteps (fun _ inner => yields_storeNew reads named.2 cut inner) _

theorem yields_storeEntries (reads : ReadsDistinct read) (written : List (List Char))
    (distinct : level.Distinct) : Yields Distinct (storeEntries read written level) := by
  induction written generalizing level with
  | nil => exact .ok distinct
  | cons entry rest ih =>
    refine .bind (yields_storePair reads entry distinct) fun stored kept => ?_
    dsimp only
    split
    · exact .ok kept
    · exact ih kept

theorem yields_storeInline (reads : ReadsDistinct read) (text : List Char)
    (distinct : level.Distinct) : Yields Distinct (storeInline read text level) :=
  .bind_any fun written => yields_storeEntries reads written distinct

end

theorem readsDistinct_valueWithin (fuel : Nat) : ReadsDistinct (valueWithin fuel) := by
  induction fuel with
  | zero => exact fun _ _ => .error
  | succ fuel ih =>
    intro isStrict text
    rw [valueWithin.eq_def]
    dsimp only
    split
    · exact .error
    · exact .bind_any fun _ => .ok (.plain rfl)
    · exact .bind_any fun _ => .ok (.plain rfl)
    · exact .bind_any fun written =>
        .bind (yields_readItems (ih true) none written) fun items each => .ok (.array each)
    · exact yields_storeInline ih _ (.emptyTable true)
    · exact yields_require fun value read => .plain (isPlain_of_bare? read)

theorem readsDistinct_value : ReadsDistinct value :=
  fun isStrict text => readsDistinct_valueWithin (text.length + 1) isStrict text

end JavaAudit.Toml
