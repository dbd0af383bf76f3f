import JavaAudit.Toml.Header
import JavaAudit.Toml.Pair

/-! Reading TOML files. -/

set_option autoImplicit false

namespace JavaAudit.Toml

open Text

structure State where
  root : Value := .empty
  /-- The way to the table that new entries go to. -/
  steps : List Step := []
  /-- Names of tables that exist only because a table inside them was opened. -/
  implied : List String := []
  /-- The text that the next line goes on with. -/
  pending : Option Pending := none

namespace State

def update (state : State) (change : Value → Except Fault Stored) : Except Fault State := do
  let (root, pending) ← state.root.atSteps change state.steps
  return { state with root, pending }

/-- Does a line close the open text? An array is closed by a bracket at the end of the line, and a
string by its fence. -/
def closes (text line : List Char) : Except Fault Bool :=
  if text.head? == some '[' then
    match line.getLast? with
    | none => .error .textEnds
    | some last => .ok (last == ']')
  else
    .ok (2 < line.length && (line.reverse.take 3).all fun c => text.head? == some c)

def resume (state : State) (pending : Pending) (line : List Char) : Except Fault State := do
  let text := pending.text ++ line
  if ← closes pending.text line then
    let result ← value true text
    state.update fun level => .ok (level.put pending.key result, none)
  else return { state with pending := some (.ofLine pending.key text) }

/-- Read a line that starts a statement: a header, an inline table whose entries are stored one by
one, or a key with its value. -/
def statement (state : State) (line : List Char) : Except Fault State :=
  match line with
  | '[' :: _ => do
    let header ← Header.ofLine line
    let opened ← Opened.ofPath header.isItem header.path state.root state.implied
    return { state with root := opened.level, steps := opened.steps, implied := opened.implied }
  | '\x7b' :: _ =>
    if line.getLast? == some '\x7d' then
      state.update fun level => do return (← storeInline value line level, none)
    else .error .malformed
  | _ => if line.contains '=' then state.update (storePair value line) else .ok state

/-- Read one line. Inside an open text its margin counts, unless it is the first line or joined to
the one before. -/
def line (state : State) (written : List Char) : Except Fault State :=
  match state.pending with
  | none => if (trim written).isEmpty then .ok state else state.statement (trim written)
  | some pending =>
    let line :=
      if pending.joins || !pending.text.contains '\n' then trim written else written
    if line.isEmpty && pending.joins then .ok state else state.resume pending line

variable {state : State}

theorem yields_update {change : Value → Except Fault Stored}
    (keeps : ∀ level : Value, level.Distinct → Yields (·.1.Distinct) (change level))
    (distinct : state.root.Distinct) : Yields (·.root.Distinct) (state.update change) :=
  .bind (distinct.atSteps keeps state.steps) fun _ kept => .ok kept

theorem yields_resume (pending : Pending) (line : List Char) (distinct : state.root.Distinct) :
    Yields (·.root.Distinct) (state.resume pending line) := by
  refine .bind_any fun isClosed => ?_
  split
  · refine .bind (readsDistinct_value true _) fun result given => ?_
    exact yields_update (fun _ inner => .ok (inner.put pending.key given)) distinct
  · exact .ok distinct

theorem yields_statement (line : List Char) (distinct : state.root.Distinct) :
    Yields (·.root.Distinct) (state.statement line) := by
  unfold statement
  split
  · refine .bind_any fun header => ?_
    exact .bind (Opened.yields_ofPath header.isItem header.path distinct state.implied)
      fun opened kept => .ok kept
  · split
    · refine yields_update (fun _ inner => ?_) distinct
      exact .bind (yields_storeInline readsDistinct_value _ inner) fun _ kept => .ok kept
    · exact .error
  · split
    · exact yields_update (fun _ inner => yields_storePair readsDistinct_value _ inner) distinct
    · exact .ok distinct

theorem yields_line (written : List Char) (distinct : state.root.Distinct) :
    Yields (·.root.Distinct) (state.line written) := by
  unfold line
  split
  · split
    · exact .ok distinct
    · exact yields_statement _ distinct
  · dsimp only
    -- The root is kept whether or not the line loses its margin.
    split
    all_goals
      split
      · exact .ok distinct
      · exact yields_resume _ _ distinct

end State

def read (text : String) : Except Fault Table := do
  let state ← (← lines text.toList).foldlM State.line {}
  match state.root with
  | .table _ entries => return entries
  | _ => return []

open Value (Distinct) in
/-- No table that is read has a key twice, and so it is with the tables inside it. -/
theorem yields_read (text : String) :
    Yields (fun table => (Value.table false table).Distinct) (read text) := by
  refine .bind_any fun lines => ?_
  refine .bind (.foldlM (fun _ written => State.yields_line written) lines
    (Distinct.emptyTable false)) fun state distinct => ?_
  split
  · next isInline entries isRoot =>
    rw [isRoot] at distinct
    exact .ok (.table distinct.nodup distinct.entry)
  · exact .ok (.emptyTable false)

/-- A way of reading TOML files, which leaves no key twice in a table. -/
structure Decoder where
  read : String → Except Fault Table
  distinct : ∀ text, Yields (fun table => (Value.table false table).Distinct) (read text)

def Decoder.standard : Decoder :=
  ⟨Toml.read, yields_read⟩

end JavaAudit.Toml
