import Mathlib.Algebra.BigOperators.Ring.Finset
import JavaAudit.Proofs.MethodBodies

/-! Decision points by line.

The decision points of a unit are counted twice over: by line in each method, then by line over all
methods. Counting counts is counting, so if the methods have keys of their own and type bodies
separate nested methods, each decision point inside a method counts once on its line. -/

set_option autoImplicit false

namespace JavaAudit

namespace Assoc

def amountOf (amounts : List (Int × Nat)) (key : Int) : Nat :=
  ((amounts.filter (·.1 = key)).map (·.2)).sum

@[simp] theorem amountOf_nil (key : Int) : amountOf [] key = 0 := rfl

@[simp] theorem amountOf_cons (entry : Int × Nat) (rest : List (Int × Nat)) (key : Int) :
    amountOf (entry :: rest) key = (if entry.1 = key then entry.2 else 0) + amountOf rest key := by
  by_cases same : entry.1 = key <;> simp [amountOf, same]

@[simp] theorem amountOf_append (left right : List (Int × Nat)) (key : Int) :
    amountOf (left ++ right) key = amountOf left key + amountOf right key := by
  simp [amountOf]

theorem amountOf_entries (map : Assoc Int Nat) (key : Int) :
    amountOf map.entries key = (map.get? key).getD 0 := by
  obtain ⟨entries, distinct⟩ := map
  unfold get?
  induction entries with
  | nil => rfl
  | cons entry rest ih =>
    obtain ⟨fresh, restDistinct⟩ := List.nodup_cons.mp distinct
    rw [amountOf_cons, ih restDistinct, lookup_cons_ite]
    by_cases wanted : entry.1 = key
    · have absent : rest.lookup key = none := by
        rw [← Option.not_isSome_iff_eq_none, lookup_isSome_iff_mem]
        exact wanted ▸ fresh
      simp [wanted, absent]
    · simp [wanted, Ne.symm wanted]

theorem mem_keys_tally {amounts : List (Int × Nat)} {key : Int} :
    key ∈ (tally amounts).keys ↔ key ∈ amounts.map (·.1) := by
  induction amounts using List.reverseRecOn with
  | nil => rfl
  | append_singleton amounts entry ih =>
    rw [tally_concat, count, mem_keys_insert, ih]
    simp [or_comm, eq_comm]

theorem getD_tally (amounts : List (Int × Nat)) (key : Int) :
    ((tally amounts).get? key).getD 0 = amountOf amounts key := by
  induction amounts using List.reverseRecOn with
  | nil => rfl
  | append_singleton amounts entry ih =>
    rw [tally_concat, count, get?_insert, amountOf_append, amountOf_cons, amountOf_nil]
    by_cases same : entry.1 = key
    · simp [same, ih]
    · simp [same, Ne.symm same, ih]

/-- A tally holds the keys that have an amount, with what their amounts add up to. -/
theorem get?_tally_eq_some_iff {amounts : List (Int × Nat)} {key : Int} {total : Nat} :
    (tally amounts).get? key = some total ↔
      key ∈ amounts.map (·.1) ∧ amountOf amounts key = total := by
  rw [← mem_keys_tally, ← contains_iff, contains, ← getD_tally]
  cases (tally amounts).get? key <;> simp

/-- Tallying tallies is tallying all amounts at once. -/
theorem get?_tally_tallies {α : Type} (items : List α) (amounts : α → List (Int × Nat))
    (key : Int) :
    (tally (items.flatMap fun item => (tally (amounts item)).entries)).get? key =
      (tally (items.flatMap amounts)).get? key := by
  have sameKeys : ∀ item, key ∈ (tally (amounts item)).entries.map (·.1) ↔
      key ∈ (amounts item).map (·.1) := fun _ => mem_keys_tally
  have sameAmounts : amountOf (items.flatMap fun item => (tally (amounts item)).entries) key =
      amountOf (items.flatMap amounts) key := by
    induction items with
    | nil => rfl
    | cons item rest ih =>
      rw [List.flatMap_cons, List.flatMap_cons, amountOf_append, amountOf_append, ih,
        amountOf_entries, getD_tally]
  apply Option.ext
  intro total
  rw [get?_tally_eq_some_iff, get?_tally_eq_some_iff, sameAmounts, List.map_flatMap,
    List.map_flatMap, List.mem_flatMap, List.mem_flatMap]
  simp only [sameKeys]

theorem sum_replaceIn {entries : List (Int × Nat)} {key : Int} {total : Nat} (amount : Nat)
    (found : entries.lookup key = some total) :
    ((replaceIn key (total + amount) entries).map (·.2)).sum =
      (entries.map (·.2)).sum + amount := by
  induction entries with
  | nil => cases found
  | cons entry rest ih =>
    obtain ⟨entryKey, entryTotal⟩ := entry
    rw [lookup_cons_ite] at found
    by_cases same : entryKey = key
    · rw [if_pos same.symm, Option.some.injEq] at found
      simp only [replaceIn, same, if_true, List.map_cons, List.sum_cons]
      omega
    · rw [if_neg (Ne.symm same)] at found
      simp only [replaceIn, same, if_false, List.map_cons, List.sum_cons, ih found]
      omega

theorem sum_values_tally (amounts : List (Int × Nat)) :
    (tally amounts).values.sum = (amounts.map (·.2)).sum := by
  induction amounts using List.reverseRecOn with
  | nil => rfl
  | append_singleton amounts entry ih =>
    rw [tally_concat, List.map_append, List.sum_append, ← ih, count, values, values]
    cases found : (tally amounts).get? entry.1 with
    | none =>
      have fresh : ¬(tally amounts).contains entry.1 = true := by simp [contains, found]
      rw [entries_insert_of_not_contains fresh]
      simp
    | some total =>
      have known : (tally amounts).contains entry.1 = true := by simp [contains, found]
      rw [entries_insert_of_contains known, Option.getD_some, sum_replaceIn entry.2 found]
      simp

end Assoc

/-- The node is a decision point below the body of a method, and no type body stands between. -/
def Node.HasDecision (tree : Node) (site : Site) : Prop :=
  site.IsBelow tree ∧ site.isDecisionPoint = true ∧
    ∃ method ∈ tree.methods, ∃ body, method.body? = some body ∧ body.Owns site

def Node.decisionPoints (tree : Node) : List Site :=
  tree.methods.flatMap Site.decisionPoints

theorem Site.decisionPoints_eq (method : Site) :
    method.decisionPoints = method.ownScope.filter isDecisionPoint := rfl

theorem Node.mem_decisionPoints {tree : Node} {site : Site} :
    site ∈ tree.decisionPoints ↔ tree.HasDecision site := by
  simp only [decisionPoints, List.mem_flatMap, Site.decisionPoints_eq, List.mem_filter]
  constructor
  · rintro ⟨method, isMethod, walked, isDecision⟩
    obtain ⟨inTree, owned⟩ := (Site.mem_ownScope_iff isMethod).mp walked
    exact ⟨inTree, isDecision, method, isMethod, owned⟩
  · rintro ⟨inTree, isDecision, method, isMethod, owned⟩
    exact ⟨method, isMethod, (Site.mem_ownScope_iff isMethod).mpr ⟨inTree, owned⟩, isDecision⟩

theorem Node.decisionPoints_nodup {tree : Node} (separated : BodiesSeparated tree) :
    tree.decisionPoints.Nodup := by
  rw [decisionPoints, List.nodup_flatMap]
  constructor
  · intro method _
    exact method.ownScope_nodup.filter _
  · refine (Site.findBelow_nodup _ _).imp_of_mem ?_
    intro left right leftMethod rightMethod different site inLeft inRight
    exact separated.ownScopes_disjoint leftMethod rightMethod different
      (List.mem_filter.mp inLeft).1 (List.mem_filter.mp inRight).1

namespace MethodIndex

def oneDecision (point : Site) : Int × Nat :=
  ((point.line : Int), 1)

theorem amountOf_oneDecision (points : List Site) (line : Int) :
    Assoc.amountOf (points.map oneDecision) line =
      points.countP fun point => (point.line : Int) = line := by
  induction points with
  | nil => rfl
  | cons point rest ih =>
    rw [List.map_cons, Assoc.amountOf_cons, ih, List.countP_cons]
    by_cases here : (point.line : Int) = line <;> simp [oneDecision, here, Nat.add_comm]

theorem sum_oneDecision (points : List Site) :
    ((points.map oneDecision).map (·.2)).sum = points.length := by
  simp [Function.comp_def, oneDecision]

section
variable {methods : List Site} (distinct : (assignedKeys methods).Nodup)
include distinct

theorem complexity_values : (ofMethods methods).complexity.values =
    methods.map Complexity.ofMethod := by
  have keys : (((assignedKeys methods).zip (methods.map Complexity.ofMethod)).map (·.1)).Nodup := by
    rwa [List.map_fst_zip (by simp)]
  rw [complexity_eq, Assoc.values, Assoc.entries_ofList keys, List.map_snd_zip (by simp)]

theorem decisions_eq : (ofMethods methods).complexity.values.flatMap (·.decisions.entries) =
    methods.flatMap fun method => (Assoc.tally (method.decisionPoints.map oneDecision)).entries := by
  rw [complexity_values distinct, List.flatMap_map]
  rfl

/-- The decisions of a line are its decision points in all methods. -/
theorem get?_lineDecisions (line : Int) :
    (ofMethods methods).lineDecisions.get? line =
      (Assoc.tally ((methods.flatMap Site.decisionPoints).map oneDecision)).get? line := by
  rw [lineDecisions, decisions_eq distinct, Assoc.get?_sorted,
    Assoc.get?_tally_tallies, List.map_flatMap]

theorem get?_lineDecisions_eq_some_iff {line : Int} {count : Nat} :
    (ofMethods methods).lineDecisions.get? line = some count ↔ 0 < count ∧
      (methods.flatMap Site.decisionPoints).countP (fun point => (point.line : Int) = line) =
        count := by
  rw [get?_lineDecisions distinct, Assoc.get?_tally_eq_some_iff, amountOf_oneDecision]
  refine and_congr_left fun same => ?_
  rw [← same, List.countP_pos_iff]
  simp [oneDecision]

theorem sum_lineDecisions :
    ((ofMethods methods).lineDecisions.values.sum : Int) =
      ((ofMethods methods).metrics.map (·.cyclomatic - 1)).sum := by
  have total : (ofMethods methods).lineDecisions.values.sum =
      (methods.map fun method => method.decisionPoints.length).sum := by
    rw [lineDecisions, decisions_eq distinct, Assoc.values, Assoc.sorted,
      ((Assoc.sortedEntries_perm _).map _).sum_eq, ← Assoc.values, Assoc.sum_values_tally]
    -- What remains says that tallies keep the sum, method by method.
    clear distinct
    induction methods with
    | nil => rfl
    | cons method rest ih =>
      rw [List.flatMap_cons, List.map_append, List.sum_append, ih, ← Assoc.values,
        Assoc.sum_values_tally, sum_oneDecision, List.map_cons, List.sum_cons]
  have complexity : (ofMethods methods).metrics.map (·.cyclomatic - 1) =
      methods.map fun method => (method.decisionPoints.length : Int) := by
    have own : (fun metrics : MethodMetrics => metrics.cyclomatic - 1) ∘
        (fun entry : String × Site => entry.2.metrics entry.1) =
        (fun method : Site => (method.decisionPoints.length : Int)) ∘ Prod.snd := by
      funext entry
      simp [Site.metrics, Complexity.ofMethod]
    rw [metrics_eq, List.map_map, own, ← List.map_map, List.map_snd_zip (by simp)]
  rw [total, complexity, Nat.cast_list_sum, List.map_map]
  rfl

end

end MethodIndex

namespace Outline

/-- The decisions by line count each decision point of a method once, on its own line. -/
structure CountsDecisions (outline : Outline) (tree : Node) : Prop where
  counted : ∃ points : List Site, points.Nodup ∧ (∀ site, site ∈ points ↔ tree.HasDecision site) ∧
    ∀ line count, outline.index.lineDecisions.get? line = some count ↔ 0 < count ∧
      points.countP (fun point => (point.line : Int) = line) = count
  ascending : outline.index.lineDecisions.keys.Pairwise (· < ·)
  total : (outline.index.lineDecisions.values.sum : Int) =
    (outline.methods.map (·.cyclomatic - 1)).sum

/-- If methods have keys of their own and type bodies separate nested methods, a line has as many
decisions as there are decision points of methods on it, however methods nest and share lines. -/
theorem decisions_counted_once (tree : Node) :
    ∃ outline, ofRoot? (.root tree) = some outline ∧
      ((outline.methods.map (·.key)).Nodup → BodiesSeparated tree →
        outline.CountsDecisions tree) := by
  refine ⟨ofTree tree, ofRoot?_eq tree, ?_⟩
  intro distinct separated
  exact {
    counted := ⟨tree.decisionPoints, Node.decisionPoints_nodup separated,
      fun _ => Node.mem_decisionPoints,
      fun _ _ => MethodIndex.get?_lineDecisions_eq_some_iff distinct⟩
    ascending := MethodIndex.lineDecisions_ascending _
    total := MethodIndex.sum_lineDecisions distinct }

/-- A method whose condition guards an anonymous class with a method and conditions of its own. -/
def nestedConditions : Node :=
  let opening := "\x7b"
  let closing := "\x7d"
  let source := s!"class A {opening} void f() {opening} if (a) new B() {opening} " ++
    s!"void g() {opening} if (b && c) d(); {closing} {closing}; {closing} {closing}"
  let node := Node.ofAscii source
  let token := Node.token source
  let name (start : Nat) (role : Option Role) := node .identifier true role start (start + 1) []
  let arguments (start : Nat) :=
    node .argumentList true (some .arguments) start (start + 2) [token "(" start, token ")" (start + 1)]
  let conditional (start stop : Nat) (condition statement : Node) :=
    node .ifStatement true none start stop [token "if" start, condition, statement]
  let parenthesized (start stop : Nat) (expression : Node) :=
    node .parenthesizedExpression true (some .condition) start stop [
      token "(" start, expression, token ")" (stop - 1)]
  let statement (start stop : Nat) (expression : Node) :=
    node .expressionStatement true (some (.other "consequence")) start stop [
      expression, node .semicolon false none (stop - 1) stop []]
  let conjunction := node .binaryExpression true none 53 59 [
    name 53 (some .left), node (.other "&&") false (some .operator) 55 57 [], name 58 (some .right)]
  let call := node .methodInvocation true none 61 64 [name 61 (some .name), arguments 62]
  let inner := Node.voidMethod source 38 67 [
    conditional 49 65 (parenthesized 52 60 conjunction) (statement 61 65 call)]
  let creation := node .objectCreationExpression true none 28 69 [
    token "new" 28,
    node (.other "type_identifier") true (some .type) 32 33 [],
    arguments 33,
    node .classBody true none 36 69 [token opening 36, inner, token closing 68]]
  .soleClass source [
    .voidMethod source 10 72 [
      conditional 21 70 (parenthesized 24 27 (name 25 none)) (statement 28 70 creation)]]

theorem nested_conditions_counted :
    ∃ outline, ofRoot? (.root nestedConditions) = some outline ∧
      (outline.methods.map (·.key)).Nodup ∧ BodiesSeparated nestedConditions ∧
      outline.CountsDecisions nestedConditions ∧
      outline.index.lineDecisions.entries = [(1, 3)] := by
  -- The three decision points of two methods, one inside the other, count once each on the line
  -- that they share.
  have keys : MethodIndex.assignedKeys nestedConditions.methods = ["f", "g"] := by decide +kernel
  have distinct : (MethodIndex.assignedKeys nestedConditions.methods).Nodup := by
    rw [keys]
    decide
  have separated : BodiesSeparated nestedConditions :=
    BodiesSeparated.iff_walks.mpr (by decide +kernel)
  have decisions :
      (MethodIndex.ofMethods nestedConditions.methods).lineDecisions.entries = [(1, 3)] := by
    decide +kernel
  obtain ⟨outline, found, counts⟩ := decisions_counted_once nestedConditions
  obtain rfl := Option.some.inj ((ofRoot?_eq nestedConditions).symm.trans found)
  exact ⟨_, found, distinct, separated, counts distinct separated, decisions⟩

end Outline

end JavaAudit
