import Mathlib.Data.List.Duplicate
import JavaAudit.Proofs.MethodPasses
import JavaAudit.Proofs.Ownership

/-! How often a rule is evaluated at a node.

The walks over fields and methods share no node, so an analysis evaluates a rule twice at one node
only if it goes through one method twice. That is so if two methods share a key: the method that
the key finds is analysed for both. -/

set_option autoImplicit false

namespace JavaAudit

structure Visit where
  rule : String
  site : Site

namespace Rule

variable {γ α : Type}

/-- The rule that reports every node at which it is evaluated. -/
def recorder (rule : Rule γ α) : Rule Unit Visit :=
  ⟨rule.name, rule.inspects, fun site _ => .findings [⟨rule.name, site⟩]⟩

def visits (rules : List (Rule γ α)) (start : Site) : List Visit :=
  (run (rules.map recorder) start ()).flatMap (·.findings)

theorem visits_eq (rules : List (Rule γ α)) (start : Site) :
    visits rules start = start.scope.flatMap fun site =>
      (rules.filter (·.inspects site.kind)).map fun rule => ⟨rule.name, site⟩ := by
  rw [visits, run, List.flatMap_assoc]
  congr 1
  funext site
  rw [applyAll, List.filter_map, List.map_map, List.flatMap_map]
  exact List.flatMap_pure_eq_map _ _

theorem mem_visits {rules : List (Rule γ α)} {start : Site} {visit : Visit} :
    visit ∈ visits rules start ↔ visit.site ∈ start.scope ∧
      ∃ rule ∈ rules, rule.inspects visit.site.kind = true ∧ rule.name = visit.rule := by
  rw [visits_eq, List.mem_flatMap]
  constructor
  · rintro ⟨site, member, inSite⟩
    obtain ⟨rule, isRule, rfl⟩ := List.mem_map.mp inSite
    obtain ⟨inTable, inspects⟩ := List.mem_filter.mp isRule
    exact ⟨member, rule, inTable, inspects, rfl⟩
  · rintro ⟨member, rule, inTable, inspects, named⟩
    have isRule : rule ∈ rules.filter (·.inspects visit.site.kind) :=
      List.mem_filter.mpr ⟨inTable, inspects⟩
    exact ⟨visit.site, member, List.mem_map.mpr ⟨rule, isRule, by rw [named]⟩⟩

theorem visits_nodup {rules : List (Rule γ α)} (names : (rules.map (·.name)).Nodup)
    (start : Site) : (visits rules start).Nodup := by
  rw [visits_eq, List.nodup_flatMap]
  constructor
  · intro site _
    refine List.pairwise_map.mpr (((List.pairwise_map.mp names).filter _).imp ?_)
    intro left right different same
    exact different (congrArg Visit.rule same)
  · refine (Site.walk_nodup _ start).imp ?_
    intro left right different visit inLeft inRight
    obtain ⟨_, _, rfl⟩ := List.mem_map.mp inLeft
    obtain ⟨_, _, same⟩ := List.mem_map.mp inRight
    exact different (congrArg Visit.site same).symm

theorem visits_disjoint {δ β : Type} {rules : List (Rule γ α)} {others : List (Rule δ β)}
    (names : ∀ rule ∈ rules, ∀ other ∈ others, rule.name ≠ other.name) (start : Site) :
    (visits rules start).Disjoint (visits others start) := by
  intro visit inRules inOthers
  obtain ⟨_, rule, isRule, _, named⟩ := mem_visits.mp inRules
  obtain ⟨_, other, isOther, _, otherNamed⟩ := mem_visits.mp inOthers
  exact names rule isRule other isOther (named.trans otherNamed.symm)

theorem visits_eq_nil_iff {rules : List (Rule γ α)} {start : Site} :
    visits rules start = [] ↔
      ∀ site ∈ start.scope, rules.any (·.inspects site.kind) = false := by
  simp [visits_eq, List.flatMap_eq_nil_iff]

end Rule

def Kind.isInspected (kind : Kind) : Bool :=
  Optimization.nodeRules.any (·.inspects kind) || Security.nodeRules.any (·.inspects kind) ||
    [Security.dereferenceRule].any (·.inspects kind)

namespace Site

def bodyVisits (method : Site) : List Visit :=
  (method.body?.map fun body =>
    Rule.visits Optimization.nodeRules body ++ Rule.visits Security.nodeRules body ++
      Rule.visits [Security.dereferenceRule] body).getD []

/-- Nothing in the body of the method is inspected by a rule. -/
def IsIdle (method : Site) : Prop :=
  ∀ site ∈ method.ownScope, site.kind.isInspected = false

theorem mem_ownScope_of_mem_bodyVisits {method : Site} {visit : Visit}
    (member : visit ∈ method.bodyVisits) : visit.site ∈ method.ownScope := by
  unfold bodyVisits at member
  unfold ownScope
  cases body : method.body? with
  | none => simp [body] at member
  | some body =>
    simp only [body, Option.map_some, Option.getD_some, List.mem_append, Rule.mem_visits] at member
    rcases member with (⟨inside, _⟩ | ⟨inside, _⟩) | ⟨inside, _⟩ <;> exact inside

theorem bodyVisits_nodup (method : Site) : method.bodyVisits.Nodup := by
  unfold bodyVisits
  cases method.body? with
  | none => exact .nil
  | some body =>
    have optimization : (Rule.visits Optimization.nodeRules body).Nodup :=
      Rule.visits_nodup (by decide) body
    have security : (Rule.visits Security.nodeRules body).Nodup :=
      Rule.visits_nodup (by decide) body
    have dereference : (Rule.visits [Security.dereferenceRule] body).Nodup :=
      Rule.visits_nodup (by decide) body
    refine (optimization.append security (Rule.visits_disjoint (by decide) body)).append
      dereference ?_
    rw [List.disjoint_append_left]
    exact ⟨Rule.visits_disjoint (by decide) body, Rule.visits_disjoint (by decide) body⟩

theorem bodyVisits_eq_nil_iff {method : Site} : method.bodyVisits = [] ↔ method.IsIdle := by
  unfold bodyVisits IsIdle ownScope
  cases method.body? with
  | none => simp
  | some body =>
    simp only [Option.map_some, Option.getD_some, List.append_eq_nil_iff, Rule.visits_eq_nil_iff,
      Kind.isInspected, Bool.or_eq_false_iff, forall_and]

end Site

namespace Analysis

variable {tree : Node}

def fieldVisits (tree : Node) : List Visit :=
  tree.fieldDeclarations.flatMap (Rule.visits Security.initializerRules)

def methodVisits (tree : Node) : List Visit :=
  (contexts tree).flatMap (·.method.bodyVisits)

/-- A method that is found by the key of two methods has nothing to inspect. -/
def SharedKeysIdle (tree : Node) : Prop :=
  ∀ key method, (MethodIndex.assignedKeys tree.methods).Duplicate key →
    (MethodIndex.ofMethods tree.methods).sites.get? key = some method → method.IsIdle

theorem contexts_methods (tree : Node) :
    (contexts tree).map (·.method) =
      (MethodIndex.assignedKeys tree.methods).filterMap
        (MethodIndex.ofMethods tree.methods).sites.get? := by
  rw [contexts, List.map_filterMap, MethodIndex.assignedKeys, List.filterMap_map]
  congr 1
  funext metrics
  rw [context?_eq, Option.map_map]
  exact Option.map_id'

theorem method_mem_of_context {context : MethodContext} (member : context ∈ contexts tree) :
    context.method ∈ tree.methods := by
  have found : context.method ∈ (contexts tree).map (·.method) := List.mem_map_of_mem member
  rw [contexts_methods] at found
  obtain ⟨key, _, found⟩ := List.mem_filterMap.mp found
  exact MethodIndex.mem_of_get?_sites found

theorem key_unique {left right : String} {method : Site}
    (leftFound : (MethodIndex.ofMethods tree.methods).sites.get? left = some method)
    (rightFound : (MethodIndex.ofMethods tree.methods).sites.get? right = some method) :
    left = right := by
  have methodsOnce :
      (((MethodIndex.assignedKeys tree.methods).zip tree.methods).map Prod.snd).Nodup := by
    rw [List.map_snd_zip (by simp)]
    exact Site.findBelow_nodup _ _
  have same := List.inj_on_of_nodup_map methodsOnce (MethodIndex.mem_zip_of_get?_sites leftFound)
    (MethodIndex.mem_zip_of_get?_sites rightFound) rfl
  exact congrArg Prod.fst same

def visitsAt (tree : Node) (key : String) : List Visit :=
  ((MethodIndex.ofMethods tree.methods).sites.get? key).toList.flatMap Site.bodyVisits

theorem mem_visitsAt {key : String} {visit : Visit} :
    visit ∈ visitsAt tree key ↔ ∃ method,
      (MethodIndex.ofMethods tree.methods).sites.get? key = some method ∧
        visit ∈ method.bodyVisits := by
  simp [visitsAt]

theorem visitsAt_nodup (tree : Node) (key : String) : (visitsAt tree key).Nodup := by
  unfold visitsAt
  cases (MethodIndex.ofMethods tree.methods).sites.get? key with
  | none => exact .nil
  | some method => simpa using method.bodyVisits_nodup

theorem visitsAt_eq_nil_iff {key : String} :
    visitsAt tree key = [] ↔ ∀ method,
      (MethodIndex.ofMethods tree.methods).sites.get? key = some method → method.IsIdle := by
  simp [visitsAt, Site.bodyVisits_eq_nil_iff]

theorem methodVisits_eq (tree : Node) :
    methodVisits tree = (MethodIndex.assignedKeys tree.methods).flatMap (visitsAt tree) := by
  calc
    methodVisits tree = ((contexts tree).map (·.method)).flatMap Site.bodyVisits := by
      rw [List.flatMap_map]
      rfl
    _ = (MethodIndex.assignedKeys tree.methods).flatMap (visitsAt tree) := by
      rw [contexts_methods, List.filterMap_eq_flatMap_toList, List.flatMap_assoc]
      rfl

/-- Two keys lead to common evaluations only if they are one key, and its method is not idle. -/
theorem visitsAt_disjoint_iff (separated : Separated tree) {left right : String} :
    (visitsAt tree left).Disjoint (visitsAt tree right) ↔
      (left = right → visitsAt tree right = []) := by
  constructor
  · rintro disjoint rfl
    rw [List.eq_nil_iff_forall_not_mem]
    intro visit member
    exact disjoint member member
  · intro idle visit inLeft inRight
    obtain ⟨leftMethod, leftFound, leftVisit⟩ := mem_visitsAt.mp inLeft
    obtain ⟨rightMethod, rightFound, rightVisit⟩ := mem_visitsAt.mp inRight
    -- A method is found by one key only, so different keys lead to disjoint bodies.
    by_cases same : leftMethod = rightMethod
    · subst same
      rw [idle (key_unique leftFound rightFound)] at inRight
      cases inRight
    · exact separated.methods_disjoint (MethodIndex.mem_of_get?_sites leftFound)
        (MethodIndex.mem_of_get?_sites rightFound) same
        (Site.mem_ownScope_of_mem_bodyVisits leftVisit)
        (Site.mem_ownScope_of_mem_bodyVisits rightVisit)

theorem pairwise_eq_iff_duplicate {α : Type} {property : α → Prop} {items : List α} :
    items.Pairwise (fun left right => left = right → property right) ↔
      ∀ item, items.Duplicate item → property item := by
  simp only [List.pairwise_iff_forall_sublist, List.duplicate_iff_sublist]
  constructor
  · intro paired item twice
    exact paired twice rfl
  · rintro repeated left right twice rfl
    exact repeated _ twice

theorem methodVisits_nodup_iff (separated : Separated tree) :
    (methodVisits tree).Nodup ↔ SharedKeysIdle tree := by
  have pairs : (MethodIndex.assignedKeys tree.methods).Pairwise
        (fun left right => (visitsAt tree left).Disjoint (visitsAt tree right)) ↔
      (MethodIndex.assignedKeys tree.methods).Pairwise
        (fun left right => left = right → visitsAt tree right = []) := by
    simp only [visitsAt_disjoint_iff separated]
  -- No single pass repeats an evaluation, so only pairs of keys matter.
  rw [methodVisits_eq, List.nodup_flatMap]
  constructor
  · rintro ⟨_, disjoint⟩ key method twice found
    exact visitsAt_eq_nil_iff.mp (pairwise_eq_iff_duplicate.mp (pairs.mp disjoint) key twice)
      method found
  · intro idle
    refine ⟨fun key _ => visitsAt_nodup tree key, pairs.mpr (pairwise_eq_iff_duplicate.mpr ?_)⟩
    intro key twice
    exact visitsAt_eq_nil_iff.mpr fun method found => idle key method twice found

theorem fieldVisits_nodup (separated : Separated tree) : (fieldVisits tree).Nodup := by
  rw [fieldVisits, List.nodup_flatMap]
  constructor
  · intro field _
    exact Rule.visits_nodup (by decide) field
  · refine (Site.findBelow_nodup _ _).imp_of_mem ?_
    intro left right leftField rightField different visit inLeft inRight
    exact separated.fields_disjoint leftField rightField different (Rule.mem_visits.mp inLeft).1
      (Rule.mem_visits.mp inRight).1

theorem field_site_ne_method_site (separated : Separated tree) {visit other : Visit}
    (ofField : visit ∈ fieldVisits tree) (ofMethod : other ∈ methodVisits tree) :
    visit.site ≠ other.site := by
  obtain ⟨field, isField, inField⟩ := List.mem_flatMap.mp ofField
  obtain ⟨context, isContext, inMethod⟩ := List.mem_flatMap.mp ofMethod
  intro same
  have disjoint := separated.field_disjoint_method isField (method_mem_of_context isContext)
  exact disjoint (Rule.mem_visits.mp inField).1
    (same ▸ Site.mem_ownScope_of_mem_bodyVisits inMethod)

/-- If type bodies separate declarations, the walks over fields and methods share no node, so
nothing is evaluated for a field and for a method. A rule is evaluated at most once at each node
exactly if methods that share a key have nothing to inspect. -/
theorem rules_visit_once_iff (tree : Node) (separated : Separated tree) :
    (tree.fieldDeclarations.map Site.scope ++ tree.methods.map Site.ownScope).flatten.Nodup ∧
      (∀ visit ∈ fieldVisits tree, ∀ other ∈ methodVisits tree, visit.site ≠ other.site) ∧
      ((fieldVisits tree ++ methodVisits tree).Nodup ↔ SharedKeysIdle tree) := by
  have apart : ∀ visit ∈ fieldVisits tree, ∀ other ∈ methodVisits tree, visit.site ≠ other.site :=
    fun _ ofField _ ofMethod => field_site_ne_method_site separated ofField ofMethod
  refine ⟨separated.walks_nodup, apart, ?_⟩
  rw [List.nodup_append, methodVisits_nodup_iff separated]
  constructor
  · rintro ⟨_, idle, _⟩
    exact idle
  · intro idle
    refine ⟨fieldVisits_nodup separated, idle, ?_⟩
    rintro visit ofField _ ofMethod rfl
    exact apart visit ofField visit ofMethod rfl

/-- A method with an anonymous class that declares a field and a method. -/
def anonymousMembers : Node :=
  let opening := "\x7b"
  let closing := "\x7d"
  let source := s!"class A {opening} void f() {opening} new B() {opening} " ++
    s!"String s = \"x\"; void g() {opening} {closing} {closing}; {closing} {closing}"
  let node := Node.ofAscii source
  let token := Node.token source
  let semicolon (start : Nat) := node .semicolon false none start (start + 1) []
  let field := node .fieldDeclaration true none 31 46 [
    node (.other "type_identifier") true (some .type) 31 37 [],
    node .variableDeclarator true (some .declarator) 38 45 [
      node .identifier true (some .name) 38 39 [],
      token "=" 40,
      node .stringLiteral true (some .value) 42 45 [
        token "\"" 42, node (.other "string_fragment") true none 43 44 [], token "\"" 44]],
    semicolon 45]
  let creation := node .objectCreationExpression true none 21 61 [
    token "new" 21,
    node (.other "type_identifier") true (some .type) 25 26 [],
    node .argumentList true (some .arguments) 26 28 [token "(" 26, token ")" 27],
    node .classBody true none 29 61 [
      token opening 29, field, .voidMethod source 47 59 [], token closing 60]]
  .soleClass source [
    .voidMethod source 10 64 [node .expressionStatement true none 21 62 [creation, semicolon 61]]]

theorem anonymous_members_visited_once :
    Separated anonymousMembers ∧
      (fieldVisits anonymousMembers ++ methodVisits anonymousMembers).Nodup ∧
      (fieldVisits anonymousMembers).map (fun visit => (visit.rule, visit.site.text)) =
        [(Security.Category.hardcodedCredentials.name, "\"x\"")] := by
  -- The literal of the anonymous class is evaluated for its field only.
  have separated : Separated anonymousMembers := .of_enclosing (by decide) (by decide)
  have keys : MethodIndex.assignedKeys anonymousMembers.methods = ["f", "g"] := by decide
  have idle : SharedKeysIdle anonymousMembers := by
    intro key method twice
    rw [keys] at twice
    exact absurd (by decide) twice.not_nodup
  obtain ⟨_, _, once⟩ := rules_visit_once_iff anonymousMembers separated
  exact ⟨separated, once.mpr idle, by decide⟩

/-- Of three overloads on one line, the last is analysed twice. -/
theorem overloads_on_one_line_visited_twice :
    Separated overloadsOnOneLine ∧
      ¬(fieldVisits overloadsOnOneLine ++ methodVisits overloadsOnOneLine).Nodup := by
  have separated : Separated overloadsOnOneLine := .of_enclosing (by decide) (by decide)
  have keys : MethodIndex.assignedKeys overloadsOnOneLine.methods = ["f", "f:1", "f:1"] := by
    decide
  have inspected : ∀ method ∈ overloadsOnOneLine.methods,
      method.ownScope.any (·.kind.isInspected) = true := by
    decide
  refine ⟨separated, ?_⟩
  intro once
  have idle := (methodVisits_nodup_iff separated).mp (List.nodup_append.mp once).2.1
  have known : "f:1" ∈ MethodIndex.assignedKeys overloadsOnOneLine.methods := by
    rw [keys]
    simp
  obtain ⟨method, found⟩ := MethodIndex.exists_site known
  have isMethod := MethodIndex.mem_of_get?_sites found
  obtain ⟨site, inside, isInspected⟩ := List.any_eq_true.mp (inspected method isMethod)
  have twice : (MethodIndex.assignedKeys overloadsOnOneLine.methods).Duplicate "f:1" := by
    rw [keys, List.duplicate_iff_two_le_count]
    decide
  rw [idle "f:1" method twice found site inside] at isInspected
  cases isInspected

end Analysis

end JavaAudit
