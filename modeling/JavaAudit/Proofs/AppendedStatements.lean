import JavaAudit.Proofs.CategoryFindings
import JavaAudit.Proofs.CommentedScopes

/-! Statements appended to a method.

What a method declares is gathered before any of its calls is judged, and the last type of a name
counts for all of them. So a statement at the end of a body adds its types to those that the calls
before it see. A query that was reported stays reported, unless the statement declares the receiver
of the call as a prepared statement. -/

set_option autoImplicit false

namespace JavaAudit

namespace Site

structure SameNode (site other : Site) : Prop where
  node : other.node = site.node

/-- The site and the nodes below it, outside the bodies of nested types. -/
def reach (site : Site) : List Site :=
  site :: if site.kind.isTypeBody then [] else site.scope

theorem scope_eq (site : Site) : site.scope = site.children.flatMap reach :=
  walk_eq Kind.isTypeBody site

theorem forall₂_sameNode {sites others : List Site}
    (same : others.map (·.node) = sites.map (·.node)) : List.Forall₂ SameNode sites others := by
  have nodes : List.Forall₂ (fun first second : Node => second = first) (sites.map (·.node))
      (others.map (·.node)) := by
    rw [same]
    exact List.forall₂_same.mpr fun _ _ => rfl
  rw [List.forall₂_map_left_iff, List.forall₂_map_right_iff] at nodes
  exact nodes.imp fun _ _ same => ⟨same⟩

namespace SameNode

variable {site other : Site}

theorem toMatches (same : SameNode site other) : Matches Node.Spares site other := by
  refine ⟨?_⟩
  rw [same.node]
  exact .of_reflexive (fun _ => ⟨fun _ => rfl, fun _ => rfl, rfl⟩) site.node

theorem children (same : SameNode site other) :
    List.Forall₂ SameNode site.children other.children := by
  apply forall₂_sameNode
  rw [map_node_children, map_node_children, same.node]

theorem walk (same : SameNode site other) (stops : Kind → Bool) :
    List.Forall₂ SameNode (site.walk stops) (other.walk stops) := by
  induction site using induction_children generalizing other with
  | step site ih =>
    -- The children stand below other ancestors, but they are the same nodes in the same order.
    have children : List.Forall₂ (fun first second => SameNode first second ∧
        first ∈ site.children) site.children other.children :=
      (Interspersed.of_forall₂ same.children).with_mem.forall₂ fun _ => id
    rw [walk_eq, walk_eq]
    refine List.rel_flatMap children ?_
    rintro first second ⟨same, isChild⟩
    refine .cons same ?_
    rw [same.toMatches.kind_eq]
    split
    · exact .nil
    · exact ih first isChild same

theorem reach (same : SameNode site other) : List.Forall₂ SameNode site.reach other.reach := by
  unfold Site.reach
  rw [same.toMatches.kind_eq]
  refine .cons same ?_
  split
  · exact .nil
  · exact same.walk Kind.isTypeBody

end SameNode

end Site

namespace Node

def isClosingBrace (node : Node) : Bool :=
  node.kind == .other "\x7d" && node.children.isEmpty

/-- The second block is the first with the statement in front of its closing brace. -/
inductive AppendsTo (statement block longer : Node) : Prop where
  | intro (opening : List Node) (closing otherClosing : Node)
      (children : block.children = opening ++ [closing])
      (longerChildren : longer.children = opening ++ [statement, otherClosing])
      (closes : closing.isClosingBrace = true) (otherCloses : otherClosing.isClosingBrace = true)

/-- The second method is the first with the statement at the end of its body. -/
inductive AppendsToBody (statement method longer : Node) : Prop where
  | intro (header trailer : List Node) (body longerBody : Node)
      (children : method.children = header ++ body :: trailer)
      (longerChildren : longer.children = header ++ longerBody :: trailer)
      (bodiless : ∀ part ∈ header, part.role ≠ some .body) (isBody : body.role = some .body)
      (isLongerBody : longerBody.role = some .body) (appends : AppendsTo statement body longerBody)

def declaredTypes (statement : Node) : List TypedName :=
  (Site.root statement).reach.flatMap Site.typedNames

end Node

namespace Site

theorem reach_of_isClosingBrace {site : Site} (closes : site.node.isClosingBrace = true) :
    site.reach = [site] := by
  have leaf : site.node.children = [] := by
    simpa using (Bool.and_eq_true_iff.mp closes).2
  rw [reach, scope_eq, Site.children, leaf]
  simp

/-- The second list comes from the first by the nodes of the statement, which stand in front of the
closing brace. -/
inductive Continues (statement : Node) : List Site → List Site → Prop where
  | intro {opening longerOpening added : List Site} {closing otherClosing : Site}
      (same : List.Forall₂ SameNode opening longerOpening)
      (adds : List.Forall₂ SameNode (root statement).reach added)
      (closes : closing.node.isClosingBrace = true)
      (otherCloses : otherClosing.node.isClosingBrace = true) :
      Continues statement (opening ++ [closing]) (longerOpening ++ (added ++ [otherClosing]))

theorem continues_scope {statement : Node} {body longer : Site}
    (appends : statement.AppendsTo body.node longer.node) :
    Continues statement body.scope longer.scope := by
  obtain ⟨opening, closing, otherClosing, nodes, longerNodes, closes, otherCloses⟩ := appends
  have nodesOf (site : Site) : (opening.mapIdx site.descend).map (·.node) = opening := by
    apply List.ext_getElem?
    intro index
    simp [Function.comp_def]
  -- The statements in front of the closing brace keep their places; only the brace moves.
  have same : List.Forall₂ SameNode (opening.mapIdx body.descend)
      (opening.mapIdx longer.descend) := by
    apply forall₂_sameNode
    rw [nodesOf, nodesOf]
  have closed (index : Nat) : (body.descend index closing).reach = [body.descend index closing] :=
    reach_of_isClosingBrace closes
  have otherClosed (index : Nat) :
      (longer.descend index otherClosing).reach = [longer.descend index otherClosing] :=
    reach_of_isClosingBrace otherCloses
  rw [scope_eq, scope_eq, children_append nodes, children_append longerNodes, List.flatMap_append,
    List.flatMap_append]
  simp only [List.mapIdx_cons, List.mapIdx_nil, List.flatMap_cons, List.flatMap_nil,
    List.append_nil, closed, otherClosed]
  exact .intro (List.rel_flatMap same fun _ _ same => same.reach) (SameNode.reach ⟨rfl⟩) closes
    otherCloses

theorem continues_ownScope {statement : Node} {method longer : Site}
    (appends : statement.AppendsToBody method.node longer.node) :
    Continues statement method.ownScope longer.ownScope := by
  obtain ⟨header, trailer, body, longerBody, nodes, longerNodes, bodiless, isBody, isLongerBody,
    appends⟩ := appends
  have noBody : header.find? (·.role == some .body) = none := by
    simpa using bodiless
  have found : method.node.child? .body = some body := by
    simp [Node.child?, nodes, noBody, isBody]
  have longerFound : longer.node.child? .body = some longerBody := by
    simp [Node.child?, longerNodes, noBody, isLongerBody]
  obtain ⟨site, isSite, rfl⟩ := child?_of_node found
  obtain ⟨longerSite, isLongerSite, rfl⟩ := child?_of_node longerFound
  rw [ownScope, ownScope, body?, body?, isSite, isLongerSite]
  exact continues_scope appends

theorem rel_child? {site other : Site} {role : Role}
    (same : other.node.child? role = site.node.child? role) :
    Option.Rel SameNode (site.child? role) (other.child? role) := by
  rw [← map_node_child?, ← map_node_child?] at same
  cases found : site.child? role with
  | none =>
    rw [found, Option.map_none, Option.map_eq_none_iff] at same
    rw [same]
    exact .none
  | some child =>
    rw [found, Option.map_some] at same
    obtain ⟨otherChild, otherFound, node⟩ := Option.map_eq_some_iff.mp same
    rw [otherFound]
    exact .some ⟨node⟩

theorem parameters_of_appendsToBody {statement : Node} {method longer : Site}
    (appends : statement.AppendsToBody method.node longer.node) :
    longer.parameters = method.parameters := by
  obtain ⟨header, trailer, body, longerBody, nodes, longerNodes, _, isBody, isLongerBody, _⟩ :=
    appends
  have same : longer.node.child? .parameters = method.node.child? .parameters := by
    simp [Node.child?, nodes, longerNodes, isBody, isLongerBody, List.find?_append]
  refine congrArg (Option.getD · []) (map_eq_of_rel (rel_child? same) fun _ _ same => ?_)
  exact same.toMatches.namedChildren.filterMap_eq (fun _ remark => remark.saysNothing.parameter)
    fun _ _ same => same.parameter?_eq

namespace Continues

variable {β : Type} {statement : Node} {before after : List Site}

/-- What the nodes say, wherever they stand, is said by the longer list too, and the statement adds
what it says. -/
theorem flatMap_eq {f : Site → List β} (continues : Continues statement before after)
    (unplaced : ∀ site other, SameNode site other → f other = f site)
    (closing : ∀ site : Site, site.node.isClosingBrace = true → f site = []) :
    after.flatMap f = before.flatMap f ++ (root statement).reach.flatMap f := by
  have congr {sites others : List Site} (same : List.Forall₂ SameNode sites others) :
      others.flatMap f = sites.flatMap f :=
    congrArg List.flatten (map_eq_of_forall₂ same unplaced)
  cases continues with
  | intro same adds closes otherCloses =>
    simp [congr same, congr adds, closing _ closes, closing _ otherCloses]

end Continues

theorem kind_of_isClosingBrace {site : Site} (closes : site.node.isClosingBrace = true) :
    site.kind = .other "\x7d" :=
  beq_iff_eq.mp (Bool.and_eq_true_iff.mp closes).1

theorem typedNames_of_isClosingBrace {site : Site} (closes : site.node.isClosingBrace = true) :
    site.typedNames = [] := by
  simp [typedNames, declaredNames, localDeclarators, resourceName?, loopVariable?,
    kind_of_isClosingBrace closes]

end Site

namespace TypedName

/-- The type that a name is last declared with. -/
def latest? (types : List TypedName) (name : String) : Option String :=
  (types.reverse.find? (·.name == name)).map (·.type)

theorem latest?_append (types more : List TypedName) (name : String) :
    latest? (types ++ more) name = (latest? more name).or (latest? types name) := by
  rw [latest?, List.reverse_append, List.find?_append, Option.map_or]
  rfl

/-- The types of those names that nothing later declares. -/
def unshadowed (types later : List TypedName) : List TypedName :=
  types.filter fun entry => (latest? later entry.name).isNone

theorem latest?_unshadowed (types later : List TypedName) (name : String) :
    latest? (unshadowed types later) name =
      if (latest? later name).isNone then latest? types name else none := by
  have found : (unshadowed types later).reverse.find? (·.name == name) =
      types.reverse.find? fun entry => (latest? later name).isNone && entry.name == name := by
    rw [unshadowed, ← List.filter_reverse, List.find?_filter]
    congr 1
    funext entry
    cases isName : entry.name == name with
    | false => simp
    | true => simp only [beq_iff_eq.mp isName, and_true, Bool.and_true, Bool.decide_eq_true]
  rw [latest?, found]
  cases (latest? later name).isNone with
  | true => rfl
  | false => simp

end TypedName

namespace Scope

open TypedName (latest? latest?_append latest?_unshadowed)

theorem types_of_appendsToBody (fields : List TypedName) {statement : Node}
    {method longer : Site} (appends : statement.AppendsToBody method.node longer.node) :
    (ofMethod fields longer).types = (ofMethod fields method).types ++ statement.declaredTypes := by
  have declared := (Site.continues_ownScope appends).flatMap_eq
    (fun _ _ same => same.toMatches.typedNames_eq) fun _ => Site.typedNames_of_isClosingBrace
  unfold Site.ownScope at declared
  simp only [ofMethod, Site.parameters_of_appendsToBody appends, declared, List.append_assoc]
  rfl

/-- The new types of a name: those of the statement, and those of the new fields if nothing behind
them declares the name. -/
def addedTypes (added last : List TypedName) (method : Site) (statement : Node) :
    List TypedName :=
  TypedName.unshadowed added (ofMethod last method).types ++ statement.declaredTypes

theorem typeOf?_of_appendsToBody (first added last : List TypedName) {statement : Node}
    {method longer : Site} (appends : statement.AppendsToBody method.node longer.node)
    (name : String) :
    (ofMethod (first ++ added ++ last) longer).typeOf? name =
      (latest? (addedTypes added last method statement) name).or
        ((ofMethod (first ++ last) method).typeOf? name) := by
  have before : (ofMethod (first ++ last) method).typeOf? name =
      (latest? (ofMethod last method).types name).or (latest? first name) := by
    rw [← latest?_append, types_ofMethod last, ← List.append_assoc, ← types_ofMethod]
    rfl
  have after : (ofMethod (first ++ added ++ last) longer).typeOf? name =
      (latest? statement.declaredTypes name).or ((latest? (ofMethod last method).types name).or
        ((latest? added name).or (latest? first name))) := by
    rw [← latest?_append, ← latest?_append, ← latest?_append, types_ofMethod last,
      ← List.append_assoc, ← types_ofMethod, ← types_of_appendsToBody _ appends]
    rfl
  rw [after, before, addedTypes, latest?_append, latest?_unshadowed]
  cases latest? statement.declaredTypes name with
  | some type => rfl
  | none => cases latest? (ofMethod last method).types name <;> simp

end Scope

namespace Security

open TypedName (latest?)

def isPreparedBy (types : List TypedName) (call : Site) : Bool :=
  (call.child? .object).any fun receiver => (nonempty? receiver.identifier?).any fun name =>
    (latest? types name).any ["PreparedStatement", "CallableStatement"].contains

def injects (context : MethodContext) (call : Site) : Bool :=
  call.kind == .methodInvocation &&
    (isOpenQuery call context && call.arguments.any concatenatesVariable)

def injectionFinding (call : Site) : Finding Category :=
  finding .sqlInjection "SQL injection vulnerability - string concatenation in query" call
    call.render .critical

theorem sqlInjection_eq (call : Site) (context : MethodContext) :
    sqlInjection call context =
      .findings (if isOpenQuery call context && call.arguments.any concatenatesVariable then
        [injectionFinding call] else []) := by
  unfold sqlInjection
  cases isOpenQuery call context <;> cases call.arguments.any concatenatesVariable <;> rfl

def injectionsOf (context : MethodContext) (flaggedLines : List Int) : List (Finding Category) :=
  (analyzeMethod context flaggedLines).findings.filter (·.category == .sqlInjection)

theorem injectionsOf_eq (context : MethodContext) (flaggedLines : List Int) :
    injectionsOf context flaggedLines =
      (context.method.ownScope.filter (injects context)).map injectionFinding := by
  have isRule : rule .sqlInjection (· == .methodInvocation) sqlInjection ∈ nodeRules := by
    simp [nodeRules]
  rw [injectionsOf, filter_analyzeMethod isRule sqlInjection_about (by decide),
    Rule.flatMap_findings_eq_map fun call _ => sqlInjection_eq call context, List.filter_filter]
  congr 2
  funext call
  rw [injects, Bool.and_comm]

section
variable {condition : Node → Node → Prop} {before after : Site}

theorem concatenatesVariable_eq (matched : before.Matches condition after) :
    concatenatesVariable after = concatenatesVariable before := by
  have operands := matched.plusOperands
  have carries : after.plusOperands.any (carriesValue ·.kind) =
      before.plusOperands.any (carriesValue ·.kind) :=
    any_eq_of_forall₂ operands fun _ _ same => congrArg carriesValue same.kind_eq
  rw [concatenatesVariable, concatenatesVariable, isConcatenation, isConcatenation,
    operands.length_eq, carries]

theorem isPreparedReceiver_eq (matched : before.Matches condition after) (scope : Scope) :
    isPreparedReceiver after scope = isPreparedReceiver before scope := by
  refine any_eq_of_rel (matched.child? .object) fun _ _ same => ?_
  rw [same.identifier?_eq, Site.render_eq, Site.render_eq, same.node.tokens_eq]

/-- Whether a call is reported depends on what the types of the method say about its receiver, not
on where it stands. -/
theorem injects_eq (matched : before.Matches condition after) (context : MethodContext) :
    injects context after = injects context before := by
  have arguments : after.arguments.any concatenatesVariable =
      before.arguments.any concatenatesVariable :=
    any_eq_of_forall₂ matched.arguments fun _ _ same => concatenatesVariable_eq same.toMatches
  rw [injects, injects, isOpenQuery, isOpenQuery, matched.kind_eq, isPreparedReceiver_eq matched,
    arguments]
  by_cases isCall : before.kind = .methodInvocation
  · rw [matched.callName_eq isCall]
  · rw [beq_false_of_ne isCall, Bool.false_and, Bool.false_and]

end

theorem injectionFinding_eq {site other : Site} (same : site.SameNode other) :
    injectionFinding other = injectionFinding site := by
  rw [injectionFinding, injectionFinding, finding, finding, Site.render_eq, Site.render_eq,
    Site.line, Site.line, same.node]

/-- More types make a receiver a prepared statement only by declaring it so. -/
theorem isPreparedReceiver_of_types {scope longer : Scope} {more : List TypedName} {call : Site}
    (typeOf? : ∀ name, longer.typeOf? name = (latest? more name).or (scope.typeOf? name))
    (unprepared : isPreparedReceiver call scope = false) :
    isPreparedReceiver call longer = isPreparedBy more call := by
  unfold isPreparedReceiver at unprepared ⊢
  unfold isPreparedBy
  cases found : call.child? .object with
  | none => rfl
  | some receiver =>
    rw [found, Option.any_some, Bool.or_eq_false_iff] at unprepared
    obtain ⟨untyped, unmentioned⟩ := unprepared
    rw [Option.any_some, Option.any_some, unmentioned, Bool.or_false]
    cases named : nonempty? receiver.identifier? with
    | none => rfl
    | some name =>
      rw [named, Option.any_some] at untyped
      rw [Option.any_some, Option.any_some, typeOf?]
      -- Where the new types know the name they decide, and else the old ones say what they said.
      cases latest? more name with
      | none => exact untyped
      | some type => rfl

theorem injects_iff_of_types {context longer : MethodContext} {more : List TypedName} {call : Site}
    (typeOf? : ∀ name,
      longer.scope.typeOf? name = (latest? more name).or (context.scope.typeOf? name))
    (reported : injects context call = true) :
    injects longer call = true ↔ isPreparedBy more call = false := by
  simp only [injects, isOpenQuery, Bool.and_eq_true, Bool.not_eq_true'] at reported ⊢
  obtain ⟨isCall, ⟨isQuery, unprepared⟩, concatenates⟩ := reported
  rw [isPreparedReceiver_of_types typeOf? unprepared]
  exact ⟨fun holds => holds.2.1.2, fun kept => ⟨isCall, ⟨isQuery, kept⟩, concatenates⟩⟩

theorem map_filter_injects {statement : Node} {before after : List Site}
    (continues : Site.Continues statement before after) (context : MethodContext) :
    (after.filter (injects context)).map injectionFinding =
      (before.filter (injects context)).map injectionFinding ++
        ((Site.root statement).reach.filter (injects context)).map injectionFinding := by
  simp only [← flatMap_ite_singleton]
  refine continues.flatMap_eq (fun _ _ same => ?_) fun closing closes => ?_
  · rw [injects_eq same.toMatches, injectionFinding_eq same]
  · have quiet : injects context closing = false := by
      simp [injects, Site.kind_of_isClosingBrace closes]
    rw [quiet]
    rfl

/-- A longer method judges the calls of the shorter one by the types of both, and adds those of
the statement. A call that was reported stays reported exactly if the statement does not make its
receiver a prepared statement, so a statement that does it to none leaves all findings. A class body
in the statement may give the unit new fields, among those it has: they make the receiver a prepared
statement if no field behind them and nothing in the method declares the name. -/
theorem injections_kept_iff (first added last : List TypedName) {method longer : Site}
    {statement : Node} (appends : statement.AppendsToBody method.node longer.node) (owner : String)
    (complexity longerComplexity : Complexity) (flaggedLines longerFlaggedLines : List Int) :
    let before : MethodContext := ⟨method, owner, .ofMethod (first ++ last) method, complexity⟩
    let after : MethodContext :=
      ⟨longer, owner, .ofMethod (first ++ added ++ last) longer, longerComplexity⟩
    let hides := isPreparedBy (Scope.addedTypes added last method statement)
    injectionsOf before flaggedLines =
        (method.ownScope.filter (injects before)).map injectionFinding ∧
      injectionsOf after longerFlaggedLines =
        (method.ownScope.filter (injects after)).map injectionFinding ++
          ((Site.root statement).reach.filter (injects after)).map injectionFinding ∧
      (∀ call : Site, injects before call = true →
        (injects after call = true ↔ hides call = false)) ∧
      ((∀ call ∈ method.ownScope, injects before call = true → hides call = false) →
        (injectionsOf before flaggedLines).Sublist (injectionsOf after longerFlaggedLines)) := by
  intro before after hides
  have reported := injectionsOf_eq before flaggedLines
  have longerReported := (injectionsOf_eq after longerFlaggedLines).trans
    (map_filter_injects (Site.continues_ownScope appends) after)
  have kept (call : Site) (injected : injects before call = true) :
      injects after call = true ↔ hides call = false :=
    injects_iff_of_types (Scope.typeOf?_of_appendsToBody first added last appends) injected
  refine ⟨reported, longerReported, kept, fun shown => ?_⟩
  -- The statement may bring further calls of the method to light, so the findings only remain.
  have remain : method.ownScope.filter (injects before) =
      (method.ownScope.filter (injects after)).filter (injects before) := by
    rw [List.filter_filter]
    refine List.filter_congr fun call inScope => ?_
    cases injected : injects before call with
    | false => rfl
    | true => rw [(kept call injected).mpr (shown call inScope injected), Bool.true_and]
  rw [reported, longerReported]
  refine .trans (.map _ ?_) (List.sublist_append_left ..)
  rw [remain]
  exact List.filter_sublist

def querySource : String :=
  "void f() \x7b s.execute(\"a\" + q);"

def queryHeader : List Node :=
  let node := Node.ofAscii querySource
  let token := Node.token querySource
  [node (.other "void_type") true (some .type) 0 4 [],
    node .identifier true (some .name) 5 6 [],
    node (.other "formal_parameters") true (some .parameters) 6 8 [token "(" 6, token ")" 7]]

def queryOpening : List Node :=
  let node := Node.ofAscii querySource
  let token := Node.token querySource
  [token "\x7b" 9,
    node .expressionStatement true none 11 30 [
      node .methodInvocation true none 11 29 [
        node .identifier true (some .object) 11 12 [], token "." 12,
        node .identifier true (some .name) 13 20 [],
        node .argumentList true (some .arguments) 20 29 [
          token "(" 20,
          node .binaryExpression true none 21 28 [
            node .stringLiteral true (some .left) 21 24 [],
            node (.other "+") false (some .operator) 25 26 [],
            node .identifier true (some .right) 27 28 []],
          token ")" 28]],
      node .semicolon false none 29 30 []]]

def queryMethod (rest : String) (tail : List Node) : Node :=
  let source := querySource ++ rest
  .ofAscii source .methodDeclaration true none 0 source.length
    (queryHeader ++ [
      .ofAscii source .block true (some .body) 9 source.length (queryOpening ++ tail)])

def plainQuery : Node :=
  queryMethod " \x7d" [.token (querySource ++ " \x7d") "\x7d" 31]

def preparingBlock (source : String) : Node :=
  let node := Node.ofAscii source
  node .block true none 31 55 [
    .token source "\x7b" 31,
    node .localVariableDeclaration true none 33 53 [
      node (.other "type_identifier") true (some .type) 33 50 [],
      node .variableDeclarator true (some .declarator) 51 52 [
        node .identifier true (some .name) 51 52 []],
      node .semicolon false none 52 53 []],
    .token source "\x7d" 54]

def preparingRest (name : String) : String :=
  " \x7b PreparedStatement " ++ name ++ "; \x7d \x7d"

def preparingQuery (name : String) : Node :=
  let source := querySource ++ preparingRest name
  queryMethod (preparingRest name) [preparingBlock source, .token source "\x7d" 56]

theorem appendsToBody_preparingQuery (name : String) :
    (preparingBlock (querySource ++ preparingRest name)).AppendsToBody plainQuery
      (preparingQuery name) := by
  have bodiless : ∀ part ∈ queryHeader, part.role ≠ some .body := by decide
  exact .intro queryHeader [] _ _ rfl rfl bodiless rfl rfl
    (.intro queryOpening _ _ rfl rfl rfl rfl)

/-- A prepared statement of another name changes nothing. -/
theorem injection_kept :
    let fields := [⟨"s", "Statement"⟩]
    let before := MethodContext.alone fields plainQuery
    let after := MethodContext.alone fields (preparingQuery "p")
    (preparingBlock (querySource ++ preparingRest "p")).AppendsToBody plainQuery
        (preparingQuery "p") ∧
      (injectionsOf before []).length = 1 ∧
      (injectionsOf before []).Sublist (injectionsOf after []) := by
  intro fields before after
  have appends : (preparingBlock (querySource ++ preparingRest "p")).AppendsToBody
      (Site.root plainQuery).node (Site.root (preparingQuery "p")).node :=
    appendsToBody_preparingQuery "p"
  obtain ⟨_, _, _, keeps⟩ :=
    injections_kept_iff fields [] [] appends "A" before.complexity after.complexity [] []
  refine ⟨appends, by decide +kernel, keeps ?_⟩
  decide +kernel

/-- A query is no longer reported once a later block declares a prepared statement of the same
name, although the block cannot be in scope at the call. -/
theorem injection_hidden_by_later_block :
    let fields := [⟨"s", "Statement"⟩]
    (preparingBlock (querySource ++ preparingRest "s")).AppendsToBody plainQuery
        (preparingQuery "s") ∧
      (injectionsOf (.alone fields plainQuery) []).length = 1 ∧
      injectionsOf (.alone fields (preparingQuery "s")) [] = [] :=
  ⟨appendsToBody_preparingQuery "s", by decide +kernel, by decide +kernel⟩

end Security

end JavaAudit
