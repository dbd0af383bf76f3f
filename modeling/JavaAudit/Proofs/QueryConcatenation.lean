import JavaAudit.Proofs.AppendedStatements
import JavaAudit.Proofs.MethodBodies
import JavaAudit.Proofs.ReceiverUses

/-! Queries that are built by concatenation.

A query may be joined in the call that runs it, or in a variable before the call. The search for the
second ends at the first node that starts at the call or later. Where the children of a node lie
inside it, one behind the other, a walk never goes back in the text, so the search misses nothing.
Main statement: of the two rules exactly one reports a call that runs a joined query, and none any
other call. -/

set_option autoImplicit false

namespace JavaAudit

theorem takeWhile_eq_filter {α : Type} {wanted : α → Bool} {items : List α}
    (leading : items.Pairwise fun first second => wanted second = true → wanted first = true) :
    items.takeWhile wanted = items.filter wanted := by
  induction items with
  | nil => rfl
  | cons item items ih =>
    -- Behind an item that is not wanted there is no other that is.
    obtain ⟨before, rest⟩ := List.pairwise_cons.mp leading
    rw [List.takeWhile_cons, List.filter_cons, ih rest]
    split
    · rfl
    next unwanted =>
      refine (List.filter_eq_nil_iff.mpr fun later member isWanted => ?_).symm
      exact unwanted (before later member isWanted)

namespace Node

theorem Everywhere.imp {property weaker : Node → Prop} (implies : ∀ node, property node → weaker node)
    {node : Node} (everywhere : Everywhere property node) : Everywhere weaker node := by
  induction everywhere with
  | intro here _ ih => exact .intro (implies _ here) ih

/-- The children of every node lie inside it, one behind the other. -/
def InOrder : Node → Prop :=
  Everywhere fun node => node.Encloses ∧ node.InSequence

instance : DecidablePred InOrder :=
  inferInstanceAs (DecidablePred (Everywhere _))

theorem InOrder.nested {node : Node} (inOrder : node.InOrder) : node.Nested :=
  inOrder.imp fun _ ordered => ordered.1

end Node

namespace Site

theorem children_inSequence {site : Site} (inSequence : site.node.InSequence) :
    site.children.Pairwise fun left right => left.node.stop ≤ right.node.start := by
  rwa [Node.InSequence, ← map_node_children, List.pairwise_map] at inSequence

theorem start_of_mem_block {stops : Kind → Bool} {child site : Site} (nested : child.node.Nested)
    (member : site ∈ child :: if stops child.kind then [] else child.walk stops) :
    child.node.start ≤ site.node.start ∧ site.node.start ≤ child.node.stop := by
  rcases List.mem_cons.mp member with rfl | below
  · exact ⟨Nat.le_refl _, nested.here.1⟩
  · split at below
    · cases below
    · have inside := within_of_mem_walk nested below
      have forward := (nested.of_mem_walk below).here.1
      omega

/-- A walk lists its nodes by the offsets at which they start. -/
theorem walk_starts_ascend (stops : Kind → Bool) {start : Site} (inOrder : start.node.InOrder) :
    (start.walk stops).Pairwise fun left right => left.node.start ≤ right.node.start := by
  induction start using induction_children with
  | step start ih =>
    have childOrder (child : Site) (isChild : child ∈ start.children) : child.node.InOrder :=
      Node.Everywhere.of_mem_children inOrder isChild
    rw [walk_eq, List.pairwise_flatMap]
    constructor
    · intro child isChild
      have ordered := childOrder child isChild
      rw [List.pairwise_cons]
      constructor
      · intro site below
        exact (start_of_mem_block ordered.nested (List.mem_cons_of_mem _ below)).1
      · split
        · exact .nil
        · exact ih child isChild ordered
    · -- What a child holds ends before the next child starts.
      refine (children_inSequence inOrder.here.2).imp_of_mem ?_
      intro left right leftChild rightChild before site ofLeft other ofRight
      have leftStart := (start_of_mem_block (childOrder left leftChild).nested ofLeft).2
      have rightStart := (start_of_mem_block (childOrder right rightChild).nested ofRight).1
      omega

theorem inOrder_of_body?_eq_some {tree : Node} (inOrder : tree.InOrder) {method body : Site}
    (isMethod : method ∈ tree.methods) (hasBody : method.body? = some body) :
    body.node.InOrder := by
  have ofRoot : (root tree).node.InOrder := inOrder
  have ofMethod := Node.Everywhere.of_mem_walk ofRoot (mem_findBelow.mp isMethod).1
  exact ofMethod.of_mem_children (body_mem_children hasBody)

end Site

namespace Security

def IsChain (expression : Site) : Prop :=
  1 < expression.plusOperands.length

/-- The node gives the name a value that is joined from parts. -/
inductive JoinsInto (name : String) (site : Site) : Prop where
  | declares {value : Site} (declarator : site.kind = .variableDeclarator)
      (named : site.declaredName = name) (given : site.child? .value = some value)
      (joined : IsChain value)
  | assigns {target value : Site} (assignment : site.kind = .assignmentExpression)
      (assigned : site.child? .left = some target) (named : target.identifier? = some name)
      (given : site.child? .right = some value) (joined : IsChain value)
  | extends {target : Site} (assignment : site.kind = .assignmentExpression)
      (assigned : site.child? .left = some target) (named : target.identifier? = some name)
      (adds : site.childText .operator = "+=")

theorem isConcatenation_iff {expression : Site} :
    isConcatenation expression = true ↔ IsChain expression :=
  decide_eq_true_iff

theorem concatenatesInto_iff {name : String} {site : Site} :
    concatenatesInto name site = true ↔ JoinsInto name site := by
  unfold concatenatesInto
  constructor
  · intro joins
    split at joins
    next declarator =>
      rw [Bool.and_eq_true, beq_iff_eq, Option.any_eq_true] at joins
      obtain ⟨named, value, given, joined⟩ := joins
      exact .declares declarator named given (isConcatenation_iff.mp joined)
    next assignment =>
      rw [Bool.and_eq_true, Bool.or_eq_true, beq_iff_eq, beq_iff_eq, Option.any_eq_true] at joins
      obtain ⟨isTarget, how⟩ := joins
      obtain ⟨target, assigned, named⟩ := Option.bind_eq_some_iff.mp isTarget
      -- `+=` appends whatever its value is; `=` has to be given a joined value.
      rcases how with adds | ⟨value, given, joined⟩
      · exact .extends assignment assigned named adds
      · exact .assigns assignment assigned named given (isConcatenation_iff.mp joined)
    next => cases joins
  · rintro (⟨declarator, named, given, joined⟩ | ⟨assignment, assigned, named, given, joined⟩ |
      ⟨assignment, assigned, named, adds⟩)
    · simp [declarator, named, given, isConcatenation_iff.mpr joined]
    · simp [assignment, assigned, named, given, isConcatenation_iff.mpr joined]
    · simp [assignment, assigned, named, adds]

instance (name : String) (site : Site) : Decidable (JoinsInto name site) :=
  decidable_of_iff _ concatenatesInto_iff

/-- The search that ends at the offset finds what a search of the whole body finds before it. -/
theorem isBuiltByConcatenation_eq_any {body : Site} (inOrder : body.node.InOrder) (name : String)
    (before : Nat) :
    isBuiltByConcatenation name body before =
      body.scope.any fun site => decide (site.node.start < before) && concatenatesInto name site := by
  have leading : body.scope.Pairwise fun first second =>
      decide (second.node.start < before) = true → decide (first.node.start < before) = true := by
    refine (Site.walk_starts_ascend _ inOrder).imp fun {first second} ascend early => ?_
    rw [decide_eq_true_iff] at early ⊢
    omega
  rw [isBuiltByConcatenation, takeWhile_eq_filter leading, List.any_filter]

theorem isBuiltByConcatenation_iff {body : Site} (inOrder : body.node.InOrder) (name : String)
    (before : Nat) :
    isBuiltByConcatenation name body before = true ↔
      ∃ site ∈ body.scope, site.node.start < before ∧ JoinsInto name site := by
  simp only [isBuiltByConcatenation_eq_any inOrder, List.any_eq_true, Bool.and_eq_true,
    decide_eq_true_iff, concatenatesInto_iff]

/-- The search for a concatenation before an offset may end at the first node that starts there or
later: it answers as a search of all nodes of the body does, since these are listed by where they
start. -/
theorem concatenation_search_exact {body : Site} (inOrder : body.node.InOrder) (name : String)
    (before : Nat) :
    (body.scope.Pairwise fun left right => left.node.start ≤ right.node.start) ∧
      isBuiltByConcatenation name body before =
        body.scope.any (fun site =>
          decide (site.node.start < before) && concatenatesInto name site) ∧
      (isBuiltByConcatenation name body before = true ↔
        ∃ site ∈ body.scope, site.node.start < before ∧ JoinsInto name site) :=
  ⟨Site.walk_starts_ascend _ inOrder, isBuiltByConcatenation_eq_any inOrder name before,
    isBuiltByConcatenation_iff inOrder name before⟩

/-- A method that joins a query in a variable and then runs it, runs a query that is joined in the
call, and runs a query that is not joined. -/
def mixedQueries : Node :=
  let source := "class A \x7b void f() \x7b sql = a + b; s.execute(sql); s.execute(a + b); " ++
    "s.execute(a); \x7d \x7d"
  let node := Node.ofAscii source
  let token := Node.token source
  let sum (role : Option Role) (start : Nat) := node .binaryExpression true role start (start + 5) [
    node .identifier true (some .left) start (start + 1) [],
    node (.other "+") false (some .operator) (start + 2) (start + 3) [],
    node .identifier true (some .right) (start + 4) (start + 5) []]
  let statement (start stop : Nat) (expression : Node) :=
    node .expressionStatement true none start stop [
      expression, node .semicolon false none (stop - 1) stop []]
  let call (start stop : Nat) (argument : Node) :=
    statement start stop (node .methodInvocation true none start (stop - 1) [
      node .identifier true (some .object) start (start + 1) [], token "." (start + 1),
      node .identifier true (some .name) (start + 2) (start + 9) [],
      node .argumentList true (some .arguments) (start + 9) (stop - 1) [
        token "(" (start + 9), argument, token ")" (stop - 2)]])
  .soleClass source [.voidMethod source 10 83 [
    statement 21 33 (node .assignmentExpression true none 21 32 [
      node .identifier true (some .left) 21 24 [],
      node (.other "=") false (some .operator) 25 26 [], sum (some .right) 27]),
    call 34 49 (node .identifier true none 44 47 []),
    call 50 67 (sum none 60),
    call 68 81 (node .identifier true none 78 79 [])]]

theorem assignment_found_from_next_offset :
    ∃ method ∈ mixedQueries.methods, ∃ body, method.body? = some body ∧ body.node.InOrder ∧
      isBuiltByConcatenation "sql" body 21 = false ∧ isBuiltByConcatenation "sql" body 22 = true := by
  -- The search finds the assignment of `sql`, which starts at offset 21, from the next offset
  -- on.
  let method := mixedQueries.methods.get ⟨0, by decide +kernel⟩
  let body := method.body?.get (by decide +kernel)
  have inOrder : body.node.InOrder := by decide +kernel
  refine ⟨method, List.get_mem .., body, (Option.some_get _).symm, inOrder, ?_, ?_⟩
  · rw [(concatenation_search_exact inOrder "sql" 21).2.1]
    decide +kernel
  · rw [(concatenation_search_exact inOrder "sql" 22).2.2]
    decide +kernel

/-- The argument joins parts, of which one has a value that is known only at run time. -/
def JoinsValue (argument : Site) : Prop :=
  IsChain argument ∧ ∃ operand ∈ argument.plusOperands,
    operand.kind ∈ [.identifier, .fieldAccess, .arrayAccess, .methodInvocation]

/-- The argument is a variable with the name of a query, to which a node of the method that starts
before the call gives a joined value. -/
def HoldsQuery (method call argument : Site) : Prop :=
  ∃ name ∈ argument.identifier?, Vocabulary.isSqlVariableName name = true ∧
    ∃ site ∈ method.ownScope, site.node.start < call.node.start ∧ JoinsInto name site

/-- The receiver of the call is a name whose last type is that of a prepared statement, or its text
speaks of one in any letter case. -/
inductive IsPrepared (scope : Scope) (call : Site) : Prop where
  | declared {receiver : Site} {name type : String}
      (isReceiver : call.child? .object = some receiver) (named : receiver.identifier? = some name)
      (filled : name ≠ "") (typed : TypedName.latest? scope.types name = some type)
      (prepared : type = "PreparedStatement" ∨ type = "CallableStatement")
  | mentioned {receiver : Site} {word : String} (isReceiver : call.child? .object = some receiver)
      (isWord : word = "prepare" ∨ word = "callable")
      (occurs : word.toList <:+: Text.lower receiver.render.toList)

theorem isPreparedReceiver_iff {call : Site} {scope : Scope} :
    isPreparedReceiver call scope = true ↔ IsPrepared scope call := by
  have mentions (text : String) : Vocabulary.mentions ["prepare", "callable"] text = true ↔
      ∃ word : String, (word = "prepare" ∨ word = "callable") ∧
        word.toList <:+: Text.lower text.toList := by
    simp only [Vocabulary.mentions, Text.containsAny, List.any_eq_true, Text.occursIn_iff_isInfix,
      List.mem_cons, List.not_mem_nil, or_false]
  simp only [isPreparedReceiver, Option.any_eq_true, Bool.or_eq_true, mentions, nonempty?,
    Option.filter_eq_some_iff, Bool.not_eq_true', List.contains_iff_mem, List.mem_cons,
    List.not_mem_nil, or_false]
  -- What is left are the same two reasons, in different packing.
  constructor
  · rintro ⟨receiver, isReceiver, ⟨name, ⟨named, filled⟩, type, typed, prepared⟩ | spoken⟩
    · exact .declared isReceiver named (by simpa using filled) typed prepared
    · obtain ⟨word, isWord, occurs⟩ := spoken
      exact .mentioned isReceiver isWord occurs
  · rintro (⟨isReceiver, named, filled, typed, prepared⟩ | ⟨isReceiver, isWord, occurs⟩)
    · exact ⟨_, isReceiver, .inl ⟨_, ⟨named, by simpa using filled⟩, _, typed, prepared⟩⟩
    · exact ⟨_, isReceiver, .inr ⟨_, isWord, occurs⟩⟩

/-- The call runs a joined query, and not by a prepared statement. -/
structure RunsJoined (context : MethodContext) (call : Site) : Prop where
  unprepared : ¬IsPrepared context.scope call
  joined : (∃ argument ∈ call.arguments, JoinsValue argument) ∨
    ∃ argument ∈ call.arguments, HoldsQuery context.method call argument

theorem concatenatesVariable_iff {argument : Site} :
    concatenatesVariable argument = true ↔ JoinsValue argument := by
  have carries (kind : Kind) : carriesValue kind = true ↔
      kind ∈ [.identifier, .fieldAccess, .arrayAccess, .methodInvocation] := by
    cases kind <;> simp [carriesValue]
  simp only [concatenatesVariable, Bool.and_eq_true, isConcatenation_iff, List.any_eq_true, carries]
  rfl

theorem any_nonempty?_isSqlVariableName (name : Option String) (rest : String → Bool) :
    (nonempty? name).any (fun name => Vocabulary.isSqlVariableName name && rest name) =
      name.any fun name => Vocabulary.isSqlVariableName name && rest name := by
  -- The name of a query is not empty, so the test for an empty name passes over nothing.
  cases name with
  | none => rfl
  | some name =>
    cases isEmpty : name.isEmpty with
    | false => simp [nonempty?, isEmpty]
    | true =>
      have unnamed : Vocabulary.isSqlVariableName "" = false := by decide
      rw [String.isEmpty_iff] at isEmpty
      simp [nonempty?, isEmpty, unnamed]

theorem isConcatenatedQuery_iff {context : MethodContext} {body : Site}
    (hasBody : context.method.body? = some body) (inOrder : body.node.InOrder)
    {call argument : Site} :
    isConcatenatedQuery context call argument = true ↔
      HoldsQuery context.method call argument := by
  have ownScope : context.method.ownScope = body.scope := by simp [Site.ownScope, hasBody]
  rw [isConcatenatedQuery, any_nonempty?_isSqlVariableName, HoldsQuery, ownScope]
  simp only [hasBody, Option.any_some, Option.any_eq_true, Bool.and_eq_true,
    isBuiltByConcatenation_iff inOrder, Option.mem_def]

instance (argument : Site) : Decidable (JoinsValue argument) :=
  decidable_of_iff _ concatenatesVariable_iff

instance (method call argument : Site) : Decidable (HoldsQuery method call argument) :=
  inferInstanceAs (Decidable (∃ name ∈ argument.identifier?, _))

instance (scope : Scope) (call : Site) : Decidable (IsPrepared scope call) :=
  decidable_of_iff _ isPreparedReceiver_iff

instance (context : MethodContext) (call : Site) : Decidable (RunsJoined context call) :=
  decidable_of_iff (_ ∧ _) ⟨fun both => ⟨both.1, both.2⟩, fun runs => ⟨runs.1, runs.2⟩⟩

def constructionFinding (call : Site) : Finding Category :=
  finding .dynamicSqlConstruction "Dynamic SQL query construction detected" call call.render
    .critical

theorem dynamicSqlConstruction_eq (call : Site) (context : MethodContext) :
    dynamicSqlConstruction call context =
      .findings (if isOpenQuery call context && !call.arguments.any concatenatesVariable &&
          call.arguments.any (isConcatenatedQuery context call) then
        [constructionFinding call] else []) := by
  unfold dynamicSqlConstruction
  cases isOpenQuery call context <;> cases call.arguments.any concatenatesVariable <;>
    cases call.arguments.any (isConcatenatedQuery context call) <;> rfl

def Category.isJoinedQuery : Category → Bool
  | .sqlInjection | .dynamicSqlConstruction => true
  | _ => false

def joinedQueryFinding (call : Site) : Finding Category :=
  if call.arguments.any concatenatesVariable then injectionFinding call
  else constructionFinding call

theorem Category.isJoinedQuery_eq (category : Category) :
    category.isJoinedQuery =
      (category == .sqlInjection || category == .dynamicSqlConstruction) := by
  cases category <;> rfl

theorem filter_isJoinedQuery_of_no_injection {findings : List (Finding Category)}
    (none : findings.filter (·.category == .sqlInjection) = []) :
    findings.filter (·.category.isJoinedQuery) =
      findings.filter (·.category == .dynamicSqlConstruction) := by
  refine List.filter_congr fun finding member => ?_
  have other := List.filter_eq_nil_iff.mp none finding member
  rw [Category.isJoinedQuery_eq, Bool.eq_false_iff.mpr other, Bool.false_or]

theorem filter_isJoinedQuery_of_no_construction {findings : List (Finding Category)}
    (none : findings.filter (·.category == .dynamicSqlConstruction) = []) :
    findings.filter (·.category.isJoinedQuery) =
      findings.filter (·.category == .sqlInjection) := by
  refine List.filter_congr fun finding member => ?_
  have other := List.filter_eq_nil_iff.mp none finding member
  rw [Category.isJoinedQuery_eq, Bool.eq_false_iff.mpr other, Bool.or_false]

def constructs (context : MethodContext) (call : Site) : Bool :=
  call.kind == .methodInvocation &&
    (isOpenQuery call context && !call.arguments.any concatenatesVariable &&
      call.arguments.any (isConcatenatedQuery context call))

section
variable {context : MethodContext} {category : Category} {check : Site → MethodContext → Report}
  {call : Site} {reported : Bool} {found : Finding Category}

theorem filter_applyAll_nodeRules
    (isRule : rule category (· == .methodInvocation) check ∈ nodeRules)
    (about : ∀ site context, IsAbout category site (check site context))
    (verdict : check call context = .findings (if reported then [found] else [])) :
    ((Rule.applyAll nodeRules context call).flatMap (·.findings)).filter
        (·.category == category) =
      if call.kind == .methodInvocation && reported then [found] else [] := by
  have serves : (rule category (· == .methodInvocation) check).Serves Category.name category :=
    Reports.serves ⟨rfl, about⟩
  have serve : ∀ rule ∈ nodeRules, ∃ category, rule.Serves Category.name category :=
    fun rule inTable => (nodeRules_direct rule inTable).imp fun _ direct => direct.1.serves
  have findings : ((rule category (· == .methodInvocation) check).apply call context).findings =
      if reported then [found] else [] := by
    simp [Application.findings, Rule.apply, rule, verdict]
  rw [Rule.filter_applyAll isRule (by decide) serve serves, findings]
  by_cases isCall : call.kind = .methodInvocation <;> simp [rule, isCall]

end

theorem filter_applyAll_sqlInjection (context : MethodContext) (call : Site) :
    ((Rule.applyAll nodeRules context call).flatMap (·.findings)).filter
        (·.category == .sqlInjection) =
      if injects context call then [injectionFinding call] else [] :=
  filter_applyAll_nodeRules (by simp [nodeRules]) sqlInjection_about (sqlInjection_eq call context)

theorem filter_applyAll_dynamicSqlConstruction (context : MethodContext) (call : Site) :
    ((Rule.applyAll nodeRules context call).flatMap (·.findings)).filter
        (·.category == .dynamicSqlConstruction) =
      if constructs context call then [constructionFinding call] else [] :=
  filter_applyAll_nodeRules (by simp [nodeRules]) dynamicSqlConstruction_about
    (dynamicSqlConstruction_eq call context)

theorem runsJoined_iff {context : MethodContext} {body : Site}
    (hasBody : context.method.body? = some body) (inOrder : body.node.InOrder) {call : Site} :
    RunsJoined context call ↔
      (!isPreparedReceiver call context.scope && (call.arguments.any concatenatesVariable ||
        call.arguments.any (isConcatenatedQuery context call))) = true := by
  simp only [Bool.and_eq_true, Bool.not_eq_true', ← Bool.not_eq_true, isPreparedReceiver_iff,
    Bool.or_eq_true, List.any_eq_true, concatenatesVariable_iff,
    isConcatenatedQuery_iff hasBody inOrder]
  exact ⟨fun runs => ⟨runs.unprepared, runs.joined⟩, fun both => ⟨both.1, both.2⟩⟩

/-- At every node at most one of the two rules has a finding: at a query call that runs a joined
query. -/
theorem filter_applyAll_isJoinedQuery {context : MethodContext} {body : Site}
    (hasBody : context.method.body? = some body) (inOrder : body.node.InOrder) (call : Site) :
    ((Rule.applyAll nodeRules context call).flatMap (·.findings)).filter
        (·.category.isJoinedQuery) =
      if call.kind = .methodInvocation ∧ isQueryCall call.callName = true ∧
          RunsJoined context call then [joinedQueryFinding call] else [] := by
  have injections := filter_applyAll_sqlInjection context call
  have constructions := filter_applyAll_dynamicSqlConstruction context call
  simp only [runsJoined_iff hasBody inOrder, joinedQueryFinding]
  -- An argument that is joined in the call itself decides which of the rules is silent.
  cases direct : call.arguments.any concatenatesVariable with
  | true =>
    rw [constructs, direct, Bool.not_true, Bool.and_false, Bool.false_and, Bool.and_false,
      if_neg Bool.false_ne_true] at constructions
    rw [filter_isJoinedQuery_of_no_construction constructions, injections]
    simp [injects, isOpenQuery, direct]
  | false =>
    rw [injects, direct, Bool.and_false, Bool.and_false, if_neg Bool.false_ne_true] at injections
    rw [filter_isJoinedQuery_of_no_injection injections, constructions]
    simp [constructs, isOpenQuery, direct, and_assoc]

theorem filter_analyzeMethod_isJoinedQuery {context : MethodContext} {body : Site}
    (hasBody : context.method.body? = some body) (inOrder : body.node.InOrder)
    (flaggedLines : List Int) :
    (analyzeMethod context flaggedLines).findings.filter (·.category.isJoinedQuery) =
      (body.scope.filter fun call =>
        call.kind = .methodInvocation ∧ isQueryCall call.callName = true ∧
          RunsJoined context call).map joinedQueryFinding := by
  have deferred :
      (dereferences context body flaggedLines).filter (·.category.isJoinedQuery) = [] := by
    refine List.filter_eq_nil_iff.mpr fun finding member => ?_
    rw [(of_mem_dereferences member).1]
    decide
  rw [analyzeMethod, hasBody]
  dsimp only
  rw [analyzeBody_findings, List.filter_append, deferred, List.append_nil, directFindings, Rule.run,
    List.flatMap_assoc, List.filter_flatMap]
  simp only [filter_applyAll_isJoinedQuery hasBody inOrder]
  rw [← flatMap_ite_singleton]
  simp only [decide_eq_true_iff]

/-- Exactly one of the two rules reports a query call that runs a joined query, and neither of them
any other call. So what a method has of both is one finding for each such call, in document order. -/
theorem joined_queries_reported_once {tree : Node} (inOrder : tree.InOrder)
    (context : MethodContext) (isMethod : context.method ∈ tree.methods)
    (flaggedLines : List Int) :
    (analyzeMethod context flaggedLines).findings.filter (·.category.isJoinedQuery) =
        (context.method.ownScope.filter fun call =>
          call.kind = .methodInvocation ∧ isQueryCall call.callName = true ∧
            RunsJoined context call).map joinedQueryFinding ∧
      ∀ call ∈ context.method.ownScope, call.kind = .methodInvocation →
        isQueryCall call.callName = true →
          (((Rule.applyAll nodeRules context call).flatMap (·.findings)).filter
            (·.category.isJoinedQuery)).length = if RunsJoined context call then 1 else 0 := by
  rw [Site.ownScope]
  cases hasBody : context.method.body? with
  | none =>
    rw [analyzeMethod, hasBody]
    simp
  | some body =>
    have bodyOrder := Site.inOrder_of_body?_eq_some inOrder isMethod hasBody
    refine ⟨filter_analyzeMethod_isJoinedQuery hasBody bodyOrder flaggedLines, ?_⟩
    intro call _ isCall isQuery
    rw [filter_applyAll_isJoinedQuery hasBody bodyOrder]
    simp only [isCall, isQuery, true_and]
    split <;> rfl

theorem joined_query_calls_reported :
    mixedQueries.InOrder ∧ ∀ method ∈ mixedQueries.methods,
      let context : MethodContext := ⟨method, "A", .ofMethod [] method, .ofMethod method⟩
      ((analyzeMethod context []).findings.filter (·.category.isJoinedQuery)).map
          (fun finding => (finding.category, finding.snippet)) =
        [(.dynamicSqlConstruction, "s.execute(sql)"), (.sqlInjection, "s.execute(a + b)")] ∧
      ∃ call ∈ method.ownScope, call.render = "s.execute(a)" ∧
        ((Rule.applyAll nodeRules context call).flatMap (·.findings)).filter
          (·.category.isJoinedQuery) = [] := by
  have inOrder : mixedQueries.InOrder := by decide +kernel
  refine ⟨inOrder, fun method isMethod => ?_⟩
  intro context
  obtain ⟨findings, counts⟩ := joined_queries_reported_once inOrder context isMethod []
  constructor
  · rw [findings]
    revert method
    decide +kernel
  · have plain : ∃ call ∈ method.ownScope, call.kind = .methodInvocation ∧
        isQueryCall call.callName = true ∧ call.render = "s.execute(a)" ∧
        ¬RunsJoined context call := by
      clear findings counts
      revert method
      decide +kernel
    obtain ⟨call, inScope, isCall, isQuery, text, other⟩ := plain
    refine ⟨call, inScope, text, List.eq_nil_of_length_eq_zero ?_⟩
    rw [counts call inScope isCall isQuery, if_neg other]

end Security

end JavaAudit
