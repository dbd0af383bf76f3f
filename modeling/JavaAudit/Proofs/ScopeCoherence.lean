import JavaAudit.Proofs.CommentedScopes

/-! How the facts of a scope fit together.

The facts are gathered at different nodes: a comparison with `null` or an assertion records the name
that it checks, and the use of that name is recorded where the walk meets the identifier, under any
number of parentheses. Main statement: what is assigned or checked is used, what is initialized is
declared or assigned, and what is declared has a type. -/

set_option autoImplicit false

namespace JavaAudit

def Node.PassesArgumentList (node : Node) : Prop :=
  node.kind = .methodInvocation →
    ∀ arguments ∈ node.child? .arguments, arguments.kind = .argumentList

instance : DecidablePred Node.PassesArgumentList :=
  fun node => inferInstanceAs (Decidable (_ → ∀ arguments ∈ node.child? .arguments, _))

namespace Site

/-- An identifier in the scope of the site uses the name. -/
def Uses (start : Site) (name : String) : Prop :=
  ∃ use ∈ start.scope, use.kind = .identifier ∧ use.isUse = true ∧ use.text = name

section
variable {start site : Site} {name : String}

/-- An operand of a plain construct that names an identifier holds a use of it. -/
theorem exists_use_of_operand {operand : Site} (member : site ∈ start.scope)
    (entered : site.kind.isTypeBody = false) (plain : site.kind.usesEvery = true)
    (isOperand : operand ∈ site.children) (named : operand.identifier? = some name) :
    start.Uses name :=
  exists_use_of_identifier? (mem_scope_of_child member entered isOperand)
    (fun _ => isUse_of_usesEvery isOperand plain) named

theorem exists_use_of_nullCompared? (member : site ∈ start.scope)
    (compared : site.nullCompared? = some name) : start.Uses name := by
  unfold nullCompared? at compared
  split at compared
  case isFalse => cases compared
  case isTrue isComparison =>
    have kind : site.kind = .binaryExpression := by
      simpa using (Bool.and_eq_true_iff.mp isComparison).1
    have operands : ∀ role, (site.child? role).bind identifier? = some name →
        start.Uses name := by
      intro role found
      obtain ⟨operand, isChild, named⟩ := Option.bind_eq_some_iff.mp found
      exact exists_use_of_operand member (by rw [kind]; rfl) (by rw [kind]; rfl)
        (List.mem_of_find?_eq_some isChild) named
    split at compared
    · exact operands .left compared
    · split at compared
      · exact operands .right compared
      · cases compared

theorem kind_of_child?_arguments {list : Site} (passes : site.node.PassesArgumentList)
    (isCall : site.kind = .methodInvocation) (found : site.child? .arguments = some list) :
    list.kind = .argumentList := by
  refine passes isCall list.node ?_
  rw [← map_node_child?, found]
  rfl

theorem exists_use_of_nullAsserted? (passes : site.node.PassesArgumentList)
    (member : site ∈ start.scope) (asserted : site.nullAsserted? = some name) :
    start.Uses name := by
  unfold nullAsserted? at asserted
  split at asserted
  case isFalse => cases asserted
  case isTrue isAssertion =>
    have isCall : site.kind = .methodInvocation := by
      simpa using (Bool.and_eq_true_iff.mp (Bool.and_eq_true_iff.mp isAssertion).1).1
    obtain ⟨operand, first, named⟩ := Option.bind_eq_some_iff.mp asserted
    unfold arguments at first
    cases found : site.child? .arguments with
    | none => simp [found] at first
    | some list =>
      have isList := kind_of_child?_arguments passes isCall found
      -- The list of arguments stands between the call and the name that it asserts.
      have listed : list ∈ start.scope :=
        mem_scope_of_child member (by rw [isCall]; rfl) (List.mem_of_find?_eq_some found)
      rw [found] at first
      have isOperand : operand ∈ list.children :=
        (List.mem_filter.mp (List.mem_of_mem_head? first)).1
      exact exists_use_of_operand listed (by rw [isList]; rfl) (by rw [isList]; rfl) isOperand named

theorem exists_use_of_mem_nullCheckedNames (passes : site.node.PassesArgumentList)
    (member : site ∈ start.scope) (checked : name ∈ site.nullCheckedNames) : start.Uses name := by
  simp only [nullCheckedNames, List.mem_append, Option.mem_toList, nonempty?,
    Option.filter_eq_some_iff] at checked
  rcases checked with ⟨compared, _⟩ | ⟨asserted, _⟩
  · exact exists_use_of_nullCompared? member compared
  · exact exists_use_of_nullAsserted? passes member asserted

end

end Site

namespace Scope

/-- The facts of a scope fit together. -/
structure Coherent (scope : Scope) : Prop where
  assigned_used : scope.assigned ⊆ scope.used
  nullChecked_used : scope.nullChecked ⊆ scope.used
  initialized_known : scope.initialized ⊆ scope.declared ++ scope.assigned
  parameters_typed : ∀ name ∈ scope.parameterNames, (scope.typeOf? name).isSome
  declared_typed : ∀ name ∈ scope.declared, (scope.typeOf? name).isSome
  loopVariables_typed : ∀ name ∈ scope.loopVariables, (scope.typeOf? name).isSome

variable (fields : List TypedName) (method : Site)

theorem nullChecked_subset_used (passes : method.node.Everywhere Node.PassesArgumentList) :
    (ofMethod fields method).nullChecked ⊆ (ofMethod fields method).used := by
  intro name checked
  obtain ⟨site, member, named⟩ := List.mem_flatMap.mp checked
  have used : ∃ use ∈ method.ownScope, name ∈ use.usedNames := by
    cases found : method.body? with
    | none => simp [found] at member
    | some body =>
      rw [found] at member
      have isChild : body ∈ method.children := List.mem_of_find?_eq_some found
      have passesHere := ((passes.of_mem_children isChild).of_mem_walk member).here
      obtain ⟨use, inScope, bare, isUse, rfl⟩ :=
        Site.exists_use_of_mem_nullCheckedNames passesHere member named
      refine ⟨use, ?_, by simp [Site.usedNames, bare, isUse]⟩
      rw [Site.ownScope, found]
      exact inScope
  exact List.mem_flatMap.mpr used

theorem mem_types_of_mem_ownScope {name : String} {site : Site} (member : site ∈ method.ownScope)
    (named : name ∈ site.declaredNames ++ site.loopVariable?.toList) :
    name ∈ (ofMethod fields method).types.map (·.name) := by
  rw [← Site.map_name_typedNames] at named
  have typed : name ∈ (method.ownScope.flatMap Site.typedNames).map (·.name) := by
    rw [List.map_flatMap]
    exact List.mem_flatMap.mpr ⟨site, member, named⟩
  simp only [ofMethod, List.map_append, List.mem_append]
  exact .inr typed

/-- If calls pass argument lists, every name that a method assigns or checks for `null` is used,
every name that it initializes is declared or assigned, and every parameter, local and loop variable
has a declared type. -/
theorem facts_fit_together (passes : method.node.Everywhere Node.PassesArgumentList) :
    (ofMethod fields method).Coherent where
  assigned_used := by
    intro name assigned
    obtain ⟨site, member, named⟩ := List.mem_flatMap.mp assigned
    exact List.mem_flatMap.mpr ⟨site, member, site.assignedNames_subset_usedNames named⟩
  nullChecked_used := nullChecked_subset_used fields method passes
  initialized_known := by
    intro name initialized
    obtain ⟨site, member, named⟩ := List.mem_flatMap.mp initialized
    -- A name is initialized by its declarator or by an assignment.
    rcases List.mem_append.mp (site.initializedNames_subset named) with declared | assigned
    · exact List.mem_append_left _ (List.mem_flatMap.mpr ⟨site, member, declared⟩)
    · exact List.mem_append_right _ (List.mem_flatMap.mpr ⟨site, member, assigned⟩)
  parameters_typed := by
    intro name isParameter
    exact typeOf?_isSome_iff.mpr (mem_types_of_parameter fields method isParameter)
  declared_typed := by
    intro name declared
    obtain ⟨site, member, named⟩ := List.mem_flatMap.mp declared
    exact typeOf?_isSome_iff.mpr
      (mem_types_of_mem_ownScope fields method member (List.mem_append_left _ named))
  loopVariables_typed := by
    intro name isVariable
    obtain ⟨site, member, named⟩ := List.mem_filterMap.mp isVariable
    exact typeOf?_isSome_iff.mpr (mem_types_of_mem_ownScope fields method member
      (List.mem_append_right _ (Option.mem_toList.mpr named)))

def checkedInParentheses : Node :=
  let source := "void f() \x7b Objects.requireNonNull((a)); b = null != ((c)); \x7d"
  let node := Node.ofAscii source
  let token := Node.token source
  let assertion := node .methodInvocation true none 11 38 [
    node .identifier true (some .object) 11 18 [], token "." 18,
    node .identifier true (some .name) 19 33 [],
    node .argumentList true (some .arguments) 33 38 [
      token "(" 33,
      node .parenthesizedExpression true none 34 37 [
        token "(" 34, node .identifier true none 35 36 [], token ")" 36],
      token ")" 37]]
  let comparison := node .binaryExpression true (some .right) 44 57 [
    node .nullLiteral true (some .left) 44 48 [],
    node (.other "!=") false (some .operator) 49 51 [],
    node .parenthesizedExpression true (some .right) 52 57 [
      token "(" 52,
      node .parenthesizedExpression true none 53 56 [
        token "(" 53, node .identifier true none 54 55 [], token ")" 55],
      token ")" 56]]
  .voidMethod source 0 60 [
    node .expressionStatement true none 11 39 [
      assertion, node .semicolon false none 38 39 []],
    node .expressionStatement true none 40 58 [
      node .assignmentExpression true none 40 57 [
        node .identifier true (some .left) 40 41 [],
        node (.other "=") false (some .operator) 42 43 [],
        comparison],
      node .semicolon false none 57 58 []]]

theorem names_checked_in_parentheses :
    let method := Site.root checkedInParentheses
    checkedInParentheses.Everywhere Node.PassesArgumentList ∧
      (ofMethod [] method).nullChecked = ["a", "c"] ∧ (ofMethod [] method).assigned = ["b"] ∧
      (ofMethod [] method).Coherent := by
  intro method
  have passes : checkedInParentheses.Everywhere Node.PassesArgumentList := by decide +kernel
  exact ⟨passes, by decide +kernel, by decide +kernel, facts_fit_together [] method passes⟩

end Scope

end JavaAudit
