import JavaAudit.Proofs.CategoryFindings
import JavaAudit.Proofs.EnclosingMethods
import JavaAudit.Proofs.FindingLines
import JavaAudit.Proofs.RenderedParts

/-! Credentials among the literals of a method.

A literal that resembles a secret is reported, unless the statement around it reads a configuration.
The search for this statement does not end at the method. So a literal that stands in no statement of
its method is judged by the statement around the method, if there is one, and text outside the method
decides whether the literal is reported. -/

set_option autoImplicit false

namespace JavaAudit

namespace Site

/-- The site, if the root of its tree stands below the given ancestors. -/
def planted (above : List Ancestor) (site : Site) : Site :=
  ⟨site.node, site.above ++ above⟩

section
variable (above : List Ancestor)

@[simp] theorem kind_planted (site : Site) : (site.planted above).kind = site.kind := rfl

theorem children_planted (site : Site) :
    (site.planted above).children = site.children.map (planted above) := by
  apply List.ext_getElem?
  intro index
  rw [children, children, List.getElem?_mapIdx, List.getElem?_map, List.getElem?_mapIdx,
    Option.map_map]
  rfl

theorem walk_planted (stops : Kind → Bool) (start : Site) :
    (start.planted above).walk stops = (start.walk stops).map (planted above) :=
  walk_map (kind_planted above) (children_planted above) stops start

theorem ownScope_planted (method : Site) :
    (method.planted above).ownScope = method.ownScope.map (planted above) := by
  have body : (method.planted above).body? = method.body?.map (planted above) := by
    rw [body?, body?, child?, child?, children_planted, List.find?_map]
    rfl
  rw [ownScope, ownScope, body]
  cases method.body? with
  | none => rfl
  | some body => exact walk_planted above _ body

theorem ancestorsOf_append (inner : List Ancestor) :
    ancestorsOf (inner ++ above) = (ancestorsOf inner).map (planted above) ++ ancestorsOf above := by
  induction inner with
  | nil => rfl
  | cons first inner ih =>
    rw [List.cons_append, ancestorsOf, ih, ancestorsOf]
    rfl

theorem ancestors_planted (site : Site) :
    (site.planted above).ancestors = site.ancestors.map (planted above) ++ ancestorsOf above :=
  ancestorsOf_append above site.above

theorem render_planted (site : Site) : (site.planted above).render = site.render := by
  rw [render_eq, render_eq]
  rfl

end

theorem enclosingStatement?_planted (above : List Ancestor) (site : Site) :
    (site.planted above).enclosingStatement? =
      (site.enclosingStatement?.map (planted above)).or
        ((ancestorsOf above).find? (·.kind.isStatement)) := by
  rw [enclosingStatement?_eq_find?, ancestors_planted, ← List.cons_append, ← List.map_cons,
    List.find?_append, List.find?_map, enclosingStatement?_eq_find?]
  rfl

section
variable {method : Node} {site : Site}

theorem mem_below_of_enclosingStatement? (isMethod : method.kind.isMethod = true)
    (walked : site ∈ (root method).ownScope) {statement : Site}
    (found : site.enclosingStatement? = some statement) : statement ∈ (root method).below := by
  have below := mem_below_of_mem_ownScope walked
  rw [enclosingStatement?_eq_find?] at found
  have isStatement : statement.kind.isStatement = true := by simpa using List.find?_some found
  rcases List.mem_cons.mp (List.mem_of_find?_eq_some found) with rfl | isAbove
  · exact below
  · refine (mem_below_or_of_mem_ancestors below isAbove).resolve_right fun isRoot => ?_
    -- Only the method itself is left, and a method is no statement.
    rw [List.mem_singleton.mp isRoot] at isStatement
    exact Bool.noConfusion ((isStatement_of_isMethod isMethod).symm.trans isStatement)

theorem enclosingMethod?_planted (isMethod : method.kind.isMethod = true)
    (walked : site ∈ (root method).ownScope) (above : List Ancestor) :
    (site.planted above).enclosingMethod? = site.enclosingMethod?.map (planted above) := by
  have ends : ((root method).kind.isMethod || (root method).kind.isTypeBody) = true := by
    rw [Bool.or_eq_true]
    exact .inl isMethod
  have atMethod := List.mem_map_of_mem (f := planted above)
    (mem_ancestors_of_mem_walk (mem_below_of_mem_ownScope walked))
  rw [enclosingMethod?, enclosing?, ancestors_planted, nearest?_append_of_mem atMethod ends,
    nearest?_map (kind_planted above)]
  rfl

end

end Site

namespace Security

def resemblesSecret (literal : Site) : Bool :=
  Vocabulary.looksLikeCredential literal.literalValue && !isInTestMethod literal

def readsConfiguration (statement : Site) : Bool :=
  Vocabulary.isConfigContext statement.render

def credentialFinding (literal : Site) : Finding Category :=
  finding .hardcodedCredentials "Potential hardcoded credential in string literal" literal
    literal.render .high

section
variable {γ : Type} {method : Node} {literal : Site}

theorem credentialLiteral_eq (literal : Site) (context : γ) :
    credentialLiteral literal context =
      .findings (if resemblesSecret literal &&
          !literal.enclosingStatement?.any readsConfiguration then
        [credentialFinding literal] else []) := by
  unfold credentialLiteral resemblesSecret
  change (if (!_ || _ || literal.enclosingStatement?.any readsConfiguration) = true then _ else _) = _
  cases Vocabulary.looksLikeCredential literal.literalValue <;> cases isInTestMethod literal <;>
    cases literal.enclosingStatement?.any readsConfiguration <;> rfl

theorem credentialFinding_planted (above : List Ancestor) (literal : Site) :
    credentialFinding (literal.planted above) = credentialFinding literal := by
  rw [credentialFinding, credentialFinding, Site.render_planted]
  rfl

theorem any_readsConfiguration_planted (above : List Ancestor) (statement : Option Site) :
    (statement.map (Site.planted above)).any readsConfiguration =
      statement.any readsConfiguration := by
  cases statement with
  | none => rfl
  | some statement => exact congrArg Vocabulary.isConfigContext (Site.render_planted above statement)

theorem resemblesSecret_planted (isMethod : method.kind.isMethod = true)
    (walked : literal ∈ (Site.root method).ownScope) (above : List Ancestor) :
    resemblesSecret (literal.planted above) = resemblesSecret literal := by
  have inTest : isInTestMethod (literal.planted above) = isInTestMethod literal := by
    rw [isInTestMethod, isInTestMethod, Site.enclosingMethod?_planted isMethod walked,
      Option.any_map]
    rfl
  rw [resemblesSecret, resemblesSecret, inTest]
  rfl

/-- A literal is judged by the statement around it in its method, or else by the one around the
method. -/
theorem credentialLiteral_planted (isMethod : method.kind.isMethod = true)
    (walked : literal ∈ (Site.root method).ownScope) (above : List Ancestor) (context : γ) :
    credentialLiteral (literal.planted above) context =
      .findings (if resemblesSecret literal &&
          !(literal.enclosingStatement?.or
            (Site.mk method above).enclosingStatement?).any readsConfiguration then
        [credentialFinding literal] else []) := by
  have judged : (literal.planted above).enclosingStatement?.any readsConfiguration =
      (literal.enclosingStatement?.or
        (Site.mk method above).enclosingStatement?).any readsConfiguration := by
    rw [Site.enclosingStatement?_planted, Site.enclosingStatement?_of_isMethod isMethod]
    cases literal.enclosingStatement? with
    | none => rfl
    | some statement => exact any_readsConfiguration_planted above (some statement)
  rw [credentialLiteral_eq, resemblesSecret_planted isMethod walked, judged,
    credentialFinding_planted]

theorem credentialLiteral_planted_eq_iff (isMethod : method.kind.isMethod = true)
    (walked : literal ∈ (Site.root method).ownScope) (above : List Ancestor) (context : γ) :
    credentialLiteral (literal.planted above) context = credentialLiteral literal context ↔
      ¬(resemblesSecret literal = true ∧ literal.enclosingStatement? = none ∧
        (Site.mk method above).enclosingStatement?.any readsConfiguration = true) := by
  rw [credentialLiteral_planted isMethod walked, credentialLiteral_eq]
  cases literal.enclosingStatement? with
  | none =>
    rw [Option.none_or]
    cases resemblesSecret literal <;>
      cases (Site.mk method above).enclosingStatement?.any readsConfiguration <;> simp
  | some statement => simp

/-- The statement that a node of a method finds is one of the method exactly if the node stands in
one, or there is none around the method. -/
theorem statement_within_method_iff (isMethod : method.kind.isMethod = true)
    (walked : literal ∈ (Site.root method).ownScope) (above : List Ancestor) :
    (∀ statement, (literal.planted above).enclosingStatement? = some statement →
        statement ∈ (Site.mk method above).below) ↔
      literal.enclosingStatement?.isSome = true ∨
        (Site.mk method above).enclosingStatement? = none := by
  rw [Site.enclosingStatement?_planted, Site.enclosingStatement?_of_isMethod isMethod]
  cases found : literal.enclosingStatement? with
  | some statement =>
    have inside := List.mem_map_of_mem (f := Site.planted above)
      (Site.mem_below_of_enclosingStatement? isMethod walked found)
    have planted : (Site.mk method above).below =
        (Site.root method).below.map (Site.planted above) :=
      Site.walk_planted above _ (Site.root method)
    simpa [planted] using inside
  | none =>
    -- Without a statement in the method, the search goes on above it.
    cases outer : (Site.ancestorsOf above).find? (·.kind.isStatement) with
    | none => simp
    | some statement =>
      have isAbove : statement ∈ (Site.mk method above).ancestors :=
        List.mem_of_find?_eq_some outer
      simpa using Site.not_mem_below_of_mem_ancestors isAbove

end

def inConfigurationField (method : Node) : List Ancestor :=
  let node := Node.ofAscii "config"
  let body := node .classBody true none 0 6 [method]
  [⟨body, 0⟩, ⟨node .fieldDeclaration true none 0 6 [node .identifier true none 0 6 [], body], 1⟩]

theorem leads_inConfigurationField (method : Node) :
    Site.Leads (inConfigurationField method) method :=
  ⟨rfl, rfl, trivial⟩

theorem readsConfiguration_inConfigurationField {method : Node}
    (isMethod : method.kind.isMethod = true) :
    (Site.mk method (inConfigurationField method)).enclosingStatement?.any readsConfiguration =
      true := by
  let name := Node.ofAscii "config" .identifier true none 0 6 []
  let body := Node.ofAscii "config" .classBody true none 0 6 [method]
  let field := Site.root (.ofAscii "config" .fieldDeclaration true none 0 6 [name, body])
  have found : (Site.mk method (inConfigurationField method)).enclosingStatement? = some field :=
    Site.enclosingStatement?_of_isMethod isMethod _
  have isChild : field.descend 0 name ∈ field.children :=
    Site.mem_children_iff.mpr ⟨0, name, rfl, rfl⟩
  have inside := Site.Exposes.render_infix (.deeper rfl isChild (.self _))
  rw [found, Option.any_some, readsConfiguration, Vocabulary.isConfigContext]
  refine Text.containsAny_of_infix inside ?_
  rw [Site.render_eq, Site.descend_node]
  decide +kernel

theorem filter_hardcodedCredentials (context : MethodContext)
    (isMethod : context.method.kind.isMethod = true) (flaggedLines : List Int) :
    (analyzeMethod context flaggedLines).findings.filter (·.category == .hardcodedCredentials) =
      ((Site.root context.method.node).ownScope.filter fun literal =>
        literal.kind == .stringLiteral &&
          (resemblesSecret literal && !(literal.enclosingStatement?.or
            context.method.enclosingStatement?).any readsConfiguration)).map credentialFinding := by
  have isRule : rule .hardcodedCredentials (· == .stringLiteral) credentialLiteral ∈ nodeRules := by
    simp [nodeRules]
  have walks : context.method.ownScope =
      (Site.root context.method.node).ownScope.map (Site.planted context.method.above) :=
    Site.ownScope_planted context.method.above (Site.root context.method.node)
  rw [filter_analyzeMethod isRule credentialLiteral_about (by decide), walks, List.filter_map,
    List.flatMap_map, List.filter_congr fun _ _ => Bool.and_comm .., ← List.filter_filter,
    ← flatMap_ite_singleton]
  refine List.flatMap_congr fun literal member => ?_
  have walked := (List.mem_filter.mp member).1
  have verdict : (rule .hardcodedCredentials (· == .stringLiteral) credentialLiteral).check
      (literal.planted context.method.above) context = _ :=
    credentialLiteral_planted isMethod walked context.method.above context
  rw [Application.findings, Rule.apply, verdict]

/-- The literals of a method are judged in the method alone, except that a literal which stands in no
statement of the method is judged by the statement around the method. So the statement that a
literal finds is one of the method, unless the literal stands in none and the method does. The
verdict differs from that on the method alone if that statement reads a configuration, and it
depends on the method alone, wherever the method stands, exactly if the literal resembles no secret
or stands in a statement of the method. -/
theorem credentials_judged_within_method_iff (context : MethodContext)
    (isMethod : context.method.kind.isMethod = true) (flaggedLines : List Int) :
    let method := context.method
    let alone := Site.root method.node
    method.ownScope = alone.ownScope.map (Site.planted method.above) ∧
    (analyzeMethod context flaggedLines).findings.filter (·.category == .hardcodedCredentials) =
      (alone.ownScope.filter fun literal => literal.kind == .stringLiteral &&
        (resemblesSecret literal && !(literal.enclosingStatement?.or
          method.enclosingStatement?).any readsConfiguration)).map credentialFinding ∧
    ∀ literal ∈ alone.ownScope,
      ((∀ statement, (literal.planted method.above).enclosingStatement? = some statement →
          statement ∈ method.below) ↔
        literal.enclosingStatement?.isSome = true ∨ method.enclosingStatement? = none) ∧
      (credentialLiteral (literal.planted method.above) context =
          credentialLiteral literal context ↔
        ¬(resemblesSecret literal = true ∧ literal.enclosingStatement? = none ∧
          method.enclosingStatement?.any readsConfiguration = true)) ∧
      ((∀ above, Site.Leads above method.node →
          credentialLiteral (literal.planted above) context = credentialLiteral literal context) ↔
        resemblesSecret literal = false ∨ literal.enclosingStatement?.isSome = true) := by
  intro method alone
  have walks : method.ownScope = alone.ownScope.map (Site.planted method.above) :=
    Site.ownScope_planted method.above alone
  refine ⟨walks, filter_hardcodedCredentials context isMethod flaggedLines,
    fun literal walked => ⟨?_, ?_, ?_⟩⟩
  · exact statement_within_method_iff isMethod walked method.above
  · exact credentialLiteral_planted_eq_iff isMethod walked method.above context
  · constructor
    · -- A method may stand in a field whose name alone hides a literal.
      intro everywhere
      have hidden := everywhere _ (leads_inConfigurationField method.node)
      rw [credentialLiteral_planted_eq_iff isMethod walked,
        readsConfiguration_inConfigurationField isMethod] at hidden
      cases resembles : resemblesSecret literal with
      | false => exact .inl rfl
      | true =>
        refine .inr (Option.isSome_iff_ne_none.mpr fun free => ?_)
        exact hidden ⟨resembles, free, rfl⟩
    · intro judged above _
      rw [credentialLiteral_planted_eq_iff isMethod walked]
      rintro ⟨resembles, free, _⟩
      simp [resembles, free] at judged

/-- A method that locks a literal, at offset 36 of its line. -/
def lockingMethod : Node :=
  let source := String.ofList (List.replicate 36 ' ') ++
    "void f() \x7b synchronized (\"admin\") \x7b \x7d \x7d"
  let node := Node.ofAscii source
  let token := Node.token source
  let literal := node .stringLiteral true none 61 68 [
    token "\"" 61, node (.other "string_fragment") true none 62 67 [], token "\"" 67]
  -- The lock holds the literal and is none of the statements that are searched for.
  .voidMethod source 36 75 [
    node (.other "synchronized_statement") true none 47 73 [
      token "synchronized" 47,
      node .parenthesizedExpression true none 60 69 [token "(" 60, literal, token ")" 68],
      node .block true (some .body) 70 73 [token "\x7b" 70, token "\x7d" 72]]]

def lockInField (name : String) : Node :=
  let source := "class A \x7b Object " ++ name ++ " = new B() \x7b void f() \x7b " ++
    "synchronized (\"admin\") \x7b \x7d \x7d \x7d; \x7d"
  let node := Node.ofAscii source
  let token := Node.token source
  .soleClass source [
    node .fieldDeclaration true none 10 78 [
      node (.other "type_identifier") true (some .type) 10 16 [],
      node .variableDeclarator true (some .declarator) 17 77 [
        node .identifier true (some .name) 17 23 [],
        token "=" 24,
        node .objectCreationExpression true (some .value) 26 77 [
          token "new" 26,
          node (.other "type_identifier") true (some .type) 30 31 [],
          node .argumentList true (some .arguments) 31 33 [token "(" 31, token ")" 32],
          node .classBody true none 34 77 [token "\x7b" 34, lockingMethod, token "\x7d" 76]]],
      node .semicolon false none 77 78 []]]

theorem locked_literal_reported :
    ∃ method ∈ (lockInField "guards").methods, method.kind.isMethod = true ∧
      ∃ literal ∈ (Site.root method.node).ownScope, literal.text = "\"admin\"" ∧
        let context : MethodContext := ⟨method, "A", .ofMethod [] method, .ofMethod method⟩
        (¬∀ statement, (literal.planted method.above).enclosingStatement? = some statement →
          statement ∈ method.below) ∧
        credentialLiteral (literal.planted method.above) context =
          .findings [credentialFinding literal] := by
  -- The literal finds a statement outside its method, which does not change the verdict.
  let method := (lockInField "guards").methods.get ⟨0, by decide +kernel⟩
  let literal := (Site.root method.node).ownScope.get ⟨5, by decide +kernel⟩
  have isMethod : method.kind.isMethod = true := by decide +kernel
  refine ⟨method, List.get_mem .., isMethod, literal, List.get_mem .., by decide +kernel, ?_⟩
  intro context
  have judged := (credentials_judged_within_method_iff context isMethod []).2.2
  obtain ⟨within, same, _⟩ := judged literal (List.get_mem ..)
  constructor
  · rw [within]
    decide +kernel
  · have plain : method.enclosingStatement?.any readsConfiguration = false := by decide +kernel
    rw [same.mpr fun hidden => Bool.false_ne_true (plain.symm.trans hidden.2.2)]
    decide +kernel

/-- One method in fields of different names: the name decides whether its literal is reported. -/
theorem literal_hidden_by_field_name :
    ∃ shown ∈ (lockInField "guards").methods, ∃ hidden ∈ (lockInField "config").methods,
      shown.node = lockingMethod ∧ hidden.node = lockingMethod ∧
      (∃ literal ∈ (Site.root hidden.node).ownScope, literal.text = "\"admin\"" ∧
        ¬∀ statement, (literal.planted hidden.above).enclosingStatement? = some statement →
          statement ∈ hidden.below) ∧
      (analyzeMethod ⟨shown, "A", .ofMethod [] shown, .ofMethod shown⟩ []).findings.map
          (fun finding => (finding.category, finding.snippet)) =
        [(.hardcodedCredentials, "\"admin\"")] ∧
      (analyzeMethod ⟨hidden, "A", .ofMethod [] hidden, .ofMethod hidden⟩ []).findings = [] := by
  let shown := (lockInField "guards").methods.get ⟨0, by decide +kernel⟩
  let hidden := (lockInField "config").methods.get ⟨0, by decide +kernel⟩
  let literal := (Site.root hidden.node).ownScope.get ⟨5, by decide +kernel⟩
  have isMethod : hidden.kind.isMethod = true := by decide +kernel
  refine ⟨shown, List.get_mem .., hidden, List.get_mem .., rfl, rfl,
    ⟨literal, List.get_mem .., by decide +kernel, ?_⟩, by decide +kernel, by decide +kernel⟩
  rw [statement_within_method_iff isMethod (List.get_mem ..)]
  decide +kernel

end Security

end JavaAudit
