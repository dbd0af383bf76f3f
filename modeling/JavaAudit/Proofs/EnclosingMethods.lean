import JavaAudit.Proofs.MethodBodies
import JavaAudit.Rule
import JavaAudit.Security.Flow

/-! The method around a node.

Rules learn the method of a node in two ways: from the walk over the body that led to the node, or by
a search up from the node that ends at a method or at a type body. Main statement: the search finds
the method whose body was walked exactly if no other method stands between, so both ways agree on
whether a node is in a test. -/

set_option autoImplicit false

namespace JavaAudit.Site

def IsIn (site : Site) (tree : Node) : Prop :=
  site = root tree ∨ site.IsBelow tree

theorem IsIn.leads {site : Site} {tree : Node} (inTree : site.IsIn tree) :
    Leads site.above site.node := by
  rcases inTree with rfl | below
  · trivial
  · exact below.1

theorem leads_of_append {between rest : List Ancestor} {ancestor : Ancestor} {node : Node}
    (linked : Leads (between ++ ancestor :: rest) node) : Leads rest ancestor.node := by
  induction between generalizing node with
  | nil => exact linked.2
  | cons first between ih => exact ih linked.2

theorem reaches_iff_of_above {stops : Kind → Bool} {start site : Site} {between : List Ancestor}
    {index : Nat} (above : site.above = between ++ ⟨start.node, index⟩ :: start.above) :
    start.Reaches stops site ↔ ∀ ancestor ∈ between, stops ancestor.node.kind = false := by
  constructor
  · rintro ⟨other, otherIndex, otherAbove, free⟩
    have sameRest := otherAbove.symm.trans above
    obtain ⟨rfl, _⟩ := List.append_inj' sameRest rfl
    exact free
  · intro free
    exact ⟨between, index, above, free⟩

theorem exists_path_of_nearest? {wanted stops : Kind → Bool} {above : List Ancestor} {found : Site}
    (result : nearest? wanted stops (ancestorsOf above) = some found) :
    wanted found.kind = true ∧
      ∃ between index, above = between ++ ⟨found.node, index⟩ :: found.above ∧
        ∀ ancestor ∈ between, (wanted ancestor.node.kind || stops ancestor.node.kind) = false := by
  -- The ancestors that the search has gone past are neither wanted nor stopping.
  induction above with
  | nil => simp [ancestorsOf, nearest?] at result
  | cons first rest ih =>
    rw [ancestorsOf, nearest?] at result
    split at result
    next isWanted =>
      cases result
      exact ⟨isWanted, [], first.index, rfl, by simp⟩
    next unwanted =>
      split at result
      next => cases result
      next unstopped =>
        obtain ⟨isWanted, between, index, rfl, free⟩ := ih result
        refine ⟨isWanted, first :: between, index, rfl, ?_⟩
        simp only [kind, Bool.not_eq_true] at unwanted unstopped
        simpa [unwanted, unstopped] using free

/-- A search up finds a site exactly if a walk down from there, which neither enters a stopping node
nor one that is wanted, reaches the start of the search. -/
theorem enclosing?_eq_some_iff {wanted stops : Kind → Bool} {site found : Site} :
    site.enclosing? wanted stops = some found ↔ wanted found.kind = true ∧
      found.Reaches (fun kind => wanted kind || stops kind) site := by
  constructor
  · exact exists_path_of_nearest?
  · rintro ⟨isWanted, between, index, above, free⟩
    rw [enclosing?, ancestors, above, nearest?_of_free free, ancestorsOf, nearest?, if_pos isWanted]

theorem forall_between_iff (property : Kind → Prop) {start site : Site} {between : List Ancestor}
    {index : Nat} (above : site.above = between ++ ⟨start.node, index⟩ :: start.above)
    (linked : Leads site.above site.node) :
    (∀ other ∈ start.below, site ∈ other.below → property other.kind) ↔
      ∀ ancestor ∈ between, property ancestor.node.kind := by
  have startLinked : Leads start.above start.node := leads_of_append (above ▸ linked)
  constructor
  · intro holds ancestor member
    obtain ⟨inner, outer, rfl⟩ := List.append_of_mem member
    let other : Site := ⟨ancestor.node, outer ++ ⟨start.node, index⟩ :: start.above⟩
    have siteAbove : site.above = inner ++ ancestor :: other.above := by
      rw [above, List.append_assoc]
      rfl
    have otherLinked : Leads other.above other.node := leads_of_append (siteAbove ▸ linked)
    apply holds other
    · exact (mem_walk_iff startLinked).mpr ⟨otherLinked, outer, index, rfl, fun _ _ => rfl⟩
    · exact (mem_walk_iff otherLinked).mpr
        ⟨linked, inner, ancestor.index, siteAbove, fun _ _ => rfl⟩
  · intro holds other otherBelow siteBelow
    obtain ⟨outer, outerIndex, otherAbove, _⟩ := reaches_of_mem_walk otherBelow
    obtain ⟨inner, innerIndex, siteAbove, _⟩ := reaches_of_mem_walk siteBelow
    -- The way from the site to the start leads through the other site, so the ways compose.
    have path : inner ++ (⟨other.node, innerIndex⟩ : Ancestor) :: outer = between := by
      rw [otherAbove, above, ← List.cons_append, ← List.append_assoc] at siteAbove
      exact (List.append_inj' siteAbove rfl).1.symm
    exact holds ⟨other.node, innerIndex⟩ (path ▸ by simp)

/-- The search from a node below the body of a method finds the method exactly if the walk over the
body lists the node and no other method stands between. -/
theorem enclosingMethod?_eq_some_iff {method body site : Site}
    (linked : Leads method.above method.node) (isMethod : method.kind.isMethod = true)
    (hasBody : method.body? = some body) (noTypeBody : body.kind.isTypeBody = false)
    (noMethod : body.kind.isMethod = false) (below : site ∈ body.below) :
    site.enclosingMethod? = some method ↔ site ∈ body.scope ∧
      ∀ other ∈ body.below, site ∈ other.below → other.kind.isMethod = false := by
  obtain ⟨step, bodyAbove⟩ := body_above hasBody
  have bodyLinked : Leads body.above body.node := by
    obtain ⟨index, node, found, rfl⟩ := mem_children_iff.mp (body_mem_children hasBody)
    exact ⟨found, linked⟩
  obtain ⟨siteLinked, between, index, above, _⟩ := (mem_walk_iff bodyLinked).mp below
  have fromMethod : site.above =
      (between ++ [⟨body.node, index⟩]) ++ ⟨method.node, step⟩ :: method.above := by
    rw [above, bodyAbove]
    simp
  have walked : site ∈ body.scope ↔
      ∀ ancestor ∈ between, ancestor.node.kind.isTypeBody = false := by
    rw [scope, mem_walk_iff bodyLinked, reaches_iff_of_above above]
    exact and_iff_right siteLinked
  have apart : (∀ other ∈ body.below, site ∈ other.below → other.kind.isMethod = false) ↔
      ∀ ancestor ∈ between, ancestor.node.kind.isMethod = false :=
    forall_between_iff (·.isMethod = false) above siteLinked
  rw [enclosingMethod?, enclosing?_eq_some_iff, reaches_iff_of_above fromMethod, walked, apart]
  -- The body itself stops no search, so only the nodes between it and the site matter.
  have bodyPasses : (body.node.kind.isMethod || body.node.kind.isTypeBody) = false := by
    rw [Bool.or_eq_false_iff]
    exact ⟨noMethod, noTypeBody⟩
  constructor
  · rintro ⟨_, free⟩
    have split := fun ancestor member =>
      Bool.or_eq_false_iff.mp (free ancestor (List.mem_append_left _ member))
    exact ⟨fun ancestor member => (split ancestor member).2,
      fun ancestor member => (split ancestor member).1⟩
  · rintro ⟨noTypeBodies, noMethods⟩
    refine ⟨isMethod, ?_⟩
    intro ancestor member
    rcases List.mem_append.mp member with inBetween | isBody
    · exact Bool.or_eq_false_iff.mpr ⟨noMethods ancestor inBetween, noTypeBodies ancestor inBetween⟩
    · rw [List.mem_singleton.mp isBody]
      exact bodyPasses

theorem enclosingMethod?_of_mem_ownScope {tree : Node} (separated : BodiesSeparated tree)
    {method site : Site} (isMethod : method ∈ tree.methods)
    (noTypeBody : ∀ body, method.body? = some body → body.kind.isTypeBody = false)
    (walked : site ∈ method.ownScope) : site.enclosingMethod? = some method := by
  obtain ⟨methodInTree, methodKind⟩ := Node.mem_methods.mp isMethod
  obtain ⟨inTree, body, hasBody, owns⟩ := (mem_ownScope_iff isMethod).mp walked
  obtain ⟨noMethod, unowned⟩ := separated method isMethod body hasBody
  have inScope : site ∈ body.scope := by simpa [ownScope, hasBody] using walked
  have below := mem_below_of_mem_walk inScope
  rw [enclosingMethod?_eq_some_iff methodInTree.1 methodKind hasBody (noTypeBody body hasBody)
    noMethod below]
  refine ⟨inScope, ?_⟩
  -- A method between would itself be owned by the body, since no type body is on the way.
  intro other otherBelow siteBelow
  obtain ⟨outer, outerIndex, otherAbove, _⟩ := reaches_of_mem_walk otherBelow
  obtain ⟨inner, innerIndex, siteAbove, _⟩ := reaches_of_mem_walk siteBelow
  have fromBody : site.above =
      (inner ++ ⟨other.node, innerIndex⟩ :: outer) ++ ⟨body.node, outerIndex⟩ :: body.above := by
    rw [siteAbove, otherAbove]
    simp
  have free := (reaches_iff_of_above fromBody).mp owns
  have otherOwned : body.Owns other := ⟨outer, outerIndex, otherAbove, fun ancestor member =>
    free ancestor (List.mem_append_right _ (List.mem_cons_of_mem _ member))⟩
  have bodyInside : body ∈ (root tree).below :=
    mem_below_of_mem_children (mem_findBelow.mp isMethod).1 (body_mem_children hasBody)
  have otherInTree := mem_below_root_iff.mp (walk_trans bodyInside rfl otherBelow)
  by_contra isOther
  exact unowned other (Node.mem_methods.mpr ⟨otherInTree, Bool.not_eq_false _ ▸ isOther⟩) otherOwned

end JavaAudit.Site

namespace JavaAudit.Security

/-- From a node below the body of a method, where the body is neither a type body nor a method, the
search up finds the method exactly if the walk over the body lists the node and no other method
stands between. So if type bodies separate nested methods, a node that is walked for a method is in
a test exactly if the method of the context is one. -/
theorem enclosing_method_agrees_with_walk (tree : Node) :
    (∀ method body site : Site, method.IsIn tree → method.kind.isMethod = true →
      method.body? = some body → body.kind.isTypeBody = false → body.kind.isMethod = false →
      site ∈ body.below →
      (site.enclosingMethod? = some method ↔ site ∈ body.scope ∧
        ∀ other ∈ body.below, site ∈ other.below → other.kind.isMethod = false)) ∧
    (BodiesSeparated tree → ∀ context : MethodContext, context.method ∈ tree.methods →
      (∀ body, context.method.body? = some body → body.kind.isTypeBody = false) →
      ∀ site ∈ context.method.ownScope,
        isInTestMethod site = Vocabulary.isTestMethodName context.name) := by
  constructor
  · intro method body site inTree isMethod hasBody noTypeBody noMethod below
    exact Site.enclosingMethod?_eq_some_iff inTree.leads isMethod hasBody noTypeBody noMethod below
  · intro separated context isMethod noTypeBody site walked
    rw [isInTestMethod, Site.enclosingMethod?_of_mem_ownScope separated isMethod noTypeBody walked]
    rfl

/-- A test that passes a literal and an anonymous class, whose method has a literal of its own. -/
def literalsInAndOutOfTest : Node :=
  let opening := "\x7b"
  let closing := "\x7d"
  let source := s!"class A {opening} void test() {opening} f(\"x\", new B() {opening} " ++
    s!"void g() {opening} h(\"y\"); {closing} {closing}); {closing} {closing}"
  let node := Node.ofAscii source
  let token := Node.token source
  let literal (start : Nat) := node .stringLiteral true none start (start + 3) [
    token "\"" start, node (.other "string_fragment") true none (start + 1) (start + 2) [],
    token "\"" (start + 2)]
  let call (start stop : Nat) (arguments : List Node) :=
    node .expressionStatement true none start stop [
      node .methodInvocation true none start (stop - 1) [
        node .identifier true (some .name) start (start + 1) [],
        node .argumentList true (some .arguments) (start + 1) (stop - 1) (
          token "(" (start + 1) :: arguments ++ [token ")" (stop - 2)])],
      node .semicolon false none (stop - 1) stop []]
  let creation := node .objectCreationExpression true none 31 63 [
    token "new" 31,
    node (.other "type_identifier") true (some .type) 35 36 [],
    node .argumentList true (some .arguments) 36 38 [token "(" 36, token ")" 37],
    node .classBody true none 39 63 [
      token opening 39, .voidMethod source 41 61 [call 52 59 [literal 54]], token closing 62]]
  .soleClass source [
    node .methodDeclaration true none 10 67 [
      node (.other "void_type") true (some .type) 10 14 [],
      node .identifier true (some .name) 15 19 [],
      node (.other "formal_parameters") true (some .parameters) 19 21 [token "(" 19, token ")" 20],
      node .block true (some .body) 22 67 [
        token opening 22, call 24 65 [literal 26, token "," 29, creation], token closing 66]]]

/-- The literal of the anonymous class is below the body of the test, but its method is not a test,
and the search up and the walk agree on that. -/
theorem literals_in_and_out_of_test_agree :
    BodiesSeparated literalsInAndOutOfTest ∧
      (∀ method ∈ literalsInAndOutOfTest.methods, ∀ literal ∈ method.ownScope,
        isInTestMethod literal = Vocabulary.isTestMethodName method.declaredName) ∧
      (∀ method ∈ literalsInAndOutOfTest.methods, ∀ body, method.body? = some body →
        ∀ literal ∈ body.findBelow (· == .stringLiteral),
          (literal.enclosingMethod? = some method ↔ literal ∈ body.scope ∧
            ∀ other ∈ body.below, literal ∈ other.below → other.kind.isMethod = false)) ∧
      literalsInAndOutOfTest.methods.map (fun method =>
        (method.declaredName, method.body?.map fun body =>
          (body.findBelow (· == .stringLiteral)).map fun literal =>
            (literal.text, isInTestMethod literal))) =
        [("test", some [("\"x\"", true), ("\"y\"", false)]), ("g", some [("\"y\"", false)])] := by
  have separated : BodiesSeparated literalsInAndOutOfTest :=
    BodiesSeparated.iff_walks.mpr (by decide +kernel)
  have bodies : ∀ method ∈ literalsInAndOutOfTest.methods,
      method.body?.all (fun body => !body.kind.isTypeBody) = true := by
    decide +kernel
  have noTypeBody : ∀ method ∈ literalsInAndOutOfTest.methods, ∀ body,
      method.body? = some body → body.kind.isTypeBody = false := by
    intro method isMethod body hasBody
    simpa [hasBody] using bodies method isMethod
  obtain ⟨finds, agrees⟩ := enclosing_method_agrees_with_walk literalsInAndOutOfTest
  refine ⟨separated, ?_, ?_, by decide +kernel⟩
  · intro method isMethod literal walked
    let context : MethodContext := ⟨method, "", .ofMethod [] method, .ofMethod method⟩
    exact agrees separated context isMethod (noTypeBody method isMethod) literal walked
  · intro method isMethod body hasBody literal isLiteral
    obtain ⟨inTree, kind⟩ := Node.mem_methods.mp isMethod
    exact finds method body literal (.inr inTree) kind hasBody (noTypeBody method isMethod body hasBody)
      (separated method isMethod body hasBody).1 (Site.mem_findBelow.mp isLiteral).1

end JavaAudit.Security
