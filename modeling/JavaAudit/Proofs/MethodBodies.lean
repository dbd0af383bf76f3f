import JavaAudit.Proofs.Ownership

/-! Methods nested in the bodies of methods.

The walk over the body of a method stays out of the types nested in it. If every method inside a
body stands in such a type, a node is below the bodies of two methods only through a type body, so
at most one body owns it. -/

set_option autoImplicit false

namespace JavaAudit

/-- Type bodies separate the methods nested in the body of a method from that body, which is no
method itself. -/
def BodiesSeparated (tree : Node) : Prop :=
  ∀ method ∈ tree.methods, ∀ body, method.body? = some body →
    body.kind.isMethod = false ∧ ∀ inner ∈ tree.methods, ¬body.Owns inner

namespace Site

theorem mem_ownScope_iff {tree : Node} {method site : Site} (isMethod : method ∈ tree.methods) :
    site ∈ method.ownScope ↔ site.IsBelow tree ∧
      ∃ body, method.body? = some body ∧ body.Owns site := by
  have inside : method ∈ (root tree).below := (mem_findBelow.mp isMethod).1
  unfold ownScope
  cases hasBody : method.body? with
  | none => simp
  | some body =>
    have bodyInside := mem_below_of_mem_children inside (body_mem_children hasBody)
    have bodyLinked := (mem_below_root_iff.mp bodyInside).1
    simp only [Option.map_some, Option.getD_some, Option.some.injEq, exists_eq_left']
    constructor
    · intro walked
      have below := walk_trans bodyInside rfl (mem_below_of_mem_walk walked)
      exact ⟨mem_below_root_iff.mp below, reaches_of_mem_walk walked⟩
    · rintro ⟨inTree, owns⟩
      exact (mem_walk_iff bodyLinked).mpr ⟨inTree.1, owns⟩

theorem eq_of_body_path {tree : Node} (separated : BodiesSeparated tree)
    {inner outer innerBody outerBody : Site} (innerMethod : inner ∈ tree.methods)
    (outerMethod : outer ∈ tree.methods) (hasInner : inner.body? = some innerBody)
    (hasOuter : outer.body? = some outerBody) {path : List Ancestor} {first last : Nat}
    (above : (⟨innerBody.node, first⟩ : Ancestor) :: innerBody.above =
      path ++ ⟨outerBody.node, last⟩ :: outerBody.above)
    (free : ∀ ancestor ∈ path, ancestor.node.kind.isTypeBody = false) : inner = outer := by
  -- A body that stands in the body of another method belongs to a nested method, and only a
  -- type body can separate the two.
  obtain ⟨innerIndex, innerAbove⟩ := body_above hasInner
  obtain ⟨outerIndex, outerAbove⟩ := body_above hasOuter
  obtain ⟨noMethod, unowned⟩ := separated outer outerMethod outerBody hasOuter
  cases path with
  | nil =>
    -- The bodies are one node, so the methods are its parent.
    obtain ⟨_, same⟩ := List.cons.inj above
    rw [innerAbove, outerAbove] at same
    obtain ⟨node, innerRest⟩ := inner
    obtain ⟨otherNode, outerRest⟩ := outer
    simp only [List.cons.injEq, Ancestor.mk.injEq] at same
    rw [same.1.1, same.2]
  | cons _ path =>
    obtain ⟨_, nested⟩ := List.cons.inj above
    rw [innerAbove] at nested
    cases path with
    | nil =>
      -- The inner method would be the outer body.
      obtain ⟨sameNode, _⟩ := List.cons.inj nested
      have innerKind : inner.kind.isMethod = true := (mem_findBelow.mp innerMethod).2
      have sameKind : inner.kind = outerBody.kind :=
        congrArg Node.kind (Ancestor.mk.inj sameNode).1
      rw [sameKind, noMethod] at innerKind
      cases innerKind
    | cons _ path =>
      obtain ⟨_, innerPath⟩ := List.cons.inj nested
      refine absurd ⟨path, last, innerPath, ?_⟩ (unowned inner innerMethod)
      intro ancestor member
      exact free ancestor (List.mem_cons_of_mem _ (List.mem_cons_of_mem _ member))

/-- No node is owned by the bodies of two methods. -/
theorem body_owner_unique {tree : Node} (separated : BodiesSeparated tree)
    {left right leftBody rightBody site : Site} (leftMethod : left ∈ tree.methods)
    (rightMethod : right ∈ tree.methods) (hasLeft : left.body? = some leftBody)
    (hasRight : right.body? = some rightBody) (leftOwns : leftBody.Owns site)
    (rightOwns : rightBody.Owns site) : left = right := by
  obtain ⟨leftBetween, leftIndex, leftAbove, leftFree⟩ := leftOwns
  obtain ⟨rightBetween, rightIndex, rightAbove, rightFree⟩ := rightOwns
  rcases List.append_eq_append_iff.mp (leftAbove.symm.trans rightAbove) with
    ⟨path, rightPath, leftPath⟩ | ⟨path, leftPath, rightPath⟩
  · refine eq_of_body_path separated leftMethod rightMethod hasLeft hasRight leftPath ?_
    intro ancestor member
    exact rightFree ancestor (rightPath ▸ List.mem_append_right _ member)
  · refine (eq_of_body_path separated rightMethod leftMethod hasRight hasLeft rightPath ?_).symm
    intro ancestor member
    exact leftFree ancestor (leftPath ▸ List.mem_append_right _ member)

end Site

namespace BodiesSeparated

variable {tree : Node}

theorem ownScopes_disjoint (separated : BodiesSeparated tree) {left right : Site}
    (leftMethod : left ∈ tree.methods) (rightMethod : right ∈ tree.methods)
    (different : left ≠ right) : left.ownScope.Disjoint right.ownScope := by
  intro site inLeft inRight
  obtain ⟨_, leftBody, hasLeft, leftOwns⟩ := (Site.mem_ownScope_iff leftMethod).mp inLeft
  obtain ⟨_, rightBody, hasRight, rightOwns⟩ := (Site.mem_ownScope_iff rightMethod).mp inRight
  exact different (Site.body_owner_unique separated leftMethod rightMethod hasLeft hasRight leftOwns
    rightOwns)

/-- Bodies are separated exactly if no walk over the body of a method meets a method. -/
theorem iff_walks : BodiesSeparated tree ↔ ∀ method ∈ tree.methods,
    method.body?.all (!·.kind.isMethod) = true ∧
      method.ownScope.all (!·.kind.isMethod) = true := by
  simp only [List.all_eq_true, Bool.not_eq_true']
  constructor
  · intro separated method isMethod
    constructor
    · cases hasBody : method.body? with
      | none => rfl
      | some body => simpa using (separated method isMethod body hasBody).1
    · intro inner walked
      obtain ⟨inTree, body, hasBody, owns⟩ := (Site.mem_ownScope_iff isMethod).mp walked
      by_contra isInner
      exact (separated method isMethod body hasBody).2 inner
        (Node.mem_methods.mpr ⟨inTree, Bool.not_eq_false _ ▸ isInner⟩) owns
  · intro walks method isMethod body hasBody
    obtain ⟨noMethod, walk⟩ := walks method isMethod
    refine ⟨by simpa [hasBody] using noMethod, ?_⟩
    intro inner isInner owns
    obtain ⟨inTree, kind⟩ := Node.mem_methods.mp isInner
    -- A method below the body with no type body in between would be walked.
    have walked := (Site.mem_ownScope_iff isMethod).mpr ⟨inTree, body, hasBody, owns⟩
    rw [walk inner walked] at kind
    cases kind

end BodiesSeparated

end JavaAudit
