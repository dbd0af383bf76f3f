import Mathlib.Data.List.Nodup
import JavaAudit.Outline
import JavaAudit.Proofs.SampleTrees

/-! Which declaration owns a node.

Fields are walked below their declarations and methods below their bodies, and neither walk enters
a type body. If type bodies separate declarations that stand inside each other, each node has one
owner, so the walks share no node. -/

set_option autoImplicit false

namespace JavaAudit

/-- Methods, constructors and field declarations: what is walked on its own. -/
def Kind.isOwner (kind : Kind) : Bool :=
  kind.isMethod || kind.isField

namespace Node

def fieldDeclarations (tree : Node) : List Site :=
  (Site.root tree).findBelow Kind.isField

def owners (tree : Node) : List Site :=
  (Site.root tree).findBelow Kind.isOwner

theorem mem_owners_of_field {tree : Node} {site : Site} (isField : site ∈ tree.fieldDeclarations) :
    site ∈ tree.owners := by
  obtain ⟨inside, kind⟩ := Site.mem_findBelow.mp isField
  exact Site.mem_findBelow.mpr ⟨inside, by simp [Kind.isOwner, kind]⟩

theorem mem_owners_of_method {tree : Node} {site : Site} (isMethod : site ∈ tree.methods) :
    site ∈ tree.owners := by
  obtain ⟨inside, kind⟩ := Site.mem_findBelow.mp isMethod
  exact Site.mem_findBelow.mpr ⟨inside, by simp [Kind.isOwner, kind]⟩

theorem field_ne_method {tree : Node} {field method : Site}
    (isField : field ∈ tree.fieldDeclarations) (isMethod : method ∈ tree.methods) :
    field ≠ method := by
  rintro rfl
  have fieldKind := (Site.mem_findBelow.mp isField).2
  have methodKind := (Site.mem_findBelow.mp isMethod).2
  cases kind : field.kind <;> simp [kind, Kind.isField, Kind.isMethod] at fieldKind methodKind

end Node

/-- The nodes of the body of a method, outside the types nested in it. -/
def Site.ownScope (method : Site) : List Site :=
  (method.body?.map Site.scope).getD []

/-- Type bodies separate declarations from the declarations above them, and no type body is the
body of a method. -/
structure Separated (tree : Node) : Prop where
  bodies : ∀ method ∈ tree.methods, ∀ body, method.body? = some body →
    body.kind.isTypeBody = false
  nested : ∀ inner ∈ tree.owners, ∀ between outer rest, inner.above = between ++ outer :: rest →
    outer.node.kind.isOwner = true → ∃ ancestor ∈ between, ancestor.node.kind.isTypeBody = true

namespace Site

/-- The node stands below the declaration, and no type body stands between them. -/
def Owns (declaration site : Site) : Prop :=
  declaration.Reaches Kind.isTypeBody site

theorem owns_of_mem_scope {declaration site : Site} (member : site ∈ declaration.scope) :
    declaration.Owns site :=
  reaches_of_mem_walk member

theorem owns_of_mem_ownScope {tree : Node} (separated : Separated tree) {method site : Site}
    (isMethod : method ∈ tree.methods) (member : site ∈ method.ownScope) : method.Owns site := by
  unfold ownScope at member
  cases found : method.body? with
  | none => simp [found] at member
  | some body =>
    rw [found] at member
    exact reaches_of_child (List.mem_of_find?_eq_some found)
      (separated.bodies method isMethod body found) (reaches_of_mem_walk member)

theorem eq_of_free_path {tree : Node} (separated : Separated tree) {inner outer : Site}
    (innerOwner : inner ∈ tree.owners) (outerOwner : outer ∈ tree.owners) {path : List Ancestor}
    {first last : Nat}
    (above : (⟨inner.node, first⟩ : Ancestor) :: inner.above =
      path ++ ⟨outer.node, last⟩ :: outer.above)
    (free : ∀ ancestor ∈ path, ancestor.node.kind.isTypeBody = false) : inner = outer := by
  cases path with
  | nil =>
    obtain ⟨innerNode, innerAbove⟩ := inner
    obtain ⟨outerNode, outerAbove⟩ := outer
    simp only [List.nil_append, List.cons.injEq, Ancestor.mk.injEq] at above
    rw [above.1.1, above.2]
  | cons ancestor path =>
    obtain ⟨_, nested⟩ := List.cons.inj above
    obtain ⟨body, member, isBody⟩ :=
      separated.nested inner innerOwner path _ _ nested (mem_findBelow.mp outerOwner).2
    have entered := free body (List.mem_cons_of_mem _ member)
    rw [isBody] at entered
    cases entered

/-- No node is owned by two declarations. -/
theorem owner_unique {tree : Node} (separated : Separated tree) {left right site : Site}
    (leftOwner : left ∈ tree.owners) (rightOwner : right ∈ tree.owners)
    (leftOwns : left.Owns site) (rightOwns : right.Owns site) : left = right := by
  obtain ⟨leftBetween, leftIndex, leftAbove, leftFree⟩ := leftOwns
  obtain ⟨rightBetween, rightIndex, rightAbove, rightFree⟩ := rightOwns
  -- Both declarations are ancestors of the node, so one path up is part of the other.
  rcases List.append_eq_append_iff.mp (leftAbove.symm.trans rightAbove) with
    ⟨path, rightPath, leftPath⟩ | ⟨path, leftPath, rightPath⟩
  · refine eq_of_free_path separated leftOwner rightOwner leftPath ?_
    intro ancestor member
    exact rightFree ancestor (rightPath ▸ List.mem_append_right _ member)
  · refine (eq_of_free_path separated rightOwner leftOwner rightPath ?_).symm
    intro ancestor member
    exact leftFree ancestor (leftPath ▸ List.mem_append_right _ member)

theorem ownScope_nodup (method : Site) : method.ownScope.Nodup := by
  unfold ownScope
  cases method.body? with
  | none => exact .nil
  | some body => exact walk_nodup _ body

end Site

namespace Separated

variable {tree : Node}

/-- Declarations are separated if the search from each for the declaration around it ends at a
type body. -/
theorem of_enclosing
    (bodies : ∀ method ∈ tree.methods, method.body?.all (!·.kind.isTypeBody) = true)
    (nested : ∀ inner ∈ tree.owners,
      (inner.enclosing? Kind.isOwner Kind.isTypeBody).isNone = true) : Separated tree where
  bodies := by
    intro method isMethod body found
    simpa [found] using bodies method isMethod
  nested := by
    intro inner isOwner between outer rest above outerOwner
    have unreached := Option.isNone_iff_eq_none.mp (nested inner isOwner)
    rw [Site.enclosing?, Site.ancestors, above] at unreached
    exact Site.exists_stop_of_nearest?_eq_none outerOwner unreached

theorem fields_disjoint (separated : Separated tree) {left right : Site}
    (leftField : left ∈ tree.fieldDeclarations) (rightField : right ∈ tree.fieldDeclarations)
    (different : left ≠ right) : left.scope.Disjoint right.scope := by
  intro site inLeft inRight
  exact different (Site.owner_unique separated (Node.mem_owners_of_field leftField)
    (Node.mem_owners_of_field rightField) (Site.owns_of_mem_scope inLeft)
    (Site.owns_of_mem_scope inRight))

theorem methods_disjoint (separated : Separated tree) {left right : Site}
    (leftMethod : left ∈ tree.methods) (rightMethod : right ∈ tree.methods)
    (different : left ≠ right) : left.ownScope.Disjoint right.ownScope := by
  intro site inLeft inRight
  exact different (Site.owner_unique separated (Node.mem_owners_of_method leftMethod)
    (Node.mem_owners_of_method rightMethod)
    (Site.owns_of_mem_ownScope separated leftMethod inLeft)
    (Site.owns_of_mem_ownScope separated rightMethod inRight))

theorem field_disjoint_method (separated : Separated tree) {field method : Site}
    (isField : field ∈ tree.fieldDeclarations) (isMethod : method ∈ tree.methods) :
    field.scope.Disjoint method.ownScope := by
  intro site inField inMethod
  exact Node.field_ne_method isField isMethod (Site.owner_unique separated
    (Node.mem_owners_of_field isField) (Node.mem_owners_of_method isMethod)
    (Site.owns_of_mem_scope inField) (Site.owns_of_mem_ownScope separated isMethod inMethod))

theorem walks_nodup (separated : Separated tree) :
    (tree.fieldDeclarations.map Site.scope ++ tree.methods.map Site.ownScope).flatten.Nodup := by
  rw [List.nodup_flatten, List.pairwise_append, List.pairwise_map, List.pairwise_map]
  -- No walk repeats a node; fields, methods, and fields and methods share none.
  refine ⟨?_, ?_, ?_, ?_⟩
  · intro walk member
    rcases List.mem_append.mp member with ofField | ofMethod
    · obtain ⟨field, _, rfl⟩ := List.mem_map.mp ofField
      exact Site.walk_nodup _ field
    · obtain ⟨method, _, rfl⟩ := List.mem_map.mp ofMethod
      exact method.ownScope_nodup
  · refine (Site.findBelow_nodup _ _).imp_of_mem ?_
    intro left right leftField rightField different
    exact separated.fields_disjoint leftField rightField different
  · refine (Site.findBelow_nodup _ _).imp_of_mem ?_
    intro left right leftMethod rightMethod different
    exact separated.methods_disjoint leftMethod rightMethod different
  · intro fieldWalk ofField methodWalk ofMethod
    obtain ⟨field, isField, rfl⟩ := List.mem_map.mp ofField
    obtain ⟨method, isMethod, rfl⟩ := List.mem_map.mp ofMethod
    exact separated.field_disjoint_method isField isMethod

end Separated

end JavaAudit
