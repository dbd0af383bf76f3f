import JavaAudit.Tree.Preorder
import JavaAudit.Tree.Site

/-! Ranges of nodes and the lines that they cover.

If the byte range of every child lies inside that of its parent, a node below another covers no line
outside the lines of the other. -/

set_option autoImplicit false

namespace JavaAudit

namespace Node

/-- A property of a node and of all nodes below it. -/
inductive Everywhere (property : Node → Prop) : Node → Prop where
  | intro {node : Node} (here : property node)
      (below : ∀ child ∈ node.children, Everywhere property child) : Everywhere property node

namespace Everywhere

variable {property : Node → Prop}

theorem here {node : Node} (everywhere : Everywhere property node) : property node := by
  cases everywhere with
  | intro here _ => exact here

theorem of_mem_children {site child : Site} (everywhere : Everywhere property site.node)
    (isChild : child ∈ site.children) : Everywhere property child.node := by
  obtain ⟨index, node, found, rfl⟩ := Site.mem_children_iff.mp isChild
  cases everywhere with
  | intro _ below => exact below node (List.mem_of_getElem? found)

theorem of_mem_walk {stops : Kind → Bool} {start site : Site}
    (everywhere : Everywhere property start.node) (member : site ∈ start.walk stops) :
    Everywhere property site.node := by
  induction start using Site.induction_children with
  | step start ih =>
    obtain ⟨child, isChild, same⟩ := Site.mem_walk_step.mp member
    have ofChild := everywhere.of_mem_children isChild
    rcases same with rfl | ⟨_, below⟩
    · exact ofChild
    · exact ih child isChild ofChild below

theorem of_walk {start : Site} (here : property start.node)
    (below : ∀ site ∈ start.below, property site.node) : Everywhere property start.node := by
  induction start using Site.induction_children with
  | step start ih =>
    refine .intro here fun child isChild => ?_
    obtain ⟨index, found⟩ := List.mem_iff_getElem?.mp isChild
    have isSite : start.descend index child ∈ start.children :=
      Site.mem_children_iff.mpr ⟨index, child, found, rfl⟩
    refine ih _ isSite ?_ fun site member => ?_
    · exact below _ (Site.mem_walk_step.mpr ⟨_, isSite, .inl rfl⟩)
    · exact below _ (Site.mem_walk_step.mpr ⟨_, isSite, .inr ⟨rfl, member⟩⟩)

theorem iff_walk {tree : Node} :
    Everywhere property tree ↔
      property tree ∧ ∀ site ∈ (Site.root tree).below, property site.node := by
  constructor
  · intro everywhere
    have ofRoot : Everywhere property (Site.root tree).node := everywhere
    exact ⟨everywhere.here, fun site member => (ofRoot.of_mem_walk member).here⟩
  · rintro ⟨here, below⟩
    have ofRoot : Everywhere property (Site.root tree).node := of_walk here below
    exact ofRoot

end Everywhere

instance {property : Node → Prop} [DecidablePred property] :
    DecidablePred (Everywhere property) :=
  fun _ => decidable_of_iff _ Everywhere.iff_walk.symm

def Encloses (node : Node) : Prop :=
  node.start ≤ node.stop ∧ ∀ child ∈ node.children, child.isWithin node = true

instance : DecidablePred Encloses :=
  fun node => inferInstanceAs (Decidable (node.start ≤ node.stop ∧ _))

/-- Every node lies inside the byte range of its parent. -/
def Nested : Node → Prop :=
  Everywhere Encloses

instance : DecidablePred Nested :=
  inferInstanceAs (DecidablePred (Everywhere Encloses))

end Node

namespace Site

theorem within_of_mem_children {site child : Site} (nested : site.node.Nested)
    (isChild : child ∈ site.children) :
    site.node.start ≤ child.node.start ∧ child.node.stop ≤ site.node.stop := by
  obtain ⟨index, node, found, rfl⟩ := mem_children_iff.mp isChild
  have inside := nested.here.2 node (List.mem_of_getElem? found)
  simpa [Node.isWithin] using inside

theorem within_of_mem_walk {stops : Kind → Bool} {start site : Site} (nested : start.node.Nested)
    (member : site ∈ start.walk stops) :
    start.node.start ≤ site.node.start ∧ site.node.stop ≤ start.node.stop := by
  induction start using induction_children with
  | step start ih =>
    obtain ⟨child, isChild, same⟩ := mem_walk_step.mp member
    have inParent := within_of_mem_children nested isChild
    rcases same with rfl | ⟨_, below⟩
    · exact inParent
    · have inChild := ih child isChild (nested.of_mem_children isChild) below
      omega

end Site

/-- The lines of a node are those of its first byte and of the byte behind it. -/
def Node.IsPlaced (source : Source) (node : Node) : Prop :=
  node.line = source.lineAt node.start ∧ node.endLine = source.lineAt node.stop

theorem Node.placed_of_mem_attached {source : Source} {entries : List Entry} {node : Node}
    (member : node ∈ entries.foldr (Entry.attach source) []) :
    node.Everywhere (IsPlaced source) := by
  induction entries generalizing node with
  | nil => cases member
  | cons entry rest ih =>
    rcases List.mem_cons.mp member with rfl | later
    · -- The children are the first of the nodes that the later entries make.
      refine .intro ⟨rfl, rfl⟩ fun child isChild => ?_
      exact ih (List.mem_of_mem_take isChild)
    · exact ih (List.mem_of_mem_drop later)

/-- All nodes of a tree that is read from a source have their lines from it. -/
theorem Node.placed_of_ofPreorder? {source : Source} {entries : List Entry} {tree : Node}
    (read : ofPreorder? source entries = some tree) : tree.Everywhere (IsPlaced source) := by
  unfold ofPreorder? at read
  split at read
  next only attached =>
    cases read
    exact placed_of_mem_attached (by rw [attached]; exact List.mem_cons_self ..)
  next => cases read

namespace Site

/-- The line is one of the lines of the node. -/
def Covers (site : Site) (line : Int) : Prop :=
  site.line ≤ line ∧ line ≤ site.node.endLine

instance (site : Site) (line : Int) : Decidable (site.Covers line) :=
  inferInstanceAs (Decidable (_ ∧ _))

variable {source : Source} {start : Site}

theorem covers_own_line (placed : start.node.Everywhere (Node.IsPlaced source))
    (nested : start.node.Nested) : start.Covers start.line := by
  refine ⟨Int.le_refl _, Int.ofNat_le.mpr ?_⟩
  rw [line, placed.here.1, placed.here.2]
  exact source.lineAt_mono nested.here.1

theorem covers_of_mem_walk {stops : Kind → Bool} {site : Site}
    (placed : start.node.Everywhere (Node.IsPlaced source)) (nested : start.node.Nested)
    (member : site ∈ start.walk stops) : start.Covers site.line := by
  obtain ⟨afterStart, beforeStop⟩ := within_of_mem_walk nested member
  have forward := (nested.of_mem_walk member).here.1
  have sitePlaced := (placed.of_mem_walk member).here
  constructor
  · rw [Int.ofNat_le, line, line, placed.here.1, sitePlaced.1]
    exact source.lineAt_mono afterStart
  · rw [Int.ofNat_le, line, placed.here.2, sitePlaced.1]
    exact source.lineAt_mono (Nat.le_trans forward beforeStop)

end Site

end JavaAudit
