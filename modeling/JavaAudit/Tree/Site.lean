import JavaAudit.Tree.Node

/-! Nodes at their place in a tree, and walks over the tree.

A site pairs a node with its ancestors, so questions about what encloses a node are questions
about a list. Each ancestor knows which of its children leads down, so equal sites are one place.
A walk lists each node it reaches once, in document order, and reaches exactly the nodes below its
start with no stopping node in between. Document order is the lexicographic order of positions, so
a node comes before the nodes below it. -/

set_option autoImplicit false

namespace JavaAudit

/-- A node above another, with the index of its child on the way down. -/
structure Ancestor where
  node : Node
  index : Nat
  deriving Repr

structure Site where
  node : Node
  /-- The ancestors, parent first. -/
  above : List Ancestor
  deriving Repr

namespace Site

def root (node : Node) : Site :=
  ⟨node, []⟩

def kind (site : Site) : Kind :=
  site.node.kind

def text (site : Site) : String :=
  site.node.text

def line (site : Site) : Nat :=
  site.node.line

def parent? (site : Site) : Option Site :=
  match site.above with
  | [] => none
  | parent :: rest => some ⟨parent.node, rest⟩

def ancestorsOf : List Ancestor → List Site
  | [] => []
  | ancestor :: rest => ⟨ancestor.node, rest⟩ :: ancestorsOf rest

def ancestors (site : Site) : List Site :=
  ancestorsOf site.above

def descend (site : Site) (index : Nat) (child : Node) : Site :=
  ⟨child, ⟨site.node, index⟩ :: site.above⟩

def children (site : Site) : List Site :=
  site.node.children.mapIdx site.descend

def namedChildren (site : Site) : List Site :=
  site.children.filter (·.node.named)

def parts (site : Site) : List Site :=
  site.children.filter (·.node.isPart)

def child? (site : Site) (role : Role) : Option Site :=
  site.children.find? (·.node.role == some role)

def childrenIn (site : Site) (role : Role) : List Site :=
  site.children.filter (·.node.role == some role)

def childText (site : Site) (role : Role) : String :=
  textOf (site.node.child? role)

mutual

/-- Strict descendants in document order; a node at which the walk stops is listed, not entered. -/
def walkNode (stops : Kind → Bool) (above : List Ancestor) : Node → List Site
  | .node label children => walkAll stops ⟨.node label children, above⟩ 0 children

/-- The part of a walk that starts at the child of the given index. -/
def walkAll (stops : Kind → Bool) (parent : Site) (index : Nat) : List Node → List Site
  | [] => []
  | child :: rest =>
    let site := parent.descend index child
    site ::
      ((if stops child.kind then [] else walkNode stops site.above child) ++
        walkAll stops parent (index + 1) rest)

end

def walk (stops : Kind → Bool) (site : Site) : List Site :=
  walkNode stops site.above site.node

def below (site : Site) : List Site :=
  site.walk fun _ => false

/-- The strict descendants outside the bodies of nested types. -/
def scope (site : Site) : List Site :=
  site.walk Kind.isTypeBody

def findBelow (site : Site) (wanted : Kind → Bool) : List Site :=
  site.below.filter (wanted ·.kind)

def nearest? (wanted stops : Kind → Bool) : List Site → Option Site
  | [] => none
  | site :: rest =>
    if wanted site.kind then some site
    else if stops site.kind then none
    else nearest? wanted stops rest

/-- The nearest ancestor of a wanted kind, unless a stopping kind comes first. -/
def enclosing? (site : Site) (wanted stops : Kind → Bool) : Option Site :=
  nearest? wanted stops site.ancestors

def upTo (stops : Kind → Bool) : List Site → List Site
  | [] => []
  | site :: rest => if stops site.kind then [site] else site :: upTo stops rest

def ancestorsUpTo (site : Site) (stops : Kind → Bool) : List Site :=
  upTo stops site.ancestors

def enclosingMethod? (site : Site) : Option Site :=
  site.enclosing? Kind.isMethod Kind.isTypeBody

def enclosingStatement? (site : Site) : Option Site :=
  if site.kind.isStatement then some site
  else site.enclosing? Kind.isStatement fun _ => false

/-- Is the site inside a loop of its own method? -/
def isInsideLoop (site : Site) : Bool :=
  (site.enclosing? Kind.isLoop fun kind => kind.isTypeBody || kind.isMethod).isSome

def owner? (site : Site) : Option Site :=
  site.enclosing? Kind.isTypeDeclaration fun _ => false

/-- The indices of the children on the way down from the root. -/
def position (site : Site) : List Nat :=
  (site.above.map (·.index)).reverse

/-- Does each ancestor of the list lead by its child to the one before it, the first to the
node? -/
def Leads : List Ancestor → Node → Prop
  | [], _ => True
  | ancestor :: rest, node =>
    ancestor.node.children[ancestor.index]? = some node ∧ Leads rest ancestor.node

@[simp] theorem descend_node (site : Site) (index : Nat) (child : Node) :
    (site.descend index child).node = child := rfl

@[simp] theorem descend_above (site : Site) (index : Nat) (child : Node) :
    (site.descend index child).above = ⟨site.node, index⟩ :: site.above := rfl

@[simp] theorem descend_position (site : Site) (index : Nat) (child : Node) :
    (site.descend index child).position = site.position ++ [index] := by
  simp [position]

theorem mem_children_iff {site child : Site} :
    child ∈ site.children ↔
      ∃ index node, site.node.children[index]? = some node ∧ child = site.descend index node := by
  simp only [children, List.mem_mapIdx, List.getElem?_eq_some_iff]
  constructor
  · rintro ⟨index, bound, rfl⟩
    exact ⟨index, _, ⟨bound, rfl⟩, rfl⟩
  · rintro ⟨index, node, ⟨bound, rfl⟩, rfl⟩
    exact ⟨index, bound, rfl⟩

theorem above_of_mem_children {site child : Site} (member : child ∈ site.children) :
    ∃ index, child.above = ⟨site.node, index⟩ :: site.above := by
  obtain ⟨index, node, _, rfl⟩ := mem_children_iff.mp member
  exact ⟨index, rfl⟩

theorem size_of_mem_children {site child : Site} (member : child ∈ site.children) :
    sizeOf child.node < sizeOf site.node := by
  obtain ⟨index, node, found, rfl⟩ := mem_children_iff.mp member
  have inside := List.sizeOf_lt_of_mem (List.mem_of_getElem? found)
  obtain ⟨⟨label, nodes⟩, above⟩ := site
  simp only [Node.children, descend_node, Node.node.sizeOf_spec] at inside ⊢
  omega

theorem induction_children {motive : Site → Prop}
    (step : ∀ site, (∀ child ∈ site.children, motive child) → motive site) (site : Site) :
    motive site :=
  step site fun child member =>
    have := size_of_mem_children member
    induction_children step child
termination_by sizeOf site.node

theorem walkAll_eq (stops : Kind → Bool) (parent : Site) (index : Nat) (nodes : List Node) :
    walkAll stops parent index nodes =
      (nodes.mapIdx fun offset => parent.descend (index + offset)).flatMap fun child =>
        child :: if stops child.kind then [] else child.walk stops := by
  induction nodes generalizing index with
  | nil => rfl
  | cons node rest ih =>
    have shifted : (fun offset => parent.descend (index + 1 + offset)) =
        fun offset => parent.descend (index + (offset + 1)) := by
      funext offset
      rw [Nat.add_right_comm, Nat.add_assoc]
    simp only [walkAll, ih, shifted, List.mapIdx_cons, List.flatMap_cons, Nat.add_zero,
      List.cons_append]
    rfl

theorem walk_eq (stops : Kind → Bool) (site : Site) :
    site.walk stops = site.children.flatMap fun child =>
      child :: if stops child.kind then [] else child.walk stops := by
  obtain ⟨⟨label, nodes⟩, above⟩ := site
  simp only [walk, walkNode, walkAll_eq, Nat.zero_add]
  rfl

theorem walk_map {change : Site → Site} (kinds : ∀ site, (change site).kind = site.kind)
    (children : ∀ site, (change site).children = site.children.map change)
    (stops : Kind → Bool) (start : Site) :
    (change start).walk stops = (start.walk stops).map change := by
  induction start using induction_children with
  | step start ih =>
    rw [walk_eq, walk_eq, children, List.flatMap_map, List.map_flatMap]
    refine congrArg List.flatten (List.map_congr_left fun child isChild => ?_)
    rw [kinds, ih child isChild, List.map_cons]
    split <;> rfl

theorem mem_walk_step {stops : Kind → Bool} {start site : Site} :
    site ∈ start.walk stops ↔
      ∃ child ∈ start.children,
        site = child ∨ stops child.kind = false ∧ site ∈ child.walk stops := by
  rw [walk_eq]
  simp only [List.mem_flatMap, List.mem_cons]
  refine exists_congr fun child => and_congr_right fun _ => or_congr_right ?_
  cases stops child.kind <;> simp

/-- The site is below the start, and no stopping node stands between them. -/
def Reaches (stops : Kind → Bool) (start site : Site) : Prop :=
  ∃ between index, site.above = between ++ ⟨start.node, index⟩ :: start.above ∧
    ∀ ancestor ∈ between, stops ancestor.node.kind = false

theorem reaches_child {stops : Kind → Bool} {start child : Site}
    (isChild : child ∈ start.children) : start.Reaches stops child := by
  obtain ⟨index, above⟩ := above_of_mem_children isChild
  exact ⟨[], index, by rw [above, List.nil_append], by simp⟩

theorem reaches_of_child {stops : Kind → Bool} {start child site : Site}
    (isChild : child ∈ start.children) (entered : stops child.kind = false)
    (reaches : child.Reaches stops site) : start.Reaches stops site := by
  obtain ⟨between, inner, above, free⟩ := reaches
  obtain ⟨index, childAbove⟩ := above_of_mem_children isChild
  refine ⟨between ++ [⟨child.node, inner⟩], index, ?_, ?_⟩
  · rw [above, childAbove, List.append_assoc, List.singleton_append]
  · intro ancestor member
    rcases List.mem_append.mp member with inBetween | isLast
    · exact free ancestor inBetween
    · rw [List.mem_singleton.mp isLast]
      exact entered

theorem reaches_of_mem_walk {stops : Kind → Bool} {start site : Site}
    (member : site ∈ start.walk stops) : start.Reaches stops site := by
  induction start using induction_children with
  | step start ih =>
    obtain ⟨child, isChild, rfl | ⟨entered, below⟩⟩ := mem_walk_step.mp member
    · exact reaches_child isChild
    · exact reaches_of_child isChild entered (ih child isChild below)

theorem leads_of_mem_walk {stops : Kind → Bool} {start site : Site}
    (linked : Leads start.above start.node) (member : site ∈ start.walk stops) :
    Leads site.above site.node := by
  induction start using induction_children with
  | step start ih =>
    obtain ⟨child, isChild, same⟩ := mem_walk_step.mp member
    have childLinked : Leads child.above child.node := by
      obtain ⟨index, node, found, rfl⟩ := mem_children_iff.mp isChild
      exact ⟨found, linked⟩
    rcases same with rfl | ⟨_, below⟩
    · exact childLinked
    · exact ih child isChild childLinked below

theorem walk_trans {stops : Kind → Bool} {start middle site : Site}
    (reached : middle ∈ start.walk stops) (entered : stops middle.kind = false)
    (member : site ∈ middle.walk stops) : site ∈ start.walk stops := by
  induction start using induction_children with
  | step start ih =>
    obtain ⟨child, isChild, same | ⟨childEntered, below⟩⟩ := mem_walk_step.mp reached
    · subst same
      exact mem_walk_step.mpr ⟨middle, isChild, .inr ⟨entered, member⟩⟩
    · exact mem_walk_step.mpr ⟨child, isChild, .inr ⟨childEntered, ih child isChild below⟩⟩

theorem mem_walk_of_leads {stops : Kind → Bool} {start site : Site} {between : List Ancestor}
    {index : Nat} (above : site.above = between ++ ⟨start.node, index⟩ :: start.above)
    (linked : Leads site.above site.node)
    (free : ∀ ancestor ∈ between, stops ancestor.node.kind = false) :
    site ∈ start.walk stops := by
  -- The parent is reached first; its own path up is shorter by one ancestor.
  induction between generalizing site with
  | nil =>
    obtain ⟨node, siteAbove⟩ := site
    subst above
    have isChild : start.descend index node ∈ start.children :=
      mem_children_iff.mpr ⟨index, node, linked.1, rfl⟩
    exact mem_walk_step.mpr ⟨_, isChild, .inl rfl⟩
  | cons parent between ih =>
    obtain ⟨node, siteAbove⟩ := site
    subst above
    let parentSite : Site := ⟨parent.node, between ++ ⟨start.node, index⟩ :: start.above⟩
    have reached : parentSite ∈ start.walk stops :=
      ih rfl linked.2 fun ancestor member => free ancestor (List.mem_cons_of_mem _ member)
    have isChild : parentSite.descend parent.index node ∈ parentSite.children :=
      mem_children_iff.mpr ⟨parent.index, node, linked.1, rfl⟩
    exact walk_trans reached (free parent (List.mem_cons_self ..))
      (mem_walk_step.mpr ⟨_, isChild, .inl rfl⟩)

/-- A walk from a site of a tree lists exactly the sites of the tree that it reaches. -/
theorem mem_walk_iff {stops : Kind → Bool} {start site : Site}
    (linked : Leads start.above start.node) :
    site ∈ start.walk stops ↔ Leads site.above site.node ∧ start.Reaches stops site := by
  constructor
  · intro member
    exact ⟨leads_of_mem_walk linked member, reaches_of_mem_walk member⟩
  · rintro ⟨siteLinked, between, index, above, free⟩
    exact mem_walk_of_leads above siteLinked free

theorem position_of_mem_walk {stops : Kind → Bool} {start site : Site}
    (member : site ∈ start.walk stops) :
    ∃ index rest, site.position = start.position ++ index :: rest := by
  obtain ⟨between, index, above, _⟩ := reaches_of_mem_walk member
  exact ⟨index, (between.map (·.index)).reverse, by simp [position, above]⟩

theorem children_ascending (site : Site) :
    site.children.Pairwise fun left right =>
      ∃ first second, first < second ∧ left.position = site.position ++ [first] ∧
        right.position = site.position ++ [second] := by
  rw [List.pairwise_iff_getElem]
  intro first second firstBound secondBound before
  exact ⟨first, second, before, by simp [children], by simp [children]⟩

theorem position_of_mem_block {stops : Kind → Bool} {child site : Site}
    (member : site ∈ child :: if stops child.kind then [] else child.walk stops) :
    ∃ rest, site.position = child.position ++ rest := by
  rcases List.mem_cons.mp member with rfl | below
  · exact ⟨[], by simp⟩
  · split at below
    · cases below
    · obtain ⟨index, rest, same⟩ := position_of_mem_walk below
      exact ⟨index :: rest, same⟩

/-- A walk is in document order. -/
theorem walk_ascending (stops : Kind → Bool) (start : Site) :
    (start.walk stops).Pairwise fun left right => left.position < right.position := by
  induction start using induction_children with
  | step start ih =>
    -- The nodes of one child share its position as a prefix, and children ascend by their index.
    rw [walk_eq, List.pairwise_flatMap]
    constructor
    · intro child isChild
      rw [List.pairwise_cons]
      constructor
      · intro site member
        split at member
        · cases member
        · obtain ⟨index, rest, same⟩ := position_of_mem_walk member
          have extended : child.position ++ [] < child.position ++ index :: rest :=
            List.append_left_lt (List.nil_lt_cons index rest)
          rwa [List.append_nil, ← same] at extended
      · split
        · exact .nil
        · exact ih child isChild
    · refine (children_ascending start).imp ?_
      rintro left right ⟨first, second, before, leftPosition, rightPosition⟩
      intro site member other otherMember
      obtain ⟨rest, same⟩ := position_of_mem_block member
      obtain ⟨otherRest, otherSame⟩ := position_of_mem_block otherMember
      rw [same, otherSame, leftPosition, rightPosition, List.append_assoc, List.append_assoc]
      exact List.append_left_lt (List.cons_lt_cons_iff.mpr (.inl before))

theorem walk_nodup (stops : Kind → Bool) (start : Site) : (start.walk stops).Nodup := by
  refine (walk_ascending stops start).imp ?_
  rintro left right before rfl
  exact List.lt_irrefl _ before

theorem mem_findBelow {start site : Site} {wanted : Kind → Bool} :
    site ∈ start.findBelow wanted ↔ site ∈ start.below ∧ wanted site.kind = true := by
  simp [findBelow]

theorem nearest?_map {change : Site → Site} (kinds : ∀ site, (change site).kind = site.kind)
    (wanted stops : Kind → Bool) (sites : List Site) :
    nearest? wanted stops (sites.map change) = (nearest? wanted stops sites).map change := by
  induction sites with
  | nil => rfl
  | cons site rest ih =>
    rw [List.map_cons, nearest?, nearest?, kinds, ih]
    split
    · rfl
    · split <;> rfl

def IsBelow (site : Site) (tree : Node) : Prop :=
  Leads site.above site.node ∧ site.above.getLast?.map (·.node) = some tree

theorem mem_below_root_iff {tree : Node} {site : Site} :
    site ∈ (root tree).below ↔ site.IsBelow tree := by
  have linked : Leads (root tree).above (root tree).node := trivial
  rw [below, mem_walk_iff linked, IsBelow]
  refine and_congr_right fun _ => ?_
  constructor
  · rintro ⟨between, index, above, _⟩
    simp [above, root]
  · intro last
    obtain ⟨ancestor, isLast, rfl⟩ := Option.map_eq_some_iff.mp last
    obtain ⟨between, above⟩ := List.getLast?_eq_some_iff.mp isLast
    exact ⟨between, ancestor.index, above, fun _ _ => rfl⟩

theorem findBelow_ascending (start : Site) (wanted : Kind → Bool) :
    (start.findBelow wanted).Pairwise fun left right => left.position < right.position :=
  (walk_ascending _ start).filter _

theorem findBelow_nodup (start : Site) (wanted : Kind → Bool) : (start.findBelow wanted).Nodup :=
  (walk_nodup _ start).filter _

theorem mem_below_of_mem_children {root site child : Site} (inside : site ∈ root.below)
    (isChild : child ∈ site.children) : child ∈ root.below :=
  walk_trans inside rfl (mem_walk_step.mpr ⟨child, isChild, .inl rfl⟩)

theorem map_node_children (site : Site) : site.children.map (·.node) = site.node.children := by
  apply List.ext_getElem?
  intro index
  simp [Site.children, Function.comp_def]

theorem map_node_child? (site : Site) (role : Role) :
    (site.child? role).map (·.node) = site.node.child? role := by
  rw [child?, Node.child?, ← map_node_children, List.find?_map]
  rfl

theorem childText_eq_child? (site : Site) (role : Role) :
    site.childText role = ((site.child? role).map text).getD "" := by
  rw [childText, ← map_node_child?, textOf, Option.map_map]
  rfl

theorem parts_eq_filter (site : Site) :
    site.parts = site.namedChildren.filter (!·.kind.isComment) := by
  rw [parts, namedChildren, List.filter_filter]
  refine List.filter_congr fun child _ => ?_
  exact Bool.and_comm ..

theorem head?_parts {site : Site}
    (code : site.namedChildren.head?.any (·.kind.isComment) = false) :
    site.parts.head? = site.namedChildren.head? := by
  rw [parts_eq_filter]
  cases named : site.namedChildren with
  | nil => rfl
  | cons operand rest =>
    rw [named] at code
    rw [List.filter_cons_of_pos, List.head?_cons, List.head?_cons]
    simpa using code

theorem mem_scope_of_child {start site child : Site} (member : site ∈ start.scope)
    (entered : site.kind.isTypeBody = false) (isChild : child ∈ site.children) :
    child ∈ start.scope :=
  walk_trans member entered (mem_walk_step.mpr ⟨child, isChild, .inl rfl⟩)

theorem parent?_of_mem_children {site child : Site} (isChild : child ∈ site.children) :
    child.parent? = some site := by
  obtain ⟨index, above⟩ := above_of_mem_children isChild
  rw [parent?, above]

theorem map_node_namedChildren (site : Site) :
    site.namedChildren.map (·.node) = site.node.children.filter (·.named) := by
  rw [namedChildren, ← map_node_children, List.filter_map]
  rfl

theorem any_isComment_head? (site : Site) :
    site.namedChildren.head?.any (·.kind.isComment) =
      (site.node.children.find? (·.named)).any (·.kind.isComment) := by
  rw [← List.head?_filter, ← map_node_namedChildren, List.head?_map, Option.any_map]
  rfl

theorem children_append {site : Site} {first second : List Node}
    (nodes : site.node.children = first ++ second) :
    site.children = first.mapIdx site.descend ++
      second.mapIdx fun index => site.descend (index + first.length) := by
  rw [children, nodes, List.mapIdx_append]

theorem child?_of_node {site : Site} {role : Role} {node : Node}
    (found : site.node.child? role = some node) :
    ∃ child, site.child? role = some child ∧ child.node = node := by
  rw [← map_node_child?] at found
  exact Option.map_eq_some_iff.mp found

theorem child?_eq_some {site child : Site} {role : Role} (found : site.child? role = some child) :
    ∃ index node, site.node.children[index]? = some node ∧ node.role = some role ∧
      child = site.descend index node := by
  obtain ⟨index, node, inside, rfl⟩ := mem_children_iff.mp (List.mem_of_find?_eq_some found)
  exact ⟨index, node, inside, by simpa using List.find?_some found, rfl⟩

theorem map_node_firstPart (site : Site) :
    (site.children.find? (·.node.isPart)).map (·.node) = site.node.children.find? Node.isPart := by
  rw [← map_node_children, List.find?_map]
  rfl

theorem isStatement_of_isMethod {kind : Kind} (isMethod : kind.isMethod = true) :
    kind.isStatement = false := by
  cases kind <;> first | rfl | cases isMethod

theorem nearest?_eq_find? (wanted : Kind → Bool) (sites : List Site) :
    nearest? wanted (fun _ => false) sites = sites.find? (wanted ·.kind) := by
  induction sites with
  | nil => rfl
  | cons site rest ih =>
    rw [nearest?, ih, List.find?_cons]
    cases wanted site.kind <;> rfl

theorem nearest?_append_of_mem {wanted stops : Kind → Bool} {sites : List Site} {last : Site}
    (member : last ∈ sites) (ends : (wanted last.kind || stops last.kind) = true)
    (more : List Site) : nearest? wanted stops (sites ++ more) = nearest? wanted stops sites := by
  induction sites with
  | nil => cases member
  | cons site rest ih =>
    rw [List.cons_append, nearest?, nearest?]
    split
    next => rfl
    next unwanted =>
      split
      next => rfl
      next unstopped =>
        -- The search passes over this site, so another one is the last.
        refine ih ((List.mem_cons.mp member).resolve_left ?_)
        rintro rfl
        simp [unwanted, unstopped] at ends

theorem length_above_of_mem_ancestorsOf {above : List Ancestor} {ancestor : Site}
    (member : ancestor ∈ ancestorsOf above) : ancestor.above.length < above.length := by
  induction above with
  | nil => cases member
  | cons first rest ih =>
    rcases List.mem_cons.mp member with rfl | further
    · exact Nat.lt_succ_self _
    · exact Nat.lt_succ_of_lt (ih further)

theorem mem_ancestors_of_mem_walk {stops : Kind → Bool} {start site : Site}
    (member : site ∈ start.walk stops) : start ∈ site.ancestors := by
  obtain ⟨between, index, above, free⟩ := reaches_of_mem_walk member
  rw [ancestors, above]
  clear above free
  induction between with
  | nil => exact List.mem_cons_self ..
  | cons _ between ih => exact List.mem_cons_of_mem _ ih

theorem enclosingStatement?_eq_find? (site : Site) :
    site.enclosingStatement? = (site :: site.ancestors).find? (·.kind.isStatement) := by
  rw [enclosingStatement?, enclosing?, nearest?_eq_find?, List.find?_cons]
  cases site.kind.isStatement <;> rfl

theorem enclosingStatement?_of_isMethod {method : Node} (isMethod : method.kind.isMethod = true)
    (above : List Ancestor) :
    (Site.mk method above).enclosingStatement? =
      (ancestorsOf above).find? (·.kind.isStatement) := by
  have noStatement : (Site.mk method above).kind.isStatement = false :=
    isStatement_of_isMethod isMethod
  rw [enclosingStatement?_eq_find?, List.find?_cons, noStatement]
  rfl

theorem nearest?_of_free {wanted stops : Kind → Bool} {between : List Ancestor}
    (free : ∀ ancestor ∈ between, (wanted ancestor.node.kind || stops ancestor.node.kind) = false)
    (rest : List Ancestor) :
    nearest? wanted stops (ancestorsOf (between ++ rest)) =
      nearest? wanted stops (ancestorsOf rest) := by
  induction between with
  | nil => rfl
  | cons first between ih =>
    obtain ⟨unwanted, unstopped⟩ := Bool.or_eq_false_iff.mp (free first (List.mem_cons_self ..))
    simp only [List.cons_append, ancestorsOf, nearest?, kind, unwanted, unstopped]
    exact ih fun ancestor member => free ancestor (List.mem_cons_of_mem _ member)

theorem exists_stop_of_nearest?_eq_none {wanted stops : Kind → Bool}
    {between rest : List Ancestor} {outer : Ancestor} (isWanted : wanted outer.node.kind = true)
    (unreached : nearest? wanted stops (ancestorsOf (between ++ outer :: rest)) = none) :
    ∃ ancestor ∈ between, stops ancestor.node.kind = true := by
  induction between with
  | nil => simp [ancestorsOf, nearest?, kind, isWanted] at unreached
  | cons ancestor between ih =>
    by_cases isStop : stops ancestor.node.kind = true
    · exact ⟨ancestor, List.mem_cons_self .., isStop⟩
    · have further : nearest? wanted stops (ancestorsOf (between ++ outer :: rest)) = none := by
        by_cases headWanted : wanted ancestor.node.kind = true
        · simp [ancestorsOf, nearest?, kind, headWanted] at unreached
        · simpa [ancestorsOf, nearest?, kind, headWanted, isStop] using unreached
      obtain ⟨stop, member, stops⟩ := ih further
      exact ⟨stop, List.mem_cons_of_mem _ member, stops⟩

theorem mem_below_of_mem_walk {stops : Kind → Bool} {start site : Site}
    (member : site ∈ start.walk stops) : site ∈ start.below := by
  induction start using induction_children with
  | step start ih =>
    obtain ⟨child, isChild, same | ⟨_, further⟩⟩ := mem_walk_step.mp member
    · exact mem_walk_step.mpr ⟨child, isChild, .inl same⟩
    · exact mem_walk_step.mpr ⟨child, isChild, .inr ⟨rfl, ih child isChild further⟩⟩

theorem mem_below_or_of_mem_ancestors {start site ancestor : Site} (below : site ∈ start.below)
    (member : ancestor ∈ site.ancestors) :
    ancestor ∈ start.below ∨ ancestor ∈ start :: start.ancestors := by
  -- The child on the way to the site has the start as its only new ancestor.
  induction start using induction_children with
  | step start ih =>
    obtain ⟨child, isChild, same⟩ := mem_walk_step.mp below
    have path : child.ancestors = start :: start.ancestors := by
      obtain ⟨index, above⟩ := above_of_mem_children isChild
      rw [ancestors, above]
      rfl
    rcases same with rfl | ⟨_, further⟩
    · exact .inr (path ▸ member)
    · rcases ih child isChild further with ofChild | isAbove
      · exact .inl (mem_walk_step.mpr ⟨child, isChild, .inr ⟨rfl, ofChild⟩⟩)
      · rcases List.mem_cons.mp isAbove with rfl | aboveChild
        · exact .inl (mem_walk_step.mpr ⟨_, isChild, .inl rfl⟩)
        · exact .inr (path ▸ aboveChild)

theorem not_mem_below_of_mem_ancestors {site ancestor : Site}
    (member : ancestor ∈ site.ancestors) : ancestor ∉ site.below := by
  intro below
  obtain ⟨between, index, above, _⟩ := reaches_of_mem_walk below
  have shorter := length_above_of_mem_ancestorsOf member
  rw [above, List.length_append, List.length_cons] at shorter
  omega

def childrenFrom (parent : Site) (index : Nat) (nodes : List Node) : List Site :=
  nodes.mapIdx fun offset => parent.descend (index + offset)

theorem childrenFrom_cons (parent : Site) (index : Nat) (node : Node) (rest : List Node) :
    childrenFrom parent index (node :: rest) =
      parent.descend index node :: childrenFrom parent (index + 1) rest := by
  have later : (fun offset => parent.descend (index + (offset + 1))) =
      fun offset => parent.descend (index + 1 + offset) := by
    funext offset
    rw [Nat.add_assoc, Nat.add_comm 1]
  simp only [childrenFrom, List.mapIdx_cons, Nat.add_zero, later]

theorem childrenFrom_zero (site : Site) : childrenFrom site 0 site.node.children = site.children := by
  simp [childrenFrom, children]

end Site

end JavaAudit
