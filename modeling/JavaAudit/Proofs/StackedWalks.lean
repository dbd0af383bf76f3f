import Mathlib.Logic.Relation
import JavaAudit.Tree.Site

/-! Walks by a stack.

A walk needs no recursion. A stack holds what is still to be visited: the rest of the siblings on
every level that was entered, in reverse, so that the next node is always the last one. Main
statement: the stack gives the nodes of the walk, each once and in document order. These are the
nodes below the start, less those with a stopping node in between. -/

set_option autoImplicit false

namespace JavaAudit.Site

/-- Take the last node off the stack. Unless the walk stops there, its children come in its place,
the first of them last. -/
def visitNext? (stops : Kind → Bool) (stack : List Site) : Option (Site × List Site) :=
  stack.getLast?.map fun current =>
    (current, stack.dropLast ++ if stops current.kind then [] else current.children.reverse)

theorem visitNext?_eq_none_iff {stops : Kind → Bool} {stack : List Site} :
    visitNext? stops stack = none ↔ stack = [] := by
  rw [visitNext?, Option.map_eq_none_iff, List.getLast?_eq_none_iff]

theorem visitNext?_eq_some_iff {stops : Kind → Bool} {stack rest : List Site} {current : Site} :
    visitNext? stops stack = some (current, rest) ↔
      ∃ under, stack = under ++ [current] ∧
        rest = under ++ if stops current.kind then [] else current.children.reverse := by
  rw [visitNext?, Option.map_eq_some_iff]
  constructor
  · rintro ⟨last, isLast, same⟩
    obtain ⟨under, rfl⟩ := List.getLast?_eq_some_iff.mp isLast
    obtain ⟨rfl, rfl⟩ := Prod.mk.inj same
    exact ⟨under, rfl, by rw [List.dropLast_concat]⟩
  · rintro ⟨under, rfl, rfl⟩
    exact ⟨current, List.getLast?_concat .., by rw [List.dropLast_concat]⟩

def nodeCount (stack : List Site) : Nat :=
  (stack.flatMap fun site => site :: site.below).length

theorem nodeCount_append (under top : List Site) :
    nodeCount (under ++ top) = nodeCount under + nodeCount top := by
  rw [nodeCount, List.flatMap_append, List.length_append]
  rfl

theorem nodeCount_reverse (stack : List Site) : nodeCount stack.reverse = nodeCount stack :=
  ((List.reverse_perm stack).flatMap_right _).length_eq

theorem nodeCount_children (site : Site) : nodeCount site.children = site.below.length := by
  rw [below, walk_eq]
  rfl

theorem nodeCount_visitNext?_lt {stops : Kind → Bool} {stack rest : List Site} {current : Site}
    (step : visitNext? stops stack = some (current, rest)) : nodeCount rest < nodeCount stack := by
  -- A step takes one node away and puts no more in its place than stand below it.
  obtain ⟨under, rfl, rfl⟩ := visitNext?_eq_some_iff.mp step
  have taken : nodeCount [current] = current.below.length + 1 := by
    rw [nodeCount, List.flatMap_singleton, List.length_cons]
  rw [nodeCount_append, nodeCount_append, taken]
  split
  · exact Nat.add_lt_add_left (Nat.succ_pos _) _
  · rw [nodeCount_reverse, nodeCount_children]
    exact Nat.add_lt_add_left (Nat.lt_succ_self _) _

def visits (stops : Kind → Bool) (stack : List Site) : List Site :=
  match _step : visitNext? stops stack with
  | none => []
  | some (current, rest) => current :: visits stops rest
termination_by nodeCount stack
decreasing_by exact nodeCount_visitNext?_lt _step

def walkByStack (stops : Kind → Bool) (start : Site) : List Site :=
  visits stops start.children.reverse

/-- What a walk has still to list when the stack is given: the nodes on the stack, the last one
first, each followed by the walk below it unless the node stops it. -/
def remaining (stops : Kind → Bool) (stack : List Site) : List Site :=
  stack.reverse.flatMap fun site => site :: if stops site.kind then [] else site.walk stops

/-- A step gives the first of the remaining nodes and leaves the others. -/
theorem remaining_step {stops : Kind → Bool} {stack rest : List Site} {current : Site}
    (step : visitNext? stops stack = some (current, rest)) :
    remaining stops stack = current :: remaining stops rest := by
  obtain ⟨under, rfl, rfl⟩ := visitNext?_eq_some_iff.mp step
  unfold remaining
  rw [List.reverse_append, List.reverse_singleton, List.singleton_append, List.flatMap_cons,
    List.reverse_append, List.flatMap_append, List.cons_append]
  congr 2
  -- The children come back in their order, which is that of the walk below the node.
  split
  · rfl
  · rw [List.reverse_reverse, walk_eq]

theorem visits_eq_remaining (stops : Kind → Bool) (stack : List Site) :
    visits stops stack = remaining stops stack := by
  fun_induction visits stops stack with
  | case1 stack done =>
    rw [visitNext?_eq_none_iff.mp done]
    rfl
  | case2 stack current rest step ih => rw [remaining_step step, ih]

theorem walkByStack_eq_walk (stops : Kind → Bool) (start : Site) :
    start.walkByStack stops = start.walk stops := by
  rw [walkByStack, visits_eq_remaining, remaining, List.reverse_reverse, walk_eq]

def IsAbove (start site : Site) : Prop :=
  Relation.TransGen (fun parent child => child ∈ parent.children) start site

def IsOpenTo (stops : Kind → Bool) (start site : Site) : Prop :=
  start.IsAbove site ∧
    ∀ middle, start.IsAbove middle → middle.IsAbove site → stops middle.kind = false

theorem IsAbove.above_eq {start site : Site} (under : start.IsAbove site) :
    ∃ between index, site.above = between ++ ⟨start.node, index⟩ :: start.above := by
  induction under with
  | single isChild =>
    obtain ⟨index, above⟩ := above_of_mem_children isChild
    exact ⟨[], index, above⟩
  | tail _ isChild ih =>
    obtain ⟨between, index, above⟩ := ih
    obtain ⟨last, childAbove⟩ := above_of_mem_children isChild
    exact ⟨_ :: between, index, by rw [childAbove, above, List.cons_append]⟩

theorem isAbove_of_mem_walk {stops : Kind → Bool} {start site : Site}
    (member : site ∈ start.walk stops) : start.IsAbove site := by
  induction start using induction_children with
  | step start ih =>
    obtain ⟨child, isChild, rfl | ⟨_, below⟩⟩ := mem_walk_step.mp member
    · exact .single isChild
    · exact .head isChild (ih child isChild below)

def between (start site : Site) : List Ancestor :=
  site.above.take (site.above.length - (start.above.length + 1))

theorem between_eq {start site : Site} {inner : List Ancestor} {index : Nat}
    (above : site.above = inner ++ ⟨start.node, index⟩ :: start.above) :
    start.between site = inner := by
  have count : site.above.length - (start.above.length + 1) = inner.length := by
    rw [above, List.length_append, List.length_cons, Nat.add_sub_cancel]
  rw [between, count, above, List.take_left]

/-- A walk lists exactly the nodes below its start with no stopping node in between. -/
theorem mem_walk_iff_isOpenTo {stops : Kind → Bool} {start site : Site} :
    site ∈ start.walk stops ↔ start.IsOpenTo stops site := by
  constructor
  · intro member
    refine ⟨isAbove_of_mem_walk member, fun middle belowStart aboveSite => ?_⟩
    -- The node in between is one of the ancestors that the walk has passed.
    obtain ⟨passed, index, above, free⟩ := reaches_of_mem_walk member
    obtain ⟨upper, first, middleAbove⟩ := belowStart.above_eq
    obtain ⟨lower, position, siteAbove⟩ := aboveSite.above_eq
    have split : site.above = (lower ++ ⟨middle.node, position⟩ :: upper) ++
        ⟨start.node, first⟩ :: start.above := by
      rw [siteAbove, middleAbove, List.append_assoc, List.cons_append]
    have same := (between_eq above).symm.trans (between_eq split)
    exact free ⟨middle.node, position⟩ (by simp [same])
  · rintro ⟨under, free⟩
    induction under using Relation.TransGen.head_induction_on with
    | single isChild => exact mem_walk_step.mpr ⟨site, isChild, .inl rfl⟩
    | @head start child isChild under ih =>
      have entered := free child (.single isChild) under
      have below := ih fun middle belowChild => free middle (.head isChild belowChild)
      exact mem_walk_step.mpr ⟨child, isChild, .inr ⟨entered, below⟩⟩

/-- Is there no stopping node between the start and a site below it? -/
def freeBetween (stops : Kind → Bool) (start site : Site) : Bool :=
  (start.between site).all fun ancestor => !stops ancestor.node.kind

theorem freeBetween_child {stops : Kind → Bool} {start child : Site}
    (isChild : child ∈ start.children) : freeBetween stops start child = true := by
  obtain ⟨index, above⟩ := above_of_mem_children isChild
  have none : start.between child = [] := between_eq above
  rw [freeBetween, none, List.all_nil]

theorem freeBetween_of_child {stops : Kind → Bool} {start child site : Site}
    (isChild : child ∈ start.children) (member : site ∈ child.below) :
    freeBetween stops start site = (freeBetween stops child site && !stops child.kind) := by
  obtain ⟨inner, index, above⟩ := (isAbove_of_mem_walk member).above_eq
  obtain ⟨position, childAbove⟩ := above_of_mem_children isChild
  have longer : site.above = (inner ++ [⟨child.node, index⟩]) ++
      ⟨start.node, position⟩ :: start.above := by
    rw [above, childAbove, List.append_assoc, List.singleton_append]
  rw [freeBetween, freeBetween, between_eq above, between_eq longer, List.all_append, List.all_cons,
    List.all_nil, Bool.and_true]
  rfl

theorem walk_eq_filter_below (stops : Kind → Bool) (start : Site) :
    start.walk stops = start.below.filter (freeBetween stops start) := by
  induction start using induction_children with
  | step start ih =>
    rw [below, walk_eq, walk_eq, List.filter_flatMap]
    refine congrArg List.flatten (List.map_congr_left fun child isChild => ?_)
    rw [List.filter_cons, freeBetween_child isChild, if_neg Bool.false_ne_true]
    change _ = child :: child.below.filter (freeBetween stops start)
    congr 1
    have seen : child.below.filter (freeBetween stops start) =
        child.below.filter fun site => freeBetween stops child site && !stops child.kind :=
      List.filter_congr fun site member => freeBetween_of_child isChild member
    rw [seen]
    split
    next stopping => simp [stopping]
    next entered => simp [entered, ih child isChild]

/-- A stack that takes its last node off and puts the children of that node on in reverse, unless
the walk stops there, gives the nodes of the walk. These are the nodes below the start with no
stopping node in between, each once and in document order: what is left of all nodes below it
without the others. So a search that stops somewhere finds a part of what it finds otherwise, in the
same order. -/
theorem stack_lists_open_nodes (stops : Kind → Bool) (start : Site) :
    start.walkByStack stops = start.walk stops ∧
      start.walkByStack stops = start.below.filter (freeBetween stops start) ∧
      (∀ site, site ∈ start.walkByStack stops ↔ start.IsOpenTo stops site) ∧
      (start.walkByStack stops).Nodup ∧
      ((start.walkByStack stops).Pairwise fun left right => left.position < right.position) ∧
      ∀ wanted : Kind → Bool,
        ((start.walkByStack stops).filter (wanted ·.kind)).Sublist (start.findBelow wanted) := by
  rw [walkByStack_eq_walk]
  refine ⟨rfl, walk_eq_filter_below stops start, fun _ => mem_walk_iff_isOpenTo,
    walk_nodup stops start, walk_ascending stops start, fun wanted => ?_⟩
  rw [walk_eq_filter_below]
  exact List.filter_sublist.filter _

end JavaAudit.Site
