import Mathlib.Logic.Relation
import JavaAudit.Proofs.SelfConcatenation
import JavaAudit.Security.Flow

/-! Operands of sums.

A chain of additions is taken apart at every sum and every pair of parentheses until only operands
are left. Main statement: these are the operands of the chain from left to right, and they do not
depend on how the chain is grouped. So no rule that asks for a concatenation does. -/

set_option autoImplicit false

namespace JavaAudit

namespace Node

def isGroup (node : Node) : Bool :=
  node.kind == .parenthesizedExpression

def isSum (node : Node) : Bool :=
  node.kind == .binaryExpression && textOf (node.child? .operator) == "+"

def isOperand (node : Node) : Bool :=
  !node.isGroup && !node.isSum

theorem isOperand_iff {node : Node} :
    node.isOperand = true ↔ node.isGroup = false ∧ node.isSum = false := by
  simp [isOperand]

/-- The expressions that a group or a sum joins to a chain, as far as these are there. -/
def links (node : Node) : List Node :=
  if node.isGroup then (node.children.find? isPart).toList
  else if node.isSum then (node.child? .left).toList ++ (node.child? .right).toList
  else []

/-- No right operand stands in front of a left one. -/
def LeftFirst (node : Node) : Prop :=
  node.children.Pairwise fun first second => ¬(first.role = some .right ∧ second.role = some .left)

instance : DecidablePred LeftFirst :=
  fun _ => inferInstanceAs (Decidable (List.Pairwise _ _))

end Node

namespace Site

def links (site : Site) : List Site :=
  if site.node.isGroup then (site.children.find? (·.node.isPart)).toList
  else if site.node.isSum then (site.child? .left).toList ++ (site.child? .right).toList
  else []

/-- The second expression belongs to the chain of the first. -/
def Chains (whole part : Site) : Prop :=
  Relation.ReflTransGen (fun whole part => part ∈ whole.links) whole part

theorem mem_children_of_mem_links {site part : Site} (isLink : part ∈ site.links) :
    part ∈ site.children := by
  unfold links at isLink
  split_ifs at isLink
  · exact List.mem_of_find?_eq_some (Option.mem_toList.mp isLink)
  · rcases List.mem_append.mp isLink with isLeft | isRight
    · exact List.mem_of_find?_eq_some (Option.mem_toList.mp isLeft)
    · exact List.mem_of_find?_eq_some (Option.mem_toList.mp isRight)
  · cases isLink

theorem operandsOfFirst_eq_flatMap (sites : List Site) (wanted : Node → Bool) :
    operandsOfFirst sites wanted = (sites.find? (wanted ·.node)).toList.flatMap plusOperands := by
  unfold operandsOfFirst
  cases sites.find? (wanted ·.node) <;> simp

theorem plusOperands_eq_links (site : Site) :
    site.plusOperands =
      if site.node.isOperand then [site] else site.links.flatMap plusOperands := by
  have isGroup : (site.kind == .parenthesizedExpression) = site.node.isGroup := rfl
  have isSum : (site.kind == .binaryExpression && site.childText .operator == "+") =
      site.node.isSum := rfl
  rw [plusOperands_eq, isGroup, isSum, links, Node.isOperand]
  cases site.node.isGroup <;> cases site.node.isSum <;>
    simp [operandsOfFirst_eq_flatMap, child?]

/-- The operands are those expressions of the chain at which it ends. -/
theorem mem_plusOperands_iff {site operand : Site} :
    operand ∈ site.plusOperands ↔ site.Chains operand ∧ operand.node.isOperand = true := by
  -- Downwards by the recursion of the operands, upwards by the steps of the chain.
  constructor
  · intro member
    induction site using induction_children with
    | step site ih =>
      rw [plusOperands_eq_links] at member
      split at member
      next ends =>
        rw [List.mem_singleton.mp member]
        exact ⟨.refl, ends⟩
      next =>
        obtain ⟨part, isLink, ofPart⟩ := List.mem_flatMap.mp member
        obtain ⟨chains, ends⟩ := ih part (mem_children_of_mem_links isLink) ofPart
        exact ⟨.head isLink chains, ends⟩
  · rintro ⟨chains, ends⟩
    induction chains using Relation.ReflTransGen.head_induction_on with
    | refl => rw [plusOperands_eq_links, if_pos ends, List.mem_singleton]
    | @head whole part isLink _ ih =>
      have goesOn : whole.node.isOperand = false := by
        rw [Node.isOperand]
        unfold links at isLink
        split_ifs at isLink with isGroup isSum
        · rw [isGroup, Bool.not_true, Bool.false_and]
        · rw [isSum, Bool.not_true, Bool.and_false]
        · cases isLink
      rw [plusOperands_eq_links, goesOn, if_neg Bool.false_ne_true]
      exact List.mem_flatMap.mpr ⟨part, isLink, ih⟩

theorem plusOperands_of_mem {site operand : Site} (member : operand ∈ site.plusOperands) :
    operand.plusOperands = [operand] := by
  rw [plusOperands_eq_links, if_pos (mem_plusOperands_iff.mp member).2]

/-- The ways down to the two expressions part at a sum of the chain; the first one goes to the left
there and the second one to the right. -/
def LeftOf (whole first second : Site) : Prop :=
  ∃ sum left right : Site, whole.Chains sum ∧ sum.node.isSum = true ∧
    sum.child? .left = some left ∧ sum.child? .right = some right ∧
    left.Chains first ∧ right.Chains second

theorem LeftOf.of_link {site part first second : Site} (isLink : part ∈ site.links)
    (leftOf : part.LeftOf first second) : site.LeftOf first second := by
  obtain ⟨sum, left, right, chains, rest⟩ := leftOf
  exact ⟨sum, left, right, .head isLink chains, rest⟩

theorem links_leftToRight (site : Site) :
    site.links.Pairwise fun left right => site.node.isSum = true ∧
      site.child? .left = some left ∧ site.child? .right = some right := by
  have single : ∀ (part : Option Site) (related : Site → Site → Prop),
      part.toList.Pairwise related := by
    intro part related
    cases part <;> simp
  unfold links
  split_ifs with _ isSum
  · exact single _ _
  · exact List.pairwise_append.mpr ⟨single _ _, single _ _, fun left isLeft right isRight =>
      ⟨isSum, Option.mem_toList.mp isLeft, Option.mem_toList.mp isRight⟩⟩
  · exact .nil

/-- Operands are listed from left to right. -/
theorem plusOperands_leftToRight (site : Site) : site.plusOperands.Pairwise site.LeftOf := by
  induction site using induction_children with
  | step site ih =>
    rw [plusOperands_eq_links]
    split
    · exact List.pairwise_singleton ..
    · refine List.pairwise_flatMap.mpr ⟨fun part isLink => ?_, ?_⟩
      · exact (ih part (mem_children_of_mem_links isLink)).imp (.of_link isLink)
      · refine (links_leftToRight site).imp ?_
        rintro left right ⟨isSum, isLeft, isRight⟩ first ofLeft second ofRight
        exact ⟨site, left, right, .refl, isSum, isLeft, isRight,
          (mem_plusOperands_iff.mp ofLeft).1, (mem_plusOperands_iff.mp ofRight).1⟩

theorem Chains.position_eq {whole part : Site} (chains : whole.Chains part) :
    ∃ rest, part.position = whole.position ++ rest := by
  induction chains with
  | refl => exact ⟨[], by simp⟩
  | tail _ isLink ih =>
    obtain ⟨rest, same⟩ := ih
    obtain ⟨index, node, _, rfl⟩ := mem_children_iff.mp (mem_children_of_mem_links isLink)
    exact ⟨rest ++ [index], by rw [descend_position, same, List.append_assoc]⟩

theorem Chains.everywhere {property : Node → Prop} {whole part : Site}
    (chains : whole.Chains part) (everywhere : whole.node.Everywhere property) :
    part.node.Everywhere property := by
  induction chains with
  | refl => exact everywhere
  | tail _ isLink ih => exact ih.of_mem_children (mem_children_of_mem_links isLink)

theorem exists_indices {site left right : Site} (leftFirst : site.node.LeftFirst)
    (isLeft : site.child? .left = some left) (isRight : site.child? .right = some right) :
    ∃ first second, first < second ∧
      left.position = site.position ++ [first] ∧ right.position = site.position ++ [second] := by
  obtain ⟨first, leftNode, leftFound, leftRole, rfl⟩ := child?_eq_some isLeft
  obtain ⟨second, rightNode, rightFound, rightRole, rfl⟩ := child?_eq_some isRight
  refine ⟨first, second, ?_, descend_position .., descend_position ..⟩
  obtain ⟨leftBound, rfl⟩ := List.getElem?_eq_some_iff.mp leftFound
  obtain ⟨rightBound, rfl⟩ := List.getElem?_eq_some_iff.mp rightFound
  rcases Nat.lt_trichotomy first second with before | rfl | after
  · exact before
  · rw [leftRole] at rightRole
    cases rightRole
  · exact absurd ⟨rightRole, leftRole⟩
      (List.pairwise_iff_getElem.mp leftFirst second first rightBound leftBound after)

theorem LeftOf.position_lt {whole first second : Site}
    (leftFirst : whole.node.Everywhere Node.LeftFirst) (leftOf : whole.LeftOf first second) :
    first.position < second.position := by
  obtain ⟨sum, left, right, chains, _, isLeft, isRight, ofLeft, ofRight⟩ := leftOf
  obtain ⟨index, other, before, leftPosition, rightPosition⟩ :=
    exists_indices (chains.everywhere leftFirst).here isLeft isRight
  obtain ⟨rest, same⟩ := ofLeft.position_eq
  obtain ⟨otherRest, otherSame⟩ := ofRight.position_eq
  rw [same, otherSame, leftPosition, rightPosition, List.append_assoc, List.append_assoc]
  exact List.append_left_lt (List.cons_lt_cons_iff.mpr (.inl before))

end Site

def Label.unplaced (label : Label) : Label :=
  { label with start := 0, stop := 0, line := 0, endLine := 0 }

namespace Node

mutual

/-- The tree without the offsets and lines at which it stands. -/
def unplaced : Node → Node
  | .node label children => .node label.unplaced (unplacedAll children)

def unplacedAll : List Node → List Node
  | [] => []
  | child :: rest => child.unplaced :: unplacedAll rest

end

/-- The tree by itself, without its place and without the role that it plays there. -/
def expression (node : Node) : Node :=
  .node { node.label.unplaced with role := none } (node.children.map unplaced)

@[simp] theorem kind_expression (node : Node) : node.expression.kind = node.kind := rfl

theorem label_unplaced (node : Node) : node.unplaced.label = node.label.unplaced := by
  cases node
  rfl

theorem isSum_expression (node : Node) : node.expression.isSum = node.isSum := by
  have roles : (fun child : Node => child.unplaced.role == some Role.operator) =
      fun child => child.role == some Role.operator := by
    funext child
    rw [role, label_unplaced]
    rfl
  have texts : Node.text ∘ unplaced = Node.text := by
    funext child
    rw [Function.comp_apply, text, label_unplaced]
    rfl
  have operator : node.expression.child? .operator = (node.child? .operator).map unplaced := by
    rw [child?, child?, expression, children, List.find?_map]
    exact congrArg (fun wanted => (node.children.find? wanted).map unplaced) roles
  rw [isSum, isSum, operator, textOf, textOf, Option.map_map, texts, kind_expression]

theorem isOperand_expression (node : Node) : node.expression.isOperand = node.isOperand := by
  rw [isOperand, isOperand, isSum_expression]
  rfl

structure Groups (node : Node) (inner : Option Node) : Prop where
  isGroup : node.isGroup = true
  inner : node.children.find? isPart = inner

/-- The node is the sum of the left and the right expression, as far as these are there. -/
structure Adds (node : Node) (left right : Option Node) : Prop where
  isSum : node.isSum = true
  left : node.child? .left = left
  right : node.child? .right = right

/-- The second expression is the first one in another grouping. Parentheses come or go, whatever
stands in them beside the expression, and sums are associated in another way. The operands are the
same apart from their places and roles. What is missing in the one is missing in the other, or there
is an empty pair of parentheses in its place. -/
inductive Regrouped : Option Node → Option Node → Prop where
  | refl (node : Option Node) : Regrouped node node
  | operand {first second : Node} (ends : first.isOperand = true)
      (same : second.expression = first.expression) : Regrouped (some first) (some second)
  | wrap {inner : Option Node} {group : Node} (groups : group.Groups inner) :
      Regrouped inner (some group)
  | sum {left right otherLeft otherRight : Option Node} {first second : Node}
      (adds : first.Adds left right) (addsOther : second.Adds otherLeft otherRight)
      (lefts : Regrouped left otherLeft) (rights : Regrouped right otherRight) :
      Regrouped (some first) (some second)
  | rotate {left middle right otherLeft otherMiddle otherRight : Option Node}
      {early first late second : Node}
      (addsEarly : early.Adds left middle) (adds : first.Adds (some early) right)
      (addsLate : late.Adds otherMiddle otherRight) (addsOther : second.Adds otherLeft (some late))
      (lefts : Regrouped left otherLeft) (middles : Regrouped middle otherMiddle)
      (rights : Regrouped right otherRight) : Regrouped (some first) (some second)
  | symm {first second : Option Node} (regrouped : Regrouped first second) :
      Regrouped second first
  | trans {first second third : Option Node} (regrouped : Regrouped first second)
      (again : Regrouped second third) : Regrouped first third

def operands (node : Node) : List Node :=
  (Site.root node).plusOperands.map (·.node)

/-- The kind of an expression without the parentheses around it. -/
def coreKind? (node : Node) : Option Kind :=
  (Site.root node).unwrap?.map Site.kind

end Node

namespace Site

theorem matches_root (site : Site) : Matches (fun first second => first = second)
    (root site.node) site :=
  ⟨.of_reflexive (fun _ => rfl) site.node⟩

theorem map_node_plusOperands (site : Site) :
    site.plusOperands.map (·.node) = site.node.operands :=
  map_eq_of_forall₂ site.matches_root.plusOperands fun _ _ same => same.node.here.symm

theorem map_kind_unwrap? (site : Site) : site.unwrap?.map kind = site.node.coreKind? :=
  map_eq_of_rel site.matches_root.unwrap? fun _ _ same => same.kind_eq

theorem map_node_links (site : Site) : site.links.map (·.node) = site.node.links := by
  rw [links, Node.links, ← map_node_firstPart, ← map_node_child?, ← map_node_child?]
  split_ifs <;> simp [Option.toList_map]

end Site

namespace Node

theorem operands_eq (node : Node) :
    node.operands = if node.isOperand then [node] else node.links.flatMap operands := by
  have links : (Site.root node).links.map (·.node) = node.links := Site.map_node_links _
  rw [operands, Site.plusOperands_eq_links, ← links, List.flatMap_map, apply_ite (List.map _),
    List.map_flatMap]
  simp only [Site.map_node_plusOperands]
  rfl

theorem Groups.operands_eq {node : Node} {inner : Option Node} (groups : node.Groups inner) :
    node.operands = inner.toList.flatMap operands := by
  rw [Node.operands_eq, isOperand, links, groups.isGroup, groups.inner]
  rfl

theorem Adds.isGroup_eq_false {node : Node} {left right : Option Node}
    (adds : node.Adds left right) : node.isGroup = false := by
  have isBinary := (Bool.and_eq_true_iff.mp adds.isSum).1
  rw [isGroup, beq_iff_eq.mp isBinary]
  rfl

theorem Adds.operands_eq {node : Node} {left right : Option Node} (adds : node.Adds left right) :
    node.operands = left.toList.flatMap operands ++ right.toList.flatMap operands := by
  rw [Node.operands_eq, isOperand, links, adds.isSum, adds.isGroup_eq_false, adds.left, adds.right]
  exact List.flatMap_append

theorem coreKind?_eq (node : Node) :
    node.coreKind? =
      if node.isGroup then (node.children.find? isPart).bind coreKind? else some node.kind := by
  have inside : ((Site.root node).children.find? (·.node.isPart)).map (·.node) =
      node.children.find? isPart := Site.map_node_firstPart _
  rw [coreKind?, Site.unwrap?_eq, ← inside, Option.bind_map, apply_ite (Option.map _),
    Option.map_bind]
  simp only [Function.comp_def, Site.map_kind_unwrap?]
  rfl

theorem operands_of_isOperand {node : Node} (ends : node.isOperand = true) :
    node.operands = [node] := by
  rw [operands_eq, if_pos ends]

theorem coreKind?_of_isOperand {node : Node} (ends : node.isOperand = true) :
    node.coreKind? = some node.kind := by
  rw [coreKind?_eq, (isOperand_iff.mp ends).1]
  rfl

theorem Adds.coreKind?_eq {node : Node} {left right : Option Node} (adds : node.Adds left right) :
    node.coreKind? = some .binaryExpression := by
  have isBinary := (Bool.and_eq_true_iff.mp adds.isSum).1
  rw [Node.coreKind?_eq, adds.isGroup_eq_false, beq_iff_eq.mp isBinary]
  rfl

/-- The rules see the same of both expressions: the operands, and the kind without parentheses. -/
structure SeenAlike (first second : Option Node) : Prop where
  operands : (second.toList.flatMap operands).map expression =
    (first.toList.flatMap operands).map expression
  core : second.bind coreKind? = first.bind coreKind?

theorem seenAlike_of_operand {first second : Node} (ends : first.isOperand = true)
    (same : second.expression = first.expression) : SeenAlike (some first) (some second) := by
  have endsToo : second.isOperand = true := by
    rw [← isOperand_expression, same, isOperand_expression, ends]
  have kind : second.kind = first.kind := by rw [← kind_expression, same, kind_expression]
  constructor
  · rw [Option.toList_some, Option.toList_some, List.flatMap_singleton, List.flatMap_singleton,
      operands_of_isOperand ends, operands_of_isOperand endsToo, List.map_singleton,
      List.map_singleton, same]
  · rw [Option.bind_some, Option.bind_some, coreKind?_of_isOperand ends,
      coreKind?_of_isOperand endsToo, kind]

/-- Another grouping is seen alike. -/
theorem Regrouped.seenAlike {first second : Option Node} (regrouped : Regrouped first second) :
    SeenAlike first second := by
  -- Both sums of a rotation list the operands of the left, the middle and the right expression.
  induction regrouped with
  | refl => exact ⟨rfl, rfl⟩
  | operand ends same => exact seenAlike_of_operand ends same
  | wrap groups =>
    refine ⟨?_, ?_⟩
    · rw [Option.toList_some, List.flatMap_singleton, groups.operands_eq]
    · rw [Option.bind_some, coreKind?_eq, if_pos groups.isGroup, groups.inner]
  | sum adds addsOther _ _ lefts rights =>
    refine ⟨?_, ?_⟩
    · simp only [Option.toList_some, List.flatMap_singleton, adds.operands_eq,
        addsOther.operands_eq, List.map_append, lefts.operands, rights.operands]
    · rw [Option.bind_some, Option.bind_some, adds.coreKind?_eq, addsOther.coreKind?_eq]
  | rotate addsEarly adds addsLate addsOther _ _ _ lefts middles rights =>
    refine ⟨?_, ?_⟩
    · simp only [Option.toList_some, List.flatMap_singleton, adds.operands_eq,
        addsOther.operands_eq, addsEarly.operands_eq, addsLate.operands_eq, List.map_append,
        lefts.operands, middles.operands, rights.operands, List.append_assoc]
    · rw [Option.bind_some, Option.bind_some, adds.coreKind?_eq, addsOther.coreKind?_eq]
  | symm _ seen => exact ⟨seen.operands.symm, seen.core.symm⟩
  | trans _ _ seen seenAgain =>
    exact ⟨seenAgain.operands.trans seen.operands, seenAgain.core.trans seen.core⟩

def reading (node : Node) : Kind × Option String :=
  (node.kind, if node.kind == .identifier then some node.text else none)

end Node

namespace Site

theorem reading_of_isOperand {site : Site} (ends : site.node.isOperand = true) :
    site.reading = site.node.expression.reading := by
  have noGroup : (site.kind == .parenthesizedExpression) = false := (Node.isOperand_iff.mp ends).1
  rw [reading, identifier?_eq_bind, unwrap?_eq, noGroup]
  rfl

theorem map_reading_plusOperands (site : Site) :
    site.plusOperands.map reading =
      (site.plusOperands.map (·.node.expression)).map Node.reading := by
  rw [List.map_map]
  exact List.map_congr_left fun operand member =>
    reading_of_isOperand (mem_plusOperands_iff.mp member).2

variable {site other : Site}

theorem map_expression_plusOperands (site : Site) :
    site.plusOperands.map (·.node.expression) = site.node.operands.map Node.expression := by
  rw [← map_node_plusOperands, List.map_map]
  rfl

theorem map_expression_eq (seen : Node.SeenAlike (some site.node) (some other.node)) :
    other.plusOperands.map (·.node.expression) = site.plusOperands.map (·.node.expression) := by
  rw [map_expression_plusOperands, map_expression_plusOperands]
  simpa using seen.operands

theorem any_kind_eq (seen : Node.SeenAlike (some site.node) (some other.node))
    (wanted : Kind → Bool) :
    other.plusOperands.any (wanted ·.kind) = site.plusOperands.any (wanted ·.kind) := by
  have same := congrArg (List.any · fun node => wanted node.kind) (map_expression_eq seen)
  rwa [List.any_map, List.any_map] at same

theorem isConcatenation_eq (seen : Node.SeenAlike (some site.node) (some other.node)) :
    Security.isConcatenation other = Security.isConcatenation site := by
  have same := congrArg List.length (map_expression_eq seen)
  rw [List.length_map, List.length_map] at same
  rw [Security.isConcatenation, Security.isConcatenation, same]

end Site

namespace Optimization

def appendsReadings (scope : Scope) (target : String) : List (Kind × Option String) → Bool
  | first :: second :: rest =>
    first.2 == some target && (scope.isStringTyped target || (second :: rest).any fun reading =>
      reading.1 == .stringLiteral || scope.isStringTyped (reading.2.getD ""))
  | _ => false

theorem appendsReadings_map (scope : Scope) (target : String) (operands : List Site) :
    appendsReadings scope target (operands.map Site.reading) =
      match operands with
      | first :: second :: rest =>
        first.identifier? == some target &&
          (scope.isStringTyped target || (second :: rest).any (joinsStrings scope))
      | _ => false := by
  match operands with
  | [] => rfl
  | [_] => rfl
  | first :: second :: rest =>
    rw [List.map_cons, List.map_cons, appendsReadings, ← List.map_cons, List.any_map]
    rfl

theorem appendsString_eq {assignment value : Site} (given : assignment.child? .right = some value)
    (scope : Scope) (target : String) :
    appendsString assignment scope target =
      match assignment.childText .operator with
      | "+=" => scope.isStringTyped target || value.node.coreKind? == some .stringLiteral
      | "=" => appendsReadings scope target (value.plusOperands.map Site.reading)
      | _ => false := by
  have literal : value.unwrap?.any (·.kind == .stringLiteral) =
      (value.node.coreKind? == some .stringLiteral) := by
    rw [← Site.map_kind_unwrap?]
    cases value.unwrap? <;> rfl
  simp only [appendsString, given, Option.bind_some, literal, Site.getD_map_plusOperands_unwrap?,
    appendsReadings_map]
  rfl

theorem appendsString_eq_of_seenAlike {assignment other value otherValue : Site}
    (given : assignment.child? .right = some value)
    (givenOther : other.child? .right = some otherValue)
    (operator : other.childText .operator = assignment.childText .operator)
    (seen : Node.SeenAlike (some value.node) (some otherValue.node)) (scope : Scope)
    (target : String) : appendsString other scope target = appendsString assignment scope target := by
  have core : otherValue.node.coreKind? = value.node.coreKind? := seen.core
  rw [appendsString_eq given, appendsString_eq givenOther, operator, core,
    Site.map_reading_plusOperands, Site.map_reading_plusOperands, Site.map_expression_eq seen]

end Optimization

/-- Two expressions have the same operands, and every rule that asks for a concatenation gets the
same answer for both: the rules for queries, the one for paths, and the one for strings, which sees
the expression as the value of an assignment. -/
structure JudgedAlike (site other : Site) : Prop where
  operands : other.plusOperands.map (·.node.expression) =
    site.plusOperands.map (·.node.expression)
  joined : Security.isConcatenation other = Security.isConcatenation site
  value : Security.concatenatesVariable other = Security.concatenatesVariable site
  text : Security.concatenatesText other = Security.concatenatesText site
  appended : ∀ assignment otherAssignment : Site, assignment.child? .right = some site →
    otherAssignment.child? .right = some other →
    otherAssignment.childText .operator = assignment.childText .operator →
    ∀ scope target, Optimization.appendsString otherAssignment scope target =
      Optimization.appendsString assignment scope target

theorem Node.Regrouped.judgedAlike {site other : Site}
    (regrouped : Regrouped (some site.node) (some other.node)) : JudgedAlike site other where
  operands := Site.map_expression_eq regrouped.seenAlike
  joined := Site.isConcatenation_eq regrouped.seenAlike
  value := by
    rw [Security.concatenatesVariable, Security.concatenatesVariable,
      Site.isConcatenation_eq regrouped.seenAlike, Site.any_kind_eq regrouped.seenAlike]
  text := by
    have kinds := Site.any_kind_eq regrouped.seenAlike fun kind =>
      kind == .stringLiteral || kind == .identifier
    rw [Security.concatenatesText, Security.concatenatesText,
      Site.isConcatenation_eq regrouped.seenAlike, kinds]
  appended _ _ given givenOther operator :=
    Optimization.appendsString_eq_of_seenAlike given givenOther operator regrouped.seenAlike

/-- The operands of a chain of additions are the expressions of the chain at which it ends, neither
in parentheses nor sums, and each is the only operand of itself. They are listed from left to right,
which is document order if every sum has its left operand in front. An expression in another
grouping has the same operands, so the rules judge both alike. -/
theorem Site.operands_ignore_grouping (site : Site) :
    (∀ operand ∈ site.plusOperands, operand.node.isGroup = false ∧ operand.node.isSum = false ∧
      operand.plusOperands = [operand]) ∧
    (∀ operand, operand ∈ site.plusOperands ↔
      site.Chains operand ∧ operand.node.isOperand = true) ∧
    site.plusOperands.Pairwise site.LeftOf ∧
    (site.node.Everywhere Node.LeftFirst →
      site.plusOperands.Pairwise fun left right => left.position < right.position) ∧
    ∀ other : Site, Node.Regrouped (some site.node) (some other.node) →
      JudgedAlike site other := by
  refine ⟨fun operand member => ?_, fun _ => mem_plusOperands_iff, plusOperands_leftToRight site,
    fun leftFirst => (plusOperands_leftToRight site).imp (LeftOf.position_lt leftFirst),
    fun _ regrouped => regrouped.judgedAlike⟩
  obtain ⟨noGroup, noSum⟩ := Node.isOperand_iff.mp (mem_plusOperands_iff.mp member).2
  exact ⟨noGroup, noSum, plusOperands_of_mem member⟩

theorem Node.IsOperation.adds {node left right : Node}
    (isSum : node.IsOperation .binaryExpression "+" left right) :
    node.Adds (some left) (some right) := by
  obtain ⟨sign, isOperator, children⟩ := isSum.children
  refine ⟨?_, ?_, ?_⟩
  · simp [Node.isSum, isSum.kind, Node.child?, children, isSum.leftRole, isOperator.role, textOf,
      isOperator.text]
  · simp [Node.child?, children, isSum.leftRole]
  · simp [Node.child?, children, isSum.leftRole, isSum.rightRole, isOperator.role]

namespace Optimization

def sumOnLine (role : Option Role) (left right : Node) : Node :=
  operationOnLine .binaryExpression role "+" left right

theorem sumOnLine_adds {left right : Node} (leftRole : left.role = some .left)
    (rightRole : right.role = some .right) (role : Option Role) :
    (sumOnLine role left right).Adds (some left) (some right) :=
  (isOperation_onLine leftRole rightRole).adds

def literalOnLine (role : Role) (start : Nat) : Node :=
  onLine .stringLiteral true (some role) start "\"q\"" [tokenOnLine "\"" start,
    onLine (.other "string_fragment") true none (start + 1) "q" [], tokenOnLine "\"" (start + 2)]

def plainSum : Node :=
  sumOnLine (some .right)
    (sumOnLine (some .left) (identifierOnLine .left 4 "x") (literalOnLine .right 8))
    (identifierOnLine .right 14 "b")

def groupedPart (role : Option Role) : Node :=
  sumOnLine role (literalOnLine .left 17) (identifierOnLine .right 23 "b")

def parenthesizedPart : Node :=
  onLine .parenthesizedExpression true (some .right) 8 "(/* c */ \"q\" + b)" [
    tokenOnLine "(" 8, onLine .blockComment true none 9 "/* c */" [], groupedPart none,
    tokenOnLine ")" 24]

def groupedSum : Node :=
  sumOnLine (some .right) (identifierOnLine .left 4 "x") parenthesizedPart

theorem plainSum_regrouped : Node.Regrouped (some plainSum) (some groupedSum) := by
  have rotated : (sumOnLine none (identifierOnLine .left 4 "x") (groupedPart (some .right))).Adds
      _ _ := sumOnLine_adds rfl rfl none
  have part (role : Option Role) : (groupedPart role).Adds _ _ := sumOnLine_adds rfl rfl role
  -- First the sums are associated to the right, then the second one is put in parentheses.
  refine .trans (.rotate (sumOnLine_adds rfl rfl _) (sumOnLine_adds rfl rfl _) (part (some .right))
    rotated (.operand rfl rfl) (.operand rfl rfl) (.operand rfl rfl)) ?_
  refine .sum rotated (sumOnLine_adds rfl rfl _) (.operand rfl rfl) (.trans ?_ (.wrap ⟨rfl, rfl⟩))
  exact .sum (part (some .right)) (part none) (.operand rfl rfl) (.operand rfl rfl)

def assignedTo (value : Node) : Node :=
  operationOnLine .assignmentExpression none "=" (identifierOnLine .left 0 "x") value

theorem sums_judged_alike :
    let plain := Site.descend (.root (assignedTo plainSum)) 2 plainSum
    let grouped := Site.descend (.root (assignedTo groupedSum)) 2 groupedSum
    Node.Regrouped (some plainSum) (some groupedSum) ∧ plainSum.Everywhere Node.LeftFirst ∧
      plain.plusOperands.map Site.text = ["x", "\"q\"", "b"] ∧
      (plain.plusOperands.Pairwise fun left right => left.position < right.position) ∧
      JudgedAlike plain grouped ∧ Security.concatenatesVariable grouped = true ∧
      ∀ scope, appendsString (.root (assignedTo groupedSum)) scope "x" =
        appendsString (.root (assignedTo plainSum)) scope "x" := by
  -- With and without the parentheses, the sum has the same operands, and the assignment of it
  -- adds to a string or does not.
  intro plain grouped
  have isAssignment (value : Node) (isRight : value.role = some .right) :
      (assignedTo value).IsOperation .assignmentExpression "=" _ value :=
    isOperation_onLine rfl isRight
  have leftFirst : plainSum.Everywhere Node.LeftFirst := by decide +kernel
  obtain ⟨_, _, _, ascending, alike⟩ := Site.operands_ignore_grouping plain
  have judged : JudgedAlike plain grouped := alike grouped plainSum_regrouped
  refine ⟨plainSum_regrouped, leftFirst, by decide +kernel, ascending leftFirst, judged,
    by decide +kernel, fun scope => judged.appended (.root (assignedTo plainSum))
      (.root (assignedTo groupedSum)) ?_ ?_ (by decide +kernel) scope "x"⟩
  · exact (isAssignment plainSum rfl).child?_right []
  · exact (isAssignment groupedSum rfl).child?_right []

end Optimization

end JavaAudit
