import JavaAudit.Text.Search
import JavaAudit.Tree.Site

/-! Reading expressions. -/

set_option autoImplicit false

namespace JavaAudit

namespace Site

mutual

/-- Strip the parentheses around an expression; an empty pair leaves nothing. -/
def unwrapNode (above : List Ancestor) : Node → Option Site
  | .node label children =>
    let self : Site := ⟨.node label children, above⟩
    if label.kind == .parenthesizedExpression then unwrapFirst self 0 children else some self

/-- Strip the parentheses around the first part among the children from the given index on. -/
def unwrapFirst (parent : Site) (index : Nat) : List Node → Option Site
  | [] => none
  | child :: rest =>
    if child.isPart then unwrapNode (parent.descend index child).above child
    else unwrapFirst parent (index + 1) rest

end

def unwrap? (site : Site) : Option Site :=
  unwrapNode site.above site.node

mutual

/-- The operands of a chain of additions, left to right; parentheses do not matter. -/
def operandsNode (above : List Ancestor) : Node → List Site
  | .node label children =>
    let self : Site := ⟨.node label children, above⟩
    if label.kind == .parenthesizedExpression then operandsFirst self 0 children
    else if label.kind == .binaryExpression && self.childText .operator == "+" then
      operandsIn .left self 0 children ++ operandsIn .right self 0 children
    else [self]

/-- The operands of the first part among the children from the given index on. -/
def operandsFirst (parent : Site) (index : Nat) : List Node → List Site
  | [] => []
  | child :: rest =>
    if child.isPart then operandsNode (parent.descend index child).above child
    else operandsFirst parent (index + 1) rest

/-- The operands of the first child in a role, from the given index on. -/
def operandsIn (role : Role) (parent : Site) (index : Nat) : List Node → List Site
  | [] => []
  | child :: rest =>
    if child.role == some role then operandsNode (parent.descend index child).above child
    else operandsIn role parent (index + 1) rest

end

def plusOperands (site : Site) : List Site :=
  operandsNode site.above site.node

def identifier? (site : Site) : Option String :=
  (site.unwrap?.filter (·.kind == .identifier)).map text

def callName (site : Site) : String :=
  site.childText .name

def arguments (site : Site) : List Site :=
  ((site.child? .arguments).map parts).getD []

def createdType? (site : Site) : Option Site :=
  (site.child? .type).map fun type =>
    if type.kind == .genericType then (type.namedChildren.head?).getD type else type

/-- The simple name of the type of an object creation. -/
def createdTypeName (site : Site) : String :=
  (site.createdType?.map fun type => String.ofList (Text.afterLast '.' type.text.toList)).getD ""

def isBooleanLiteral (site : Site) : Bool :=
  site.unwrap?.any fun inner => inner.kind == .trueLiteral || inner.kind == .falseLiteral

end Site

def literalValue (text : List Char) : List Char :=
  let fence := ['"', '"', '"']
  if fence.isPrefixOf text && fence.isSuffixOf text && 6 ≤ text.length then
    (text.drop 3).dropLast.dropLast.dropLast
  else if 2 ≤ text.length && text.head? == some '"' && text.getLast? == some '"' then
    (text.drop 1).dropLast
  else text

namespace Site

def literalValue (site : Site) : List Char :=
  JavaAudit.literalValue site.text.toList

theorem unwrapFirst_eq (parent : Site) (index : Nat) (nodes : List Node) :
    unwrapFirst parent index nodes =
      ((childrenFrom parent index nodes).find? (·.node.isPart)).bind unwrap? := by
  induction nodes generalizing index with
  | nil => rfl
  | cons node rest ih =>
    rw [unwrapFirst, childrenFrom_cons, List.find?_cons, ih, descend_node]
    cases node.isPart <;> rfl

theorem unwrap?_eq (site : Site) :
    site.unwrap? = if site.kind == .parenthesizedExpression then
        (site.children.find? (·.node.isPart)).bind unwrap?
      else some site := by
  rw [← childrenFrom_zero, ← unwrapFirst_eq]
  obtain ⟨⟨label, nodes⟩, above⟩ := site
  rfl

def operandsOfFirst (sites : List Site) (wanted : Node → Bool) : List Site :=
  ((sites.find? (wanted ·.node)).map plusOperands).getD []

theorem operandsFirst_eq (parent : Site) (index : Nat) (nodes : List Node) :
    operandsFirst parent index nodes =
      operandsOfFirst (childrenFrom parent index nodes) Node.isPart := by
  unfold operandsOfFirst
  induction nodes generalizing index with
  | nil => rfl
  | cons node rest ih =>
    rw [operandsFirst, childrenFrom_cons, List.find?_cons, ih, descend_node]
    cases node.isPart <;> rfl

theorem operandsIn_eq (role : Role) (parent : Site) (index : Nat) (nodes : List Node) :
    operandsIn role parent index nodes =
      operandsOfFirst (childrenFrom parent index nodes) (·.role == some role) := by
  unfold operandsOfFirst
  induction nodes generalizing index with
  | nil => rfl
  | cons node rest ih =>
    rw [operandsIn, childrenFrom_cons, List.find?_cons, ih, descend_node]
    dsimp only
    cases node.role == some role <;> rfl

theorem plusOperands_eq (site : Site) :
    site.plusOperands = if site.kind == .parenthesizedExpression then
        operandsOfFirst site.children Node.isPart
      else if site.kind == .binaryExpression && site.childText .operator == "+" then
        operandsOfFirst site.children (·.role == some .left) ++
          operandsOfFirst site.children (·.role == some .right)
      else [site] := by
  rw [← childrenFrom_zero, ← operandsFirst_eq, ← operandsIn_eq, ← operandsIn_eq]
  obtain ⟨⟨label, nodes⟩, above⟩ := site
  rfl

theorem identifier?_eq_bind (site : Site) :
    site.identifier? = site.unwrap?.bind fun inner =>
      if inner.kind == .identifier then some inner.text else none := by
  unfold identifier?
  cases site.unwrap? with
  | none => rfl
  | some inner =>
    rw [Option.filter_some, Option.bind_some]
    split <;> rfl

theorem identifier?_of_identifier {site : Site} (bare : site.kind = .identifier) :
    site.identifier? = some site.text := by
  simp [identifier?_eq_bind, unwrap?_eq, bare]

theorem identifier?_eq_none_of_isComment {site : Site} (comment : site.kind.isComment = true) :
    site.identifier? = none := by
  have unwrapped : site.unwrap? = some site := by
    rw [unwrap?_eq, if_neg]
    intro parenthesized
    rw [beq_iff_eq.mp parenthesized] at comment
    cases comment
  rw [identifier?_eq_bind, unwrapped, Option.bind_some, if_neg]
  intro isIdentifier
  rw [beq_iff_eq.mp isIdentifier] at comment
  cases comment

/-- Parentheses around a chain do not matter for its operands. -/
theorem getD_map_plusOperands_unwrap? (site : Site) :
    (site.unwrap?.map plusOperands).getD [] = site.plusOperands := by
  induction site using induction_children with
  | step site ih =>
    rw [unwrap?_eq]
    split
    next isGroup =>
      rw [plusOperands_eq, if_pos isGroup]
      unfold operandsOfFirst
      cases found : site.children.find? (·.node.isPart) with
      | none => rfl
      | some part => exact ih part (List.mem_of_find?_eq_some found)
    next => rfl

end Site

end JavaAudit
