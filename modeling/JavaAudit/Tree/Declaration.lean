import JavaAudit.Tree.Site

/-! Reading declarations. -/

set_option autoImplicit false

namespace JavaAudit

structure Parameter where
  type : String
  name : String
  deriving DecidableEq, Repr

namespace Site

def declaredName (site : Site) : String :=
  site.childText .name

def body? (site : Site) : Option Site :=
  site.child? .body

def modifiers (site : Site) : List String :=
  match site.children.find? (·.kind == .modifiers) with
  | some list =>
    (list.children.filter fun child =>
      child.kind != .annotationMarker && child.kind != .annotationCall).map text
  | none => []

def access (site : Site) : String :=
  (["public", "protected", "private"].find? site.modifiers.contains).getD "package-private"

/-- A variable arity parameter: the last declarator names it, the last other part is its type. -/
def spreadParameter (site : Site) : Parameter :=
  let parts := site.namedChildren.reverse
  let type := parts.find? fun part => part.kind != .variableDeclarator && part.kind != .modifiers
  let name := parts.find? (·.kind == .variableDeclarator)
  ⟨(type.map fun part => part.text ++ "...").getD "", (name.map declaredName).getD ""⟩

def parameter? (site : Site) : Option Parameter :=
  match site.kind with
  | .formalParameter => some ⟨site.childText .type, site.declaredName⟩
  | .spreadParameter => some site.spreadParameter
  | _ => none

def parameters (site : Site) : List Parameter :=
  ((site.child? .parameters).map fun list => list.namedChildren.filterMap parameter?).getD []

/-- The members of a type declaration; those after the constants of an enum included. -/
def members (site : Site) : List Site :=
  match site.body? with
  | none => []
  | some body =>
    body.namedChildren.flatMap fun child =>
      if child.kind == .enumBodyDeclarations then child.namedChildren else [child]

theorem mem_below_of_mem_members {root declaration member : Site}
    (inside : declaration ∈ root.below) (isMember : member ∈ declaration.members) :
    member ∈ root.below := by
  unfold members at isMember
  split at isMember
  case h_1 => cases isMember
  case h_2 body found =>
    have bodyInside : body ∈ root.below :=
      mem_below_of_mem_children inside (List.mem_of_find?_eq_some found)
    obtain ⟨child, childMember, isMember⟩ := List.mem_flatMap.mp isMember
    have childInside : child ∈ root.below :=
      mem_below_of_mem_children bodyInside (List.mem_filter.mp childMember).1
    split at isMember
    · exact mem_below_of_mem_children childInside (List.mem_filter.mp isMember).1
    · rw [List.mem_singleton.mp isMember]
      exact childInside

theorem body_mem_children {method body : Site} (hasBody : method.body? = some body) :
    body ∈ method.children :=
  List.mem_of_find?_eq_some hasBody

theorem body_above {method body : Site} (hasBody : method.body? = some body) :
    ∃ index, body.above = ⟨method.node, index⟩ :: method.above :=
  above_of_mem_children (body_mem_children hasBody)

end Site

end JavaAudit
