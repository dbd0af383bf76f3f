import Mathlib.Data.List.Basic
import JavaAudit.Rendering
import JavaAudit.Tree.Declaration
import JavaAudit.Tree.Expression
import JavaAudit.Tree.Preorder

/-! Trees moved to another place of a text.

Moving a tree adds to the offsets and lines of all its nodes and changes nothing else. Every way to
go from a node to others leads from the moved node to the moved others, and what is read off a node
stays as it is. -/

set_option autoImplicit false

namespace JavaAudit

/-- How far a tree is moved. -/
structure Displacement where
  bytes : Nat
  lines : Nat

/-- The way that a text in front moves what follows it. -/
def Displacement.past (text : String) : Displacement :=
  ⟨text.utf8ByteSize, text.toList.count '\n'⟩

theorem beq_add_cancel (left right amount : Nat) :
    (left + amount == right + amount) = (left == right) := by
  rw [Bool.eq_iff_iff]
  simp

def Label.move (delta : Displacement) (label : Label) : Label :=
  { label with
    start := label.start + delta.bytes
    stop := label.stop + delta.bytes
    line := label.line + delta.lines
    endLine := label.endLine + delta.lines }

namespace Node

mutual

def move (delta : Displacement) : Node → Node
  | .node label children => .node (label.move delta) (moveAll delta children)

def moveAll (delta : Displacement) : List Node → List Node
  | [] => []
  | child :: rest => child.move delta :: moveAll delta rest

end

variable (delta : Displacement)

theorem moveAll_eq (nodes : List Node) : moveAll delta nodes = nodes.map (move delta) := by
  induction nodes with
  | nil => rfl
  | cons node rest ih => rw [moveAll, ih, List.map_cons]

@[simp] theorem move_node (label : Label) (children : List Node) :
    move delta (.node label children) = .node (label.move delta) (children.map (move delta)) := by
  rw [move, moveAll_eq]

@[simp] theorem label_move (node : Node) : (node.move delta).label = node.label.move delta := by
  cases node
  rfl

@[simp] theorem children_move (node : Node) :
    (node.move delta).children = node.children.map (move delta) := by
  cases node
  rw [move_node]
  rfl

@[simp] theorem kind_move (node : Node) : (node.move delta).kind = node.kind := by
  simp [kind, Label.move]

@[simp] theorem named_move (node : Node) : (node.move delta).named = node.named := by
  simp [named, Label.move]

@[simp] theorem role_move (node : Node) : (node.move delta).role = node.role := by
  simp [role, Label.move]

@[simp] theorem text_move (node : Node) : (node.move delta).text = node.text := by
  simp [text, Label.move]

@[simp] theorem start_move (node : Node) : (node.move delta).start = node.start + delta.bytes := by
  simp [start, Label.move]

@[simp] theorem stop_move (node : Node) : (node.move delta).stop = node.stop + delta.bytes := by
  simp [stop, Label.move]

@[simp] theorem line_move (node : Node) : (node.move delta).line = node.line + delta.lines := by
  simp [line, Label.move]

@[simp] theorem endLine_move (node : Node) :
    (node.move delta).endLine = node.endLine + delta.lines := by
  simp [endLine, Label.move]

@[simp] theorem isPart_move (node : Node) : (node.move delta).isPart = node.isPart := by
  simp [isPart]

@[simp] theorem child?_move (node : Node) (role : Role) :
    (node.move delta).child? role = (node.child? role).map (move delta) := by
  simp only [child?, children_move, List.find?_map, Function.comp_def, role_move]

@[simp] theorem sameAs_move (left right : Node) :
    (left.move delta).sameAs (right.move delta) = left.sameAs right := by
  simp [sameAs, beq_add_cancel]

@[simp] theorem isWithin_move (node container : Node) :
    (node.move delta).isWithin (container.move delta) = node.isWithin container := by
  simp [isWithin]

end Node

@[simp] theorem textOf_move (delta : Displacement) (node : Option Node) :
    textOf (node.map (Node.move delta)) = textOf node := by
  simp [textOf, Function.comp_def]

def Ancestor.move (delta : Displacement) (ancestor : Ancestor) : Ancestor :=
  ⟨ancestor.node.move delta, ancestor.index⟩

namespace Site

def move (delta : Displacement) (site : Site) : Site :=
  ⟨site.node.move delta, site.above.map (Ancestor.move delta)⟩

variable (delta : Displacement)

@[simp] theorem node_move (site : Site) : (site.move delta).node = site.node.move delta := rfl

@[simp] theorem above_move (site : Site) :
    (site.move delta).above = site.above.map (Ancestor.move delta) := rfl

theorem move_root (tree : Node) : (root tree).move delta = root (tree.move delta) := rfl

@[simp] theorem kind_move (site : Site) : (site.move delta).kind = site.kind := by
  simp [kind]

@[simp] theorem text_move (site : Site) : (site.move delta).text = site.text := by
  simp [text]

@[simp] theorem line_move (site : Site) : (site.move delta).line = site.line + delta.lines := by
  simp [line]

@[simp] theorem parent?_move (site : Site) :
    (site.move delta).parent? = site.parent?.map (move delta) := by
  obtain ⟨node, above⟩ := site
  cases above <;> rfl

@[simp] theorem ancestorsOf_move (above : List Ancestor) :
    ancestorsOf (above.map (Ancestor.move delta)) = (ancestorsOf above).map (move delta) := by
  induction above with
  | nil => rfl
  | cons ancestor rest ih =>
    rw [List.map_cons, ancestorsOf, ancestorsOf, ih, List.map_cons]
    rfl

@[simp] theorem ancestors_move (site : Site) :
    (site.move delta).ancestors = site.ancestors.map (move delta) := by
  simp [ancestors]

theorem descend_move (site : Site) (index : Nat) (child : Node) :
    (site.move delta).descend index (child.move delta) = (site.descend index child).move delta :=
  rfl

@[simp] theorem children_move (site : Site) :
    (site.move delta).children = site.children.map (move delta) := by
  apply List.ext_getElem?
  intro index
  simp [children, Function.comp_def, descend_move]

@[simp] theorem namedChildren_move (site : Site) :
    (site.move delta).namedChildren = site.namedChildren.map (move delta) := by
  simp [namedChildren, List.filter_map, Function.comp_def]

@[simp] theorem parts_move (site : Site) :
    (site.move delta).parts = site.parts.map (move delta) := by
  simp [parts, List.filter_map, Function.comp_def]

@[simp] theorem child?_move (site : Site) (role : Role) :
    (site.move delta).child? role = (site.child? role).map (move delta) := by
  simp only [child?, children_move, List.find?_map, Function.comp_def, node_move, Node.role_move]

@[simp] theorem childrenIn_move (site : Site) (role : Role) :
    (site.move delta).childrenIn role = (site.childrenIn role).map (move delta) := by
  simp [childrenIn, List.filter_map, Function.comp_def]

@[simp] theorem childText_move (site : Site) (role : Role) :
    (site.move delta).childText role = site.childText role := by
  simp [childText]

@[simp] theorem walk_move (stops : Kind → Bool) (start : Site) :
    (start.move delta).walk stops = (start.walk stops).map (move delta) :=
  walk_map (kind_move delta) (children_move delta) stops start

@[simp] theorem below_move (start : Site) :
    (start.move delta).below = start.below.map (move delta) :=
  walk_move delta _ start

@[simp] theorem scope_move (start : Site) :
    (start.move delta).scope = start.scope.map (move delta) :=
  walk_move delta _ start

@[simp] theorem findBelow_move (start : Site) (wanted : Kind → Bool) :
    (start.move delta).findBelow wanted = (start.findBelow wanted).map (move delta) := by
  simp [findBelow, List.filter_map, Function.comp_def]

@[simp] theorem nearest?_move (wanted stops : Kind → Bool) (sites : List Site) :
    nearest? wanted stops (sites.map (move delta)) =
      (nearest? wanted stops sites).map (move delta) :=
  nearest?_map (kind_move delta) wanted stops sites

@[simp] theorem enclosing?_move (site : Site) (wanted stops : Kind → Bool) :
    (site.move delta).enclosing? wanted stops =
      (site.enclosing? wanted stops).map (move delta) := by
  simp [enclosing?]

@[simp] theorem upTo_move (stops : Kind → Bool) (sites : List Site) :
    upTo stops (sites.map (move delta)) = (upTo stops sites).map (move delta) := by
  induction sites with
  | nil => rfl
  | cons site rest ih =>
    rw [List.map_cons, upTo, upTo, kind_move, ih]
    split <;> rfl

@[simp] theorem ancestorsUpTo_move (site : Site) (stops : Kind → Bool) :
    (site.move delta).ancestorsUpTo stops = (site.ancestorsUpTo stops).map (move delta) := by
  simp [ancestorsUpTo]

@[simp] theorem enclosingMethod?_move (site : Site) :
    (site.move delta).enclosingMethod? = site.enclosingMethod?.map (move delta) := by
  simp [enclosingMethod?]

@[simp] theorem enclosingStatement?_move (site : Site) :
    (site.move delta).enclosingStatement? = site.enclosingStatement?.map (move delta) := by
  unfold enclosingStatement?
  rw [kind_move, enclosing?_move]
  split <;> rfl

@[simp] theorem isInsideLoop_move (site : Site) :
    (site.move delta).isInsideLoop = site.isInsideLoop := by
  simp [isInsideLoop]

@[simp] theorem owner?_move (site : Site) :
    (site.move delta).owner? = site.owner?.map (move delta) := by
  simp [owner?]

@[simp] theorem declaredName_move (site : Site) :
    (site.move delta).declaredName = site.declaredName := by
  simp [declaredName]

@[simp] theorem body?_move (site : Site) :
    (site.move delta).body? = site.body?.map (move delta) := by
  simp [body?]

@[simp] theorem modifiers_move (site : Site) : (site.move delta).modifiers = site.modifiers := by
  unfold modifiers
  rw [children_move, List.find?_map]
  simp only [Function.comp_def, kind_move]
  cases site.children.find? (·.kind == .modifiers) with
  | none => rfl
  | some list => simp [List.filter_map, Function.comp_def]

@[simp] theorem access_move (site : Site) : (site.move delta).access = site.access := by
  simp [access]

@[simp] theorem spreadParameter_move (site : Site) :
    (site.move delta).spreadParameter = site.spreadParameter := by
  simp [spreadParameter, ← List.map_reverse, List.find?_map, Function.comp_def]

@[simp] theorem parameter?_move (site : Site) :
    (site.move delta).parameter? = site.parameter? := by
  unfold parameter?
  simp

@[simp] theorem parameters_move (site : Site) :
    (site.move delta).parameters = site.parameters := by
  simp [parameters, List.filterMap_map, Function.comp_def]

@[simp] theorem members_move (site : Site) :
    (site.move delta).members = site.members.map (move delta) := by
  unfold members
  rw [body?_move]
  cases site.body? with
  | none => rfl
  | some body =>
    simp only [Option.map_some, namedChildren_move, List.flatMap_map, List.map_flatMap, kind_move]
    congr 1
    funext child
    split <;> rfl

@[simp] theorem unwrap?_move (site : Site) :
    (site.move delta).unwrap? = site.unwrap?.map (move delta) := by
  induction site using induction_children with
  | step site ih =>
    rw [unwrap?_eq, unwrap?_eq site, kind_move, children_move, List.find?_map]
    simp only [Function.comp_def, node_move, Node.isPart_move]
    -- Only the first part is unwrapped further, and a node is a part wherever it stands.
    split
    · cases found : site.children.find? (·.node.isPart) with
      | none => rfl
      | some part => exact ih part (List.mem_of_find?_eq_some found)
    · rfl

theorem operandsOfFirst_move {sites : List Site} (wanted : Node → Bool)
    (steady : ∀ node, wanted (node.move delta) = wanted node)
    (ih : ∀ site ∈ sites, (site.move delta).plusOperands = site.plusOperands.map (move delta)) :
    operandsOfFirst (sites.map (move delta)) wanted =
      (operandsOfFirst sites wanted).map (move delta) := by
  unfold operandsOfFirst
  rw [List.find?_map]
  simp only [Function.comp_def, node_move, steady]
  cases found : sites.find? (wanted ·.node) with
  | none => rfl
  | some site => exact ih site (List.mem_of_find?_eq_some found)

@[simp] theorem plusOperands_move (site : Site) :
    (site.move delta).plusOperands = site.plusOperands.map (move delta) := by
  induction site using induction_children with
  | step site ih =>
    have first := operandsOfFirst_move delta Node.isPart (Node.isPart_move delta) ih
    have inRole := fun role => operandsOfFirst_move delta (·.role == some role)
      (fun node => by rw [Node.role_move]) ih
    rw [plusOperands_eq, plusOperands_eq site, kind_move, childText_move, children_move, first,
      inRole, inRole, ← List.map_append]
    split
    · rfl
    · split <;> rfl

@[simp] theorem identifier?_move (site : Site) :
    (site.move delta).identifier? = site.identifier? := by
  simp [identifier?, Option.filter_map, Function.comp_def]

@[simp] theorem bind_unwrap?_move (site : Option Site) :
    (site.map (move delta)).bind unwrap? = (site.bind unwrap?).map (move delta) := by
  cases site <;> simp

@[simp] theorem bind_identifier?_move (site : Option Site) :
    (site.map (move delta)).bind identifier? = site.bind identifier? := by
  cases site <;> simp

@[simp] theorem callName_move (site : Site) : (site.move delta).callName = site.callName := by
  simp [callName]

@[simp] theorem arguments_move (site : Site) :
    (site.move delta).arguments = site.arguments.map (move delta) := by
  unfold arguments
  rw [child?_move]
  cases site.child? .arguments <;> simp

@[simp] theorem createdType?_move (site : Site) :
    (site.move delta).createdType? = site.createdType?.map (move delta) := by
  unfold createdType?
  rw [child?_move]
  cases site.child? .type with
  | none => rfl
  | some type =>
    simp only [Option.map_some, kind_move, namedChildren_move, List.head?_map]
    split
    · cases type.namedChildren.head? <;> rfl
    · rfl

@[simp] theorem createdTypeName_move (site : Site) :
    (site.move delta).createdTypeName = site.createdTypeName := by
  simp [createdTypeName, Function.comp_def]

@[simp] theorem isBooleanLiteral_move (site : Site) :
    (site.move delta).isBooleanLiteral = site.isBooleanLiteral := by
  simp [isBooleanLiteral, Option.any_map]

@[simp] theorem literalValue_move (site : Site) :
    (site.move delta).literalValue = site.literalValue := by
  simp [literalValue]

end Site

theorem Token.ofLeaf?_move (delta : Displacement) (parent : Option Kind) (label : Label) :
    ofLeaf? parent (label.move delta) = ofLeaf? parent label := rfl

mutual

theorem Node.tokens_move (delta : Displacement) (parent : Option Kind) : ∀ node : Node,
    (node.move delta).tokens parent = node.tokens parent
  | .node label children => by
    rw [move_node, tokens, tokens, tokensAll_move delta _ children, List.isEmpty_map,
      Token.ofLeaf?_move]
    rfl

theorem Node.tokensAll_move (delta : Displacement) (parent : Kind) : ∀ nodes : List Node,
    tokensAll parent (nodes.map (move delta)) = tokensAll parent nodes
  | [] => rfl
  | child :: rest => by
    rw [List.map_cons, tokensAll, tokensAll, tokens_move delta _ child,
      tokensAll_move delta parent rest]

end

namespace Site

variable (delta : Displacement)

@[simp] theorem tokens_move (site : Site) : (site.move delta).tokens = site.tokens := by
  simp [tokens, Node.tokens_move, Ancestor.move, Function.comp_def]

@[simp] theorem render_move (site : Site) : (site.move delta).render = site.render := by
  simp [render]

@[simp] theorem headerTokens_move (site : Site) :
    (site.move delta).headerTokens = site.headerTokens := by
  -- The header ends at the child that starts where the body starts, and both starts move alike.
  have before : ∀ child : Site,
      (((site.move delta).node.child? .body).map Node.start !=
          some (child.move delta).node.start) =
        ((site.node.child? .body).map Node.start != some child.node.start) := by
    intro child
    rw [node_move, Node.child?_move]
    cases site.node.child? .body <;> simp [bne]
  simp only [headerTokens, children_move, List.takeWhile_map, Function.comp_def, before]
  simp [List.filter_map, List.flatMap_map, Function.comp_def]

@[simp] theorem renderHeader_move (site : Site) :
    (site.move delta).renderHeader = site.renderHeader := by
  simp [renderHeader]

end Site

@[simp] theorem renderOf_move (delta : Displacement) (site : Option Site) :
    renderOf (site.map (Site.move delta)) = renderOf site := by
  simp [renderOf, Function.comp_def]

def Entry.move (bytes : Nat) (entry : Entry) : Entry :=
  { entry with start := entry.start + bytes, stop := entry.stop + bytes }

section
variable (before text : String)

theorem Entry.label_past (entry : Entry) :
    (entry.move before.utf8ByteSize).label (.ofText (before ++ text)) =
      (entry.label (.ofText text)).move (.past before) := by
  simp only [label, move, Label.move, Displacement.past, Source.lineAt_append,
    Source.slice_append]

theorem Entry.attach_past (entry : Entry) (following : List Node) :
    (entry.move before.utf8ByteSize).attach (.ofText (before ++ text))
        (following.map (Node.move (.past before))) =
      (entry.attach (.ofText text) following).map (Node.move (.past before)) := by
  rw [attach, attach, label_past, ← List.map_take, ← List.map_drop, List.map_cons, Node.move_node]
  rfl

/-- A tree read behind a text is the tree read without it, moved past the text. -/
theorem Node.ofPreorder?_past (entries : List Entry) :
    ofPreorder? (.ofText (before ++ text)) (entries.map (Entry.move before.utf8ByteSize)) =
      (ofPreorder? (.ofText text) entries).map (move (.past before)) := by
  have attached : (entries.map (Entry.move before.utf8ByteSize)).foldr
      (Entry.attach (.ofText (before ++ text))) [] =
        (entries.foldr (Entry.attach (.ofText text)) []).map (move (.past before)) := by
    induction entries with
    | nil => rfl
    | cons entry rest ih => rw [List.map_cons, List.foldr_cons, ih, Entry.attach_past]; rfl
  unfold ofPreorder?
  rw [attached]
  cases entries.foldr (Entry.attach (.ofText text)) [] with
  | nil => rfl
  | cons first rest => cases rest <;> rfl

end

end JavaAudit
