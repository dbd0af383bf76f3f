import JavaAudit.Proofs.CanonicalText
import JavaAudit.Proofs.Displacement
import JavaAudit.Proofs.Interspersed
import JavaAudit.Scope

/-! Trees with comments put in.

A comment is a child like any other, so a tree with more comments has the same nodes at other
places among the children. Every way to go from a node to others that passes over comments leads
to the nodes that correspond, and the canonical text stays the same. -/

set_option autoImplicit false

namespace JavaAudit

namespace Node

structure IsRemark (node : Node) : Prop where
  comment : node.kind.isComment = true
  named : node.named = true
  roleless : node.role = none
  leaf : node.children = []

theorem IsRemark.role_beq {node : Node} (remark : node.IsRemark) (role : Role) :
    (node.role == some role) = false := by
  rw [remark.roleless]
  rfl

theorem IsRemark.isPart_eq_false {node : Node} (remark : node.IsRemark) : node.isPart = false := by
  rw [isPart, remark.comment, Bool.not_true, Bool.and_false]

def isWord (node : Node) : Bool :=
  node.isToken || node.kind == .identifier || [some Role.field, some .operator].contains node.role

/-- The name of the node is read: it declares a variable or calls a method. The name of an
annotation, for one, is not, and comments may stand between its parts. -/
def isNamed (node : Node) : Bool :=
  node.role == some .declarator ||
    [Kind.variableDeclarator, .formalParameter, .catchFormalParameter, .enhancedForStatement,
      .resource, .methodInvocation].contains node.kind

/-- What a node keeps when comments are put in below it. Comments stand between tokens, so words
and names keep their text, leaves remain leaves, and no receiver comes to read `Objects` or ceases
to. -/
structure Keeps (before after : Node) : Prop where
  kind : after.kind = before.kind
  named : after.named = before.named
  text : before.isWord = true → after.text = before.text
  name : before.isNamed = true →
    (after.child? .name).map Node.text = (before.child? .name).map Node.text
  leaf : before.children = [] → after.children = []
  receiver : before.role = some .object → (after.text == "Objects") = (before.text == "Objects")

/-- Children keep their roles. Positions move, but children at one place stay at one place. -/
def KeepsPlaces (pairs : List (Node × Node)) : Prop :=
  ∀ pair ∈ pairs, pair.2.role = pair.1.role ∧
    ∀ other ∈ pairs, pair.2.sameAs other.2 = pair.1.sameAs other.1

/-- The second tree is the first with comments put in below its root, such that a condition holds
between the corresponding nodes. -/
inductive Commented (condition : Node → Node → Prop) : Node → Node → Prop where
  | intro {before after : Node} (keeps : Keeps before after) (here : condition before after)
      (pairs : List (Node × Node))
      (children : Interspersed IsRemark (fun first second => (first, second) ∈ pairs)
        before.children after.children)
      (inside : ∀ pair ∈ pairs, Commented condition pair.1 pair.2)
      (places : KeepsPlaces pairs) : Commented condition before after

namespace Commented

variable {condition : Node → Node → Prop} {before after : Node}

theorem keeps (commented : Commented condition before after) : Keeps before after := by
  cases commented with
  | intro keeps => exact keeps

theorem here (commented : Commented condition before after) : condition before after := by
  cases commented with
  | intro _ here => exact here

theorem isPart_eq (commented : Commented condition before after) :
    after.isPart = before.isPart := by
  rw [isPart, isPart, commented.keeps.kind, commented.keeps.named]

theorem exists_children (commented : Commented condition before after) :
    Interspersed IsRemark (Commented condition) before.children after.children := by
  cases commented with
  | intro _ _ pairs children inside =>
    exact children.imp (fun _ remark => remark) fun first second member => inside _ member

theorem children_eq_nil_iff (commented : Commented condition before after) :
    after.children = [] ↔ before.children = [] :=
  commented.exists_children.eq_nil_iff commented.keeps.leaf

theorem of_reflexive (holds : ∀ node, condition node node) (node : Node) :
    node.Commented condition node := by
  obtain ⟨label, children⟩ := node
  refine .intro ⟨rfl, rfl, fun _ => rfl, fun _ => rfl, fun leaf => leaf, fun _ => rfl⟩ (holds _)
    (children.map fun child => (child, child)) ?_ ?_ ?_
  · exact .of_forall₂ (List.forall₂_same.mpr fun child isChild =>
      List.mem_map.mpr ⟨child, isChild, rfl⟩)
  · intro pair isPair
    obtain ⟨child, isChild, rfl⟩ := List.mem_map.mp isPair
    exact of_reflexive holds child
  · intro pair isPair
    obtain ⟨child, _, rfl⟩ := List.mem_map.mp isPair
    refine ⟨rfl, fun other isOther => ?_⟩
    obtain ⟨child, _, rfl⟩ := List.mem_map.mp isOther
    rfl

theorem refl (node : Node) : node.Commented (fun _ _ => True) node :=
  of_reflexive (fun _ => trivial) node

end Commented

theorem IsRemark.tokens_eq_nil {node : Node} (remark : node.IsRemark) (parent : Option Kind) :
    node.tokens parent = [] := by
  rw [tokens_eq, if_pos remark.comment]

theorem Commented.isToken_eq {condition : Node → Node → Prop} {before after : Node}
    (commented : Commented condition before after) : after.isToken = before.isToken := by
  rw [isToken, isToken, commented.keeps.kind, Bool.eq_iff_iff]
  simp only [Bool.or_eq_true, List.isEmpty_iff, commented.children_eq_nil_iff]

theorem Commented.tokens_eq {condition : Node → Node → Prop} {before after : Node}
    (commented : Commented condition before after) (parent : Option Kind) :
    after.tokens parent = before.tokens parent := by
  induction commented generalizing parent with
  | @intro before after keeps here pairs children inside places ih =>
    have isToken := (Commented.intro keeps here pairs children inside places).isToken_eq
    rw [Node.tokens_eq, Node.tokens_eq, keeps.kind, isToken]
    split
    · rfl
    · split
      next tokenBefore =>
        have text : after.label.text = before.label.text :=
          keeps.text (by simp [isWord, tokenBefore])
        have named : after.label.named = before.label.named := keeps.named
        rw [Token.ofLeaf?, Token.ofLeaf?, text, named]
      next =>
        -- The class of a token depends on the kind of its parent, which is the same in
        -- both trees.
        exact children.flatMap_eq (fun added remark => remark.tokens_eq_nil _)
          fun first second member => ih (first, second) member (some before.kind)

instance : DecidablePred IsRemark := fun node =>
  decidable_of_iff
    (node.kind.isComment = true ∧ node.named = true ∧ node.role = none ∧
      node.children.isEmpty = true)
    ⟨fun ⟨comment, named, roleless, leaf⟩ => ⟨comment, named, roleless, List.isEmpty_iff.mp leaf⟩,
      fun ⟨comment, named, roleless, leaf⟩ =>
        ⟨comment, named, roleless, List.isEmpty_iff.mpr leaf⟩⟩

instance : DecidableRel Keeps := fun before after =>
  decidable_of_iff
    (after.kind = before.kind ∧ after.named = before.named ∧
      (before.isWord = true → after.text = before.text) ∧
      (before.isNamed = true →
        (after.child? .name).map Node.text = (before.child? .name).map Node.text) ∧
      (before.children.isEmpty = true → after.children.isEmpty = true) ∧
      (before.role = some .object → (after.text == "Objects") = (before.text == "Objects")))
    ⟨fun ⟨kind, named, text, name, leaf, receiver⟩ =>
      ⟨kind, named, text, name, by simpa using leaf, receiver⟩,
    fun ⟨kind, named, text, name, leaf, receiver⟩ =>
      ⟨kind, named, text, name, by simpa using leaf, receiver⟩⟩

instance : DecidablePred KeepsPlaces :=
  fun pairs => inferInstanceAs (Decidable (∀ pair ∈ pairs, _))

section
variable (condition : Node → Node → Prop) [DecidableRel condition]

mutual

/-- Decides `Commented`, by trying every way to pair the children. -/
def isCommented (before : Node) : Node → Bool
  | .node label children =>
    decide (Keeps before (.node label children)) && decide (condition before (.node label children))
      && (pairings before.children children).any (decide <| KeepsPlaces ·)

/-- The ways to take nodes out of the second list such that it becomes the first. -/
def pairings : List Node → List Node → List (List (Node × Node))
  | [], [] => [[]]
  | _ :: _, [] => []
  | [], added :: rest => if IsRemark added then pairings [] rest else []
  | first :: more, second :: rest =>
    (if isCommented first second then (pairings more rest).map ((first, second) :: ·) else []) ++
      if IsRemark second then pairings (first :: more) rest else []

end

variable {condition}

mutual

theorem commented_of_isCommented {before : Node} :
    (after : Node) → isCommented condition before after = true → Commented condition before after
  | .node label children, holds => by
    simp only [isCommented, Bool.and_eq_true, decide_eq_true_eq, List.any_eq_true] at holds
    obtain ⟨⟨keeps, here⟩, pairs, pairing, places⟩ := holds
    obtain ⟨paired, inside⟩ := commented_of_mem_pairings children pairing
    exact .intro keeps here pairs paired inside places

theorem commented_of_mem_pairings {before : List Node} {pairs : List (Node × Node)} :
    (after : List Node) → pairs ∈ pairings condition before after →
      Interspersed IsRemark (fun first second => (first, second) ∈ pairs) before after ∧
        ∀ pair ∈ pairs, Commented condition pair.1 pair.2
  | [], pairing => by
    cases before with
    | nil =>
      rw [pairings, List.mem_singleton] at pairing
      subst pairing
      exact ⟨.nil, by simp⟩
    | cons first more => simp [pairings] at pairing
  | second :: rest, pairing => by
    have inserted : IsRemark second → pairs ∈ pairings condition before rest →
        Interspersed IsRemark (fun first second => (first, second) ∈ pairs) before
            (second :: rest) ∧
          ∀ pair ∈ pairs, Commented condition pair.1 pair.2 := by
      intro remark pairing
      obtain ⟨paired, inside⟩ := commented_of_mem_pairings rest pairing
      exact ⟨.insert remark paired, inside⟩
    cases before with
    | nil =>
      rw [pairings] at pairing
      split at pairing
      next remark => exact inserted remark pairing
      next => cases pairing
    | cons first more =>
      rw [pairings, List.mem_append] at pairing
      rcases pairing with pairing | pairing
      · split at pairing
        next holds =>
          obtain ⟨others, found, rfl⟩ := List.mem_map.mp pairing
          obtain ⟨paired, inside⟩ := commented_of_mem_pairings rest found
          refine ⟨.keep (List.mem_cons_self ..) (paired.imp (fun _ remark => remark) ?_), ?_⟩
          · exact fun _ _ isPair => List.mem_cons_of_mem _ isPair
          · rw [List.forall_mem_cons]
            exact ⟨commented_of_isCommented second holds, inside⟩
        next => cases pairing
      · split at pairing
        next remark => exact inserted remark pairing
        next => cases pairing

end

theorem exists_pairing {before after : List Node} {pairs : List (Node × Node)}
    (paired : Interspersed IsRemark (fun first second => (first, second) ∈ pairs) before after)
    (inside : ∀ pair ∈ pairs, isCommented condition pair.1 pair.2 = true) :
    ∃ pairing ∈ pairings condition before after, pairing ⊆ pairs := by
  induction paired with
  | nil => exact ⟨[], by simp [pairings], List.nil_subset _⟩
  | keep isPair _ ih =>
    obtain ⟨pairing, found, subset⟩ := ih
    refine ⟨_ :: pairing, ?_, List.cons_subset.mpr ⟨isPair, subset⟩⟩
    rw [pairings, if_pos (inside _ isPair)]
    exact List.mem_append_left _ (List.mem_map_of_mem found)
  | @insert added before after remark _ ih =>
    obtain ⟨pairing, found, subset⟩ := ih
    refine ⟨pairing, ?_, subset⟩
    -- The pairings that pass over a comment are listed behind those that keep it.
    cases before with
    | nil => rwa [pairings, if_pos remark]
    | cons first more =>
      rw [pairings, if_pos remark]
      exact List.mem_append_right _ found

theorem isCommented_of_commented {before after : Node}
    (commented : Commented condition before after) : isCommented condition before after = true := by
  induction commented with
  | @intro before after keeps here pairs children inside places ih =>
    -- The pairing found may leave pairs out, which does no harm to the places of the others.
    obtain ⟨pairing, found, subset⟩ := exists_pairing children ih
    obtain ⟨label, nodes⟩ := after
    simp only [isCommented, Bool.and_eq_true, decide_eq_true_eq, List.any_eq_true]
    refine ⟨⟨keeps, here⟩, pairing, found, fun pair isPair => ?_⟩
    obtain ⟨role, place⟩ := places pair (subset isPair)
    exact ⟨role, fun other isOther => place other (subset isOther)⟩

instance : DecidableRel (Commented condition) := fun _ after =>
  decidable_of_iff _ ⟨commented_of_isCommented after, isCommented_of_commented⟩

end

end Node

namespace Site

/-- The tree at the second place is that at the first with comments put in. -/
structure Matches (condition : Node → Node → Prop) (before after : Site) : Prop where
  node : before.node.Commented condition after.node

/-- The trees match, and they stand in one role below parents of one kind. -/
structure Corresponds (condition : Node → Node → Prop) (before after : Site) : Prop
    extends Matches condition before after where
  role : after.node.role = before.node.role
  parentKind : after.parent?.map kind = before.parent?.map kind
  fills : ∀ role, after.parent?.any (after.fillsRole · role) =
    before.parent?.any (before.fillsRole · role)

def IsRemark (site : Site) : Prop :=
  site.node.IsRemark

namespace Matches

variable {condition : Node → Node → Prop} {before after : Site}

theorem kind_eq (matched : Matches condition before after) : after.kind = before.kind :=
  matched.node.keeps.kind

theorem text_eq (matched : Matches condition before after) (isWord : before.node.isWord = true) :
    after.text = before.text :=
  matched.node.keeps.text isWord

theorem text_eq_of_identifier (matched : Matches condition before after)
    (isIdentifier : (before.kind == .identifier) = true) : after.text = before.text := by
  have kind : (before.node.kind == .identifier) = true := isIdentifier
  exact matched.text_eq (by simp [Node.isWord, kind])

end Matches

theorem operandsOfFirst_of_rel {related : Site → Site → Prop} {before after : List Site}
    {wanted : Node → Bool}
    (found : Option.Rel (fun first second =>
        List.Forall₂ related first.plusOperands second.plusOperands)
      (before.find? (wanted ·.node)) (after.find? (wanted ·.node))) :
    List.Forall₂ related (operandsOfFirst before wanted) (operandsOfFirst after wanted) := by
  unfold operandsOfFirst
  generalize before.find? (wanted ·.node) = first at found ⊢
  generalize after.find? (wanted ·.node) = second at found ⊢
  cases found with
  | none => exact .nil
  | some operands => exact operands

theorem interspersed_childrenFrom {isNew : Node → Prop} {related : Node → Node → Prop}
    {before after : List Node} (list : Interspersed isNew related before after)
    {isNew' : Site → Prop} {related' : Site → Site → Prop} {parent other : Site}
    (new : ∀ index added, isNew added → isNew' (other.descend index added))
    (same : ∀ index position first second, related first second →
      related' (parent.descend index first) (other.descend position second))
    (index position : Nat) :
    Interspersed isNew' related' (childrenFrom parent index before)
      (childrenFrom other position after) := by
  induction list generalizing index position with
  | nil => exact .nil
  | keep related _ ih =>
    rw [childrenFrom_cons, childrenFrom_cons]
    exact .keep (same _ _ _ _ related) (ih _ _)
  | insert isNew _ ih =>
    rw [childrenFrom_cons]
    exact .insert (new _ _ isNew) (ih _ _)

namespace Matches

variable {condition : Node → Node → Prop} {before after : Site}

theorem children (matched : Matches condition before after) :
    Interspersed IsRemark (Corresponds condition) before.children after.children := by
  obtain ⟨node⟩ := matched
  have kindEq := node.keeps.kind
  cases node with
  | intro _ _ pairs children inside places =>
    rw [← childrenFrom_zero, ← childrenFrom_zero]
    refine interspersed_childrenFrom children (fun _ _ remark => remark) ?_ 0 0
    intro index position first second isPair
    refine ⟨⟨inside _ isPair⟩, (places _ isPair).1, congrArg some kindEq, fun role => ?_⟩
    -- The first child in a role is the same one, and it is or is not at the place of this child.
    refine any_eq_of_rel (children.find? (fun _ remark => remark.role_beq role)
      fun first second member => ?_) ?_
    · rw [(places _ member).1]
    · rintro other otherAfter ⟨member, _⟩
      exact (places (other, otherAfter) member).2 (first, second) isPair

theorem child?_role (matched : Matches condition before after) (role : Role) :
    Option.Rel (fun first second => Corresponds condition first second ∧
        first ∈ before.children ∧ first.node.role = some role)
      (before.child? role) (after.child? role) := by
  refine rel_imp (matched.children.find? (fun _ remark => Node.IsRemark.role_beq remark role)
    fun first second same => ?_) ?_
  · rw [same.role]
  · rintro first second ⟨same, isChild, inRole⟩
    exact ⟨same, isChild, beq_iff_eq.mp inRole⟩

theorem child? (matched : Matches condition before after) (role : Role) :
    Option.Rel (Corresponds condition) (before.child? role) (after.child? role) :=
  rel_imp (matched.child?_role role) fun _ _ found => found.1

theorem childrenIn (matched : Matches condition before after) (role : Role) :
    List.Forall₂ (fun first second => Corresponds condition first second ∧
        first.node.role = some role)
      (before.childrenIn role) (after.childrenIn role) := by
  have same := matched.children.forall₂_filter
    (fun _ remark => Node.IsRemark.role_beq remark role) fun first second same => by rw [same.role]
  refine ((Interspersed.of_forall₂ same).with_mem.forall₂ fun _ => id).imp ?_
  rintro first second ⟨same, isChild⟩
  exact ⟨same, beq_iff_eq.mp (List.mem_filter.mp isChild).2⟩

theorem parts (matched : Matches condition before after) :
    List.Forall₂ (Corresponds condition) before.parts after.parts :=
  matched.children.forall₂_filter (fun _ remark => Node.IsRemark.isPart_eq_false remark)
    fun _ _ same => same.node.isPart_eq

theorem namedChildren (matched : Matches condition before after) :
    Interspersed IsRemark (Corresponds condition) before.namedChildren after.namedChildren := by
  refine (matched.children.filter fun first second same => same.node.keeps.named).imp ?_
    fun _ _ same => same
  rintro added ⟨remark, _⟩
  exact remark

/-- A walk over the tree with comments meets the same nodes, and the comments between them. -/
theorem walk (matched : Matches condition before after) (stops : Kind → Bool) :
    Interspersed IsRemark (Corresponds condition) (before.walk stops) (after.walk stops) := by
  induction before using induction_children generalizing after with
  | step before ih =>
    rw [walk_eq, walk_eq]
    refine matched.children.with_mem.flatMap ?_ ?_
    -- A comment is a leaf, so the walk meets nothing new but the comment.
    · intro added remark site member
      have nothingBelow : added.walk stops = [] := by
        rw [walk_eq, Site.children, remark.leaf]
        rfl
      rw [nothingBelow, ite_self, List.mem_singleton] at member
      rw [member]
      exact remark
    · rintro first second ⟨same, isChild⟩
      refine .keep same ?_
      rw [same.kind_eq]
      split
      · exact .nil
      · exact ih first isChild same.toMatches

theorem firstPart (matched : Matches condition before after) :
    Option.Rel (fun first second => Corresponds condition first second ∧ first ∈ before.children)
      (before.children.find? (·.node.isPart)) (after.children.find? (·.node.isPart)) := by
  refine rel_imp (matched.children.find? (fun _ remark => Node.IsRemark.isPart_eq_false remark)
    fun _ _ same => same.node.isPart_eq) ?_
  rintro first second ⟨same, isChild, _⟩
  exact ⟨same, isChild⟩

theorem unwrap? (matched : Matches condition before after) :
    Option.Rel (Matches condition) before.unwrap? after.unwrap? := by
  induction before using induction_children generalizing after with
  | step before ih =>
    rw [unwrap?_eq, unwrap?_eq, matched.kind_eq]
    split
    · refine rel_bind matched.firstPart ?_
      rintro first second ⟨same, isChild⟩
      exact ih first isChild same.toMatches
    · exact .some matched

theorem identifier?_eq (matched : Matches condition before after) :
    after.identifier? = before.identifier? := by
  rw [identifier?_eq_bind, identifier?_eq_bind]
  refine bind_eq_of_rel matched.unwrap? fun first second same => ?_
  rw [same.kind_eq]
  split
  next isIdentifier => rw [same.text_eq_of_identifier isIdentifier]
  next => rfl

theorem arguments (matched : Matches condition before after) :
    List.Forall₂ (Corresponds condition) before.arguments after.arguments := by
  have found := matched.child? .arguments
  unfold Site.arguments
  generalize before.child? .arguments = list at found ⊢
  generalize after.child? .arguments = listAfter at found ⊢
  cases found with
  | none => exact .nil
  | some same => exact same.parts

theorem childText_eq (matched : Matches condition before after) {role : Role}
    (isWord : [some Role.field, some .operator].contains (some role) = true) :
    after.childText role = before.childText role := by
  rw [childText_eq_child?, childText_eq_child?]
  refine congrArg (Option.getD · "") (map_eq_of_rel (matched.child?_role role) ?_)
  rintro first second ⟨same, _, inRole⟩
  apply same.text_eq
  rw [Node.isWord, inRole, isWord, Bool.or_true]

theorem declaredName_eq (matched : Matches condition before after)
    (isNamed : before.node.isNamed = true) : after.declaredName = before.declaredName :=
  congrArg (Option.getD · "") (matched.node.keeps.name isNamed)

theorem plusOperands (matched : Matches condition before after) :
    List.Forall₂ (Matches condition) before.plusOperands after.plusOperands := by
  induction before using induction_children generalizing after with
  | step before ih =>
    -- The operands of a sum are found by their roles, which comments do not have.
    have inRole : ∀ role, List.Forall₂ (Matches condition)
        (operandsOfFirst before.children (·.role == some role))
        (operandsOfFirst after.children (·.role == some role)) := by
      refine fun role => operandsOfFirst_of_rel (rel_imp (matched.child?_role role) ?_)
      rintro first second ⟨same, isChild, _⟩
      exact ih first isChild same.toMatches
    rw [plusOperands_eq, plusOperands_eq, matched.kind_eq, matched.childText_eq (by decide)]
    split
    · refine operandsOfFirst_of_rel (rel_imp matched.firstPart ?_)
      rintro first second ⟨same, isChild⟩
      exact ih first isChild same.toMatches
    · split
      · exact List.rel_append (inRole .left) (inRole .right)
      · exact .cons matched .nil

end Matches

end Site

end JavaAudit
