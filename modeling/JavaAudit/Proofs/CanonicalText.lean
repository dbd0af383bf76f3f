import JavaAudit.Outline
import JavaAudit.Proofs.Nesting
import JavaAudit.Proofs.SampleTrees
import JavaAudit.Rendering

/-! Canonical text and layout.

The canonical text of a node consists of the words of its tree with blanks between them. Main
statement: it depends only on what is left of the tree without comments and layout, if no part of
the code is made of comments alone. -/

set_option autoImplicit false

namespace JavaAudit

/-- What remains of a label without layout: only a token keeps its text. -/
def Label.bare (isToken : Bool) (label : Label) : Label where
  kind := label.kind
  named := label.named
  missing := false
  role := none
  start := 0
  stop := 0
  line := 0
  endLine := 0
  text := if isToken then label.text else ""

namespace Node

mutual

/-- The tree without its comments and its layout; of a comment nothing remains. -/
def bare? : Node → Option Node
  | .node label children =>
    if label.kind.isComment then none
    else
      some (.node (label.bare (label.kind.isAtomic || (bareAll children).isEmpty))
        (bareAll children))

def bareAll : List Node → List Node
  | [] => []
  | child :: rest => child.bare?.toList ++ bareAll rest

end

mutual

/-- The texts of the tokens outside comments, in order. -/
def words : Node → List String
  | .node label children =>
    if label.kind.isComment then []
    else if label.kind.isAtomic || children.isEmpty then [label.text]
    else wordsAll children

def wordsAll : List Node → List String
  | [] => []
  | child :: rest => child.words ++ wordsAll rest

end

/-- A node of the code with children has one that is no comment. -/
def HoldsCode (node : Node) : Prop :=
  node.kind.isComment = true ∨ node.children = [] ∨
    ∃ child ∈ node.children, child.kind.isComment = false

instance : DecidablePred HoldsCode :=
  fun _ => inferInstanceAs (Decidable (_ ∨ _ ∨ _))

theorem bare?_eq_none_iff {node : Node} : node.bare? = none ↔ node.kind.isComment = true := by
  obtain ⟨label, children⟩ := node
  rw [bare?]
  split <;> simp_all [kind, Node.label]

theorem bareAll_eq_nil_iff {nodes : List Node} :
    bareAll nodes = [] ↔ ∀ node ∈ nodes, node.kind.isComment = true := by
  induction nodes with
  | nil => simp [bareAll]
  | cons node rest ih =>
    rw [bareAll, List.append_eq_nil_iff, Option.toList_eq_nil_iff, bare?_eq_none_iff, ih,
      List.forall_mem_cons]

theorem HoldsCode.isEmpty_bareAll {label : Label} {children : List Node}
    (holds : HoldsCode (.node label children)) (isCode : label.kind.isComment = false) :
    (bareAll children).isEmpty = children.isEmpty := by
  rw [Bool.eq_iff_iff, List.isEmpty_iff, List.isEmpty_iff, bareAll_eq_nil_iff]
  rcases holds with isComment | isLeaf | ⟨child, isChild, isCodeChild⟩
  · exact absurd (isCode.symm.trans isComment) Bool.false_ne_true
  · obtain rfl : children = [] := isLeaf
    simp
  · have filled : children ≠ [] := List.ne_nil_of_mem isChild
    refine iff_of_false (fun onlyComments => ?_) filled
    exact absurd (isCodeChild.symm.trans (onlyComments child isChild)) Bool.false_ne_true

mutual

/-- The tokens of a node are those of its bare tree. -/
theorem tokens_bare? (parent : Option Kind) : ∀ {node : Node}, node.Everywhere HoldsCode →
    node.bare?.toList.flatMap (tokens parent) = node.tokens parent
  | .node label children, .intro holds below => by
    rw [bare?, tokens]
    cases isCode : label.kind.isComment with
    | true => rfl
    | false =>
      simp only [Bool.false_eq_true, if_false, Option.toList_some, List.flatMap_singleton, tokens,
        Label.bare, holds.isEmpty_bareAll isCode, isCode]
      split
      next => rfl
      next => exact tokensAll_bareAll label.kind below

theorem tokensAll_bareAll (parent : Kind) : ∀ {nodes : List Node},
    (∀ node ∈ nodes, node.Everywhere HoldsCode) →
    tokensAll parent (bareAll nodes) = tokensAll parent nodes
  | [], _ => rfl
  | first :: rest, holds => by
    rw [List.forall_mem_cons] at holds
    have ofRest := tokensAll_bareAll parent holds.2
    rw [tokensAll_eq] at ofRest
    rw [tokensAll_eq, bareAll, List.flatMap_append, tokens_bare? (some parent) holds.1, ofRest,
      tokensAll]

end

mutual

theorem texts_tokens (parent : Option Kind) : ∀ node : Node,
    (node.tokens parent).flatMap (·.text.toList) = node.words.flatMap String.toList
  | .node label children => by
    rw [tokens, words]
    split
    next => rfl
    next =>
      split
      next => rw [Token.text_ofLeaf?, List.flatMap_singleton]
      next => exact texts_tokensAll label.kind children

theorem texts_tokensAll (parent : Kind) : ∀ nodes : List Node,
    (tokensAll parent nodes).flatMap (·.text.toList) = (wordsAll nodes).flatMap String.toList
  | [] => rfl
  | first :: rest => by
    rw [tokensAll, wordsAll, List.flatMap_append, List.flatMap_append,
      texts_tokens (some parent) first, texts_tokensAll parent rest]

end

end Node

namespace Site

/-- Nodes whose trees are the same without comments and layout have the same canonical text, if no
part of the code is made of comments alone. It has the words of the tree and, apart from them,
nothing but blanks. -/
theorem render_ignores_layout (left right : Site) (leftHolds : left.node.Everywhere Node.HoldsCode)
    (rightHolds : right.node.Everywhere Node.HoldsCode)
    (same : left.node.bare? = right.node.bare?) :
    left.render = right.render ∧
      left.render.toList.filter (· != ' ') =
        (left.node.words.flatMap String.toList).filter (· != ' ') := by
  constructor
  · rw [render_eq, render_eq, ← Node.tokens_bare? none leftHolds, same,
      Node.tokens_bare? none rightHolds]
  · rw [render_eq, String.toList_ofList, Token.filter_spaced, Node.texts_tokens]

/-- A call with a literal as its argument is assigned; the layouts differ and one has a comment. -/
def assignedCall (source : String) (operator call opening literal closing : Nat)
    (comments : List Node) : Node :=
  let node := Node.ofAscii source
  let token := Node.token source
  node .assignmentExpression true none 0 (closing + 1) [
    node .identifier true (some .left) 0 1 [],
    node (.other "=") false (some .operator) operator (operator + 1) [],
    node .methodInvocation true (some .right) call (closing + 1) [
      node .identifier true (some .name) call (call + 1) [],
      node .argumentList true (some .arguments) opening (closing + 1) (
        token "(" opening :: comments ++ [
          node .stringLiteral true none literal (literal + 5) [
            token "\"" literal,
            node (.other "string_fragment") true none (literal + 1) (literal + 4) [],
            token "\"" (literal + 4)],
          token ")" closing])]]

def commentedCall : Node :=
  let source := "s=f(/* c */\"x y\")"
  assignedCall source 1 2 3 11 16 [.ofAscii source .blockComment true none 4 11 []]

def spreadCall : Node :=
  assignedCall "s = f (\n  \"x y\" )" 2 4 6 10 16 []

theorem commented_call_renders_as_spread :
    commentedCall.Everywhere Node.HoldsCode ∧ spreadCall.Everywhere Node.HoldsCode ∧
      commentedCall.bare? = spreadCall.bare? ∧
      (root commentedCall).render = (root spreadCall).render ∧
      (root spreadCall).render = "s = f(\"x y\")" := by
  have commentedHolds : commentedCall.Everywhere Node.HoldsCode := by decide +kernel
  have spreadHolds : spreadCall.Everywhere Node.HoldsCode := by decide +kernel
  have same : commentedCall.bare? = spreadCall.bare? := by cbv
  exact ⟨commentedHolds, spreadHolds, same,
    (render_ignores_layout (root commentedCall) (root spreadCall) commentedHolds spreadHolds
      same).1, by decide +kernel⟩

end Site

end JavaAudit
