import Mathlib.Data.List.TakeWhile
import JavaAudit.Proofs.RenderedParts

/-! Headers of methods.

The header of a method is cut off where a child starts at the offset of the body, and it is written
without semicolons. Main statement: the text of a method begins with its header. The text of the
body follows after at most one blank, or the semicolon that stands for a body without any. -/

set_option autoImplicit false

namespace JavaAudit

namespace Token

/-- What is written between two runs of tokens; nothing, if one of them is empty. -/
def seam (before after : List Token) : List Char :=
  match before.getLast?, after.head? with
  | some last, some first => gap last first
  | _, _ => []

theorem spaced_append_seam (before after : List Token) :
    spaced (before ++ after) = spaced before ++ (seam before after ++ spaced after) := by
  rcases before.eq_nil_or_concat with rfl | ⟨before, last, rfl⟩
  · rfl
  · cases after with
    | nil => simp [seam, spaced]
    | cons first after =>
      rw [List.concat_append, List.concat_eq_append, spaced_append_cons, seam,
        List.getLast?_concat]
      rfl

theorem seam_eq_nil_or_blank (before after : List Token) :
    seam before after = [] ∨ seam before after = [' '] := by
  unfold seam
  split
  · rw [gap]
    split
    · exact .inr rfl
    · exact .inl rfl
  · exact .inl rfl

theorem gap_semicolon {previous : Token} (unspaced : previous.cls ≠ .operator) :
    gap previous ⟨";", .punctuation⟩ = [] := by
  have tight : ";" ∈ tightBefore := by decide
  simp [gap, needsSpace, unspaced, tight]

end Token

namespace Node

structure IsSemicolon (node : Node) : Prop where
  kind : node.kind = .semicolon
  leaf : node.children = []
  text : node.text = ";"

theorem IsSemicolon.tokens_eq {node : Node} (semicolon : node.IsSemicolon) (parent : Option Kind) :
    node.tokens parent = [⟨";", .punctuation⟩] := by
  have isToken : node.isToken = true := by
    rw [isToken, semicolon.leaf, List.isEmpty_nil, Bool.or_true]
  have text : node.label.text = ";" := semicolon.text
  have noWord : Token.startsWord ";".toList = false := by decide +kernel
  have noOperator : Token.operators.contains ";" = false := by decide
  rw [Node.tokens_eq, semicolon.kind, isToken, Token.ofLeaf?, text, noWord, noOperator,
    Bool.and_false]
  rfl

end Node

namespace Site

theorem tokens_eq_flatMap {site child : Site} (isOpen : site.kind.isSealed = false)
    (isChild : child ∈ site.children) : site.tokens = site.children.flatMap tokens := by
  obtain ⟨index, node, found, rfl⟩ := mem_children_iff.mp isChild
  have ofChildren : ∀ child ∈ site.children,
      child.tokens = child.node.tokens (some site.node.kind) := by
    intro child isChild
    obtain ⟨_, _, _, rfl⟩ := mem_children_iff.mp isChild
    rfl
  rw [List.flatMap_congr ofChildren, tokens,
    Node.tokens_of_mem_children isOpen (List.mem_of_getElem? found), ← map_node_children,
    List.flatMap_map]

/-- The children of a method with a body start one after the other, and no semicolon stands before
the body. -/
structure IsDefined (method body : Site) : Prop where
  isMethod : method.kind.isMethod = true
  hasBody : method.child? .body = some body
  ascending : method.children.Pairwise fun left right => left.node.start < right.node.start
  noSemicolon : ∀ child ∈ method.children, child.node.start < body.node.start →
    child.kind ≠ .semicolon

/-- A method without a body has a semicolon as its last child and nowhere else. In front of it there
is no operator with blanks around it. -/
structure IsDeclared (method : Site) : Prop where
  isMethod : method.kind.isMethod = true
  bodiless : method.child? .body = none
  semicolon : ∃ header last, method.children = header ++ [last] ∧ last.node.IsSemicolon ∧
    ∀ child ∈ header, child.kind ≠ .semicolon
  unspaced : ∀ token ∈ method.headerTokens.getLast?, token.cls ≠ .operator

theorem isSealed_of_isMethod {site : Site} (isMethod : site.kind.isMethod = true) :
    site.kind.isSealed = false := by
  cases kind : site.kind <;> simp_all [Kind.isMethod, Kind.isSealed, Kind.isComment, Kind.isAtomic]

theorem filter_semicolon_eq_self {children : List Site}
    (none : ∀ child ∈ children, child.kind ≠ .semicolon) :
    children.filter (·.kind != .semicolon) = children := by
  refine List.filter_eq_self.mpr fun child member => ?_
  simpa using none child member

/-- The tokens of a method are those of the header, then those of the body, then the others. -/
theorem IsDefined.tokens_eq {method body : Site} (defined : method.IsDefined body) :
    ∃ later, method.tokens = method.headerTokens ++ (body.tokens ++ later) := by
  obtain ⟨_, before, after, children, _⟩ := List.find?_eq_some_iff_append.mp defined.hasBody
  have start : (method.node.child? .body).map Node.start = some body.node.start := by
    rw [← map_node_child?, defined.hasBody]
    rfl
  have earlier : ∀ child ∈ before, child.node.start < body.node.start := by
    have ascending := defined.ascending
    rw [children, List.pairwise_append] at ascending
    exact fun child member => ascending.2.2 child member body (List.mem_cons_self ..)
  -- The offsets increase, so the cut at the offset of the body is the cut at the body.
  have cut : method.children.takeWhile (fun child =>
      (method.node.child? .body).map Node.start != some child.node.start) = before := by
    rw [start, children, List.takeWhile_append_of_pos]
    · simp
    · intro child member
      simpa using (earlier child member).ne'
  have noSemicolon : ∀ child ∈ before, child.kind ≠ .semicolon := fun child member =>
    defined.noSemicolon child (by simp [children, member]) (earlier child member)
  have header : method.headerTokens = before.flatMap tokens := by
    rw [headerTokens, cut, filter_semicolon_eq_self noSemicolon]
  have isChild : body ∈ method.children := by simp [children]
  refine ⟨after.flatMap tokens, ?_⟩
  rw [tokens_eq_flatMap (isSealed_of_isMethod defined.isMethod) isChild, header, children,
    List.flatMap_append, List.flatMap_cons]

theorem IsDeclared.tokens_eq {method : Site} (declared : method.IsDeclared) :
    method.tokens = method.headerTokens ++ [⟨";", .punctuation⟩] := by
  obtain ⟨header, last, children, semicolon, noSemicolon⟩ := declared.semicolon
  have noStart : (method.node.child? .body).map Node.start = none := by
    rw [← map_node_child?, declared.bodiless]
    rfl
  have isLast : last.kind = .semicolon := semicolon.kind
  have headerTokens : method.headerTokens = header.flatMap tokens := by
    -- Without a body nothing is cut off; only the semicolon is left out.
    have whole : method.children.takeWhile (fun child =>
        (none : Option Nat) != some child.node.start) = method.children :=
      List.takeWhile_eq_self_iff.mpr fun _ _ => rfl
    rw [headerTokens, noStart, whole, children, List.filter_append,
      filter_semicolon_eq_self noSemicolon]
    simp [isLast]
  have isChild : last ∈ method.children := by simp [children]
  rw [tokens_eq_flatMap (isSealed_of_isMethod declared.isMethod) isChild, headerTokens, children,
    List.flatMap_append, List.flatMap_singleton, tokens, semicolon.tokens_eq]

/-- The text of a method with a body begins with its header, and the text of the body follows after
at most one blank. The text of a method without a body is its header and a semicolon. -/
theorem header_begins_method (method : Site) :
    (∀ body, method.IsDefined body → ∃ gap rest : String, (gap = "" ∨ gap = " ") ∧
      method.render = method.renderHeader ++ gap ++ body.render ++ rest) ∧
    (method.IsDeclared → method.render = method.renderHeader ++ ";") := by
  constructor
  · intro body defined
    obtain ⟨later, tokens⟩ := defined.tokens_eq
    refine ⟨String.ofList (Token.seam method.headerTokens (body.tokens ++ later)),
      String.ofList (Token.seam body.tokens later ++ Token.spaced later), ?_, ?_⟩
    · rcases Token.seam_eq_nil_or_blank method.headerTokens (body.tokens ++ later) with same | same
      · exact .inl (by rw [same])
      · exact .inr (by rw [same])
    · simp only [render, renderHeader, tokens, Token.spaced_append_seam, ← String.ofList_append,
        List.append_assoc]
  · intro declared
    -- No blank is written in front of a semicolon.
    have seam : Token.seam method.headerTokens [⟨";", .punctuation⟩] = [] := by
      unfold Token.seam
      split
      next last first isLast isFirst =>
        obtain rfl : _ = first := Option.some.inj isFirst
        exact Token.gap_semicolon (declared.unspaced last isLast)
      next => rfl
    rw [render, declared.tokens_eq, Token.spaced_append_seam, seam, List.nil_append,
      String.ofList_append]
    rfl

def plainHeader (source : String) : List Node :=
  let node := Node.ofAscii source
  let token := Node.token source
  [node (.other "integral_type") true (some .type) 0 3 [token "int" 0],
    node .identifier true (some .name) 4 5 [],
    node (.other "formal_parameters") true (some .parameters) 5 7 [token "(" 5, token ")" 6]]

def definedMethod : Node :=
  let source := "int f()/* c */\x7b return 1; \x7d"
  let node := Node.ofAscii source
  let token := Node.token source
  node .methodDeclaration true none 0 27 (plainHeader source ++ [
    node .blockComment true none 7 14 [],
    node .block true (some .body) 14 27 [
      token "\x7b" 14,
      node .returnStatement true none 16 25 [
        token "return" 16, node .decimalIntegerLiteral true none 23 24 [],
        node .semicolon false none 24 25 []],
      token "\x7d" 26]])

def declaredMethod : Node :=
  let source := "int f() [] ;"
  let node := Node.ofAscii source
  let token := Node.token source
  node .methodDeclaration true none 0 12 (plainHeader source ++ [
    node (.other "dimensions") true (some (.other "dimensions")) 8 10 [token "[" 8, token "]" 9],
    node .semicolon false none 11 12 []])

theorem headers_begin_methods :
    (∃ body, (root definedMethod).IsDefined body ∧
      (root definedMethod).renderHeader = "int f()" ∧ body.render = "\x7b return 1; \x7d" ∧
      ∃ gap rest : String, (gap = "" ∨ gap = " ") ∧
        (root definedMethod).render =
          (root definedMethod).renderHeader ++ gap ++ body.render ++ rest) ∧
    (root declaredMethod).IsDeclared ∧
      (root declaredMethod).render = (root declaredMethod).renderHeader ++ ";" := by
  -- The header of the first method ends at the comment in front of the body, and that of the
  -- second one at the semicolon.
  let body := ((root definedMethod).child? .body).get (by decide +kernel)
  have defined : (root definedMethod).IsDefined body := by
    exact ⟨rfl, (Option.some_get _).symm, by decide +kernel, by decide +kernel⟩
  have declared : (root declaredMethod).IsDeclared := by
    refine ⟨rfl, by decide +kernel,
      ⟨_, _, (List.dropLast_concat_getLast (by decide +kernel)).symm, ?_, by decide +kernel⟩,
      by decide +kernel⟩
    exact ⟨by decide +kernel, by decide +kernel, by decide +kernel⟩
  exact ⟨⟨body, defined, by decide +kernel, by decide +kernel,
    (header_begins_method (root definedMethod)).1 body defined⟩, declared,
    (header_begins_method (root declaredMethod)).2 declared⟩

end Site

end JavaAudit
