import JavaAudit.Text.Alphanumeric
import JavaAudit.Tree.Site

/-! Canonical text of syntax.

Searches in source text must not depend on how the source is laid out. A node is therefore written
again from its tokens, without comments, on one line and with one spacing policy:
`x=a+b;` becomes `x = a + b;` and `foo( a,b )` becomes `foo(a, b)`. -/

set_option autoImplicit false

namespace JavaAudit

inductive TokenClass where
  | word
  | operator
  | punctuation
  deriving DecidableEq, Repr

structure Token where
  text : String
  cls : TokenClass
  deriving DecidableEq, Repr

namespace Kind

/-- Nodes written as one token although they have children. -/
def isAtomic : Kind → Bool
  | .stringLiteral | .characterLiteral | .textBlock => true
  | _ => false

def spacesOperators : Kind → Bool
  | .binaryExpression | .assignmentExpression | .variableDeclarator | .ternaryExpression
    | .lambdaExpression | .enhancedForStatement | .resource | .elementValuePair
    | .switchRule => true
  | _ => false

end Kind

namespace Token

def operators : List String := [
  "=", "+=", "-=", "*=", "/=", "%=", "&=", "|=", "^=", "<<=", ">>=", ">>>=",
  "+", "-", "*", "/", "%", "==", "!=", "<", ">", "<=", ">=", "&&", "||",
  "&", "|", "^", "<<", ">>", ">>>", "?", ":", "->"]

/-- Keywords that keep a space before their parenthesis. -/
def controlKeywords : List String :=
  ["if", "for", "while", "switch", "catch", "synchronized", "try"]

def expressionKeywords : List String :=
  ["return", "throw", "case", "assert", "yield", "new", "else"]

def tightBefore : List String := [")", ";", ",", ".", "]", "::"]

def startsWord : List Char → Bool
  | [] => false
  | first :: _ =>
    Text.isAlphanumeric first || first == '_' || first == '$' || first == '"' || first == '\''

def ofLeaf? (parent : Option Kind) (label : Label) : Option Token :=
  if label.text.isEmpty then none
  else if startsWord label.text.toList then some ⟨label.text, .word⟩
  else if !label.named && operators.contains label.text && parent.any Kind.spacesOperators then
    some ⟨label.text, .operator⟩
  else some ⟨label.text, .punctuation⟩

/-- Is there a space between two neighbouring tokens? -/
def needsSpace (previous current : Token) : Bool :=
  if current.cls == .operator || previous.cls == .operator then true
  else if tightBefore.contains current.text then false
  else if [",", ";", ":", "\x7b", "\x7d"].contains previous.text
      || ["\x7b", "\x7d"].contains current.text then true
  else if previous.cls == .word && current.cls == .word then true
  else if controlKeywords.contains previous.text && current.text == "(" then true
  else if expressionKeywords.contains previous.text then true
  else [")", "]", ">", "..."].contains previous.text && current.cls == .word

def spacedAfter (previous : Token) : List Token → List Char
  | [] => []
  | current :: rest =>
    (if needsSpace previous current then [' '] else []) ++ current.text.toList ++
      spacedAfter current rest

def spaced : List Token → List Char
  | [] => []
  | first :: rest => first.text.toList ++ spacedAfter first rest

end Token

mutual

/-- The tokens of a node below a parent of the given kind, in order and without comments. -/
def Node.tokens (parent : Option Kind) : Node → List Token
  | .node label children =>
    if label.kind.isComment then []
    else if label.kind.isAtomic || children.isEmpty then (Token.ofLeaf? parent label).toList
    else Node.tokensAll label.kind children

def Node.tokensAll (parent : Kind) : List Node → List Token
  | [] => []
  | child :: rest => child.tokens (some parent) ++ Node.tokensAll parent rest

end

namespace Site

def tokens (site : Site) : List Token :=
  site.node.tokens (site.above.head?.map (·.node.kind))

def render (site : Site) : String :=
  String.ofList (Token.spaced site.tokens)

def headerTokens (site : Site) : List Token :=
  let bodyStart := (site.node.child? .body).map Node.start
  let header := site.children.takeWhile fun child => bodyStart != some child.node.start
  (header.filter (·.kind != .semicolon)).flatMap tokens

def renderHeader (site : Site) : String :=
  String.ofList (Token.spaced site.headerTokens)

end Site

def renderOf (site : Option Site) : String :=
  (site.map Site.render).getD ""

namespace Token

theorem not_word_of_mem_operators :
    ∀ operator ∈ operators, operator.isEmpty = false ∧ startsWord operator.toList = false := by
  decide +kernel

theorem needsSpace_of_operator {operator : Token} (isOperator : operator.cls = .operator)
    (other : Token) :
    needsSpace other operator = true ∧ needsSpace operator other = true := by
  simp [needsSpace, isOperator]

theorem spacedAfter_append (previous : Token) (before : List Token) {operator : Token}
    (isOperator : operator.cls = .operator) (after : List Token) :
    spacedAfter previous (before ++ operator :: after) =
      spacedAfter previous before ++
        ' ' :: (operator.text.toList ++ spacedAfter operator after) := by
  induction before generalizing previous with
  | nil => simp [spacedAfter, (needsSpace_of_operator isOperator previous).1]
  | cons current before ih =>
    rw [List.cons_append, spacedAfter, ih, spacedAfter]
    simp only [List.append_assoc]

theorem spaced_append {before : List Token} (nonempty : before ≠ []) {operator : Token}
    (isOperator : operator.cls = .operator) (after : List Token) :
    spaced (before ++ operator :: after) =
      spaced before ++ ' ' :: (operator.text.toList ++ spacedAfter operator after) := by
  cases before with
  | nil => contradiction
  | cons first before =>
    rw [List.cons_append, spaced, spacedAfter_append _ _ isOperator, spaced, List.append_assoc]

theorem spacedAfter_operator {operator : Token} (isOperator : operator.cls = .operator)
    (after : List Token) :
    spacedAfter operator after = if after.isEmpty then [] else ' ' :: spaced after := by
  cases after with
  | nil => rfl
  | cons first rest => simp [spacedAfter, (needsSpace_of_operator isOperator first).2, spaced]

theorem exists_spacedAfter_concat (previous : Token) (before : List Token) (last : Token) :
    ∃ text, spacedAfter previous (before ++ [last]) = text ++ last.text.toList := by
  induction before generalizing previous with
  | nil => exact ⟨_, List.append_nil _⟩
  | cons current before ih =>
    obtain ⟨text, found⟩ := ih current
    rw [List.cons_append, spacedAfter, found, ← List.append_assoc]
    exact ⟨_, rfl⟩

theorem exists_spaced_concat (before : List Token) (last : Token) :
    ∃ text, spaced (before ++ [last]) = text ++ last.text.toList := by
  cases before with
  | nil => exact ⟨[], List.append_nil _⟩
  | cons first before =>
    obtain ⟨text, found⟩ := exists_spacedAfter_concat first before last
    rw [List.cons_append, spaced, found, ← List.append_assoc]
    exact ⟨_, rfl⟩

theorem text_ofLeaf? (parent : Option Kind) (label : Label) :
    (ofLeaf? parent label).toList.flatMap (·.text.toList) = label.text.toList := by
  unfold ofLeaf?
  split
  next empty => simp [String.isEmpty_iff.mp empty]
  next =>
    split
    · simp
    · split <;> simp

theorem spaced_ofLeaf? (parent : Option Kind) (label : Label) :
    spaced (ofLeaf? parent label).toList = label.text.toList := by
  rw [← text_ofLeaf? parent label]
  cases ofLeaf? parent label <;> simp [spaced, spacedAfter]

theorem filter_spacedAfter (previous : Token) (tokens : List Token) :
    (spacedAfter previous tokens).filter (· != ' ') =
      (tokens.flatMap (·.text.toList)).filter (· != ' ') := by
  induction tokens generalizing previous with
  | nil => rfl
  | cons token rest ih =>
    have gap : (if needsSpace previous token then [' '] else []).filter (· != ' ') = [] := by
      split <;> rfl
    rw [spacedAfter, List.flatMap_cons, List.filter_append, List.filter_append, List.filter_append,
      gap, ih, List.nil_append]

theorem filter_spaced (tokens : List Token) :
    (spaced tokens).filter (· != ' ') = (tokens.flatMap (·.text.toList)).filter (· != ' ') := by
  cases tokens with
  | nil => rfl
  | cons first rest =>
    rw [spaced, List.flatMap_cons, List.filter_append, List.filter_append, filter_spacedAfter]

def gap (previous current : Token) : List Char :=
  if needsSpace previous current then [' '] else []

theorem spacedAfter_cons (previous current : Token) (after : List Token) :
    spacedAfter previous (current :: after) =
      gap previous current ++ (current.text.toList ++ spacedAfter current after) := by
  rw [spacedAfter, List.append_assoc]
  rfl

theorem spacedAfter_append_cons (previous : Token) (before : List Token) (first second : Token)
    (after : List Token) :
    spacedAfter previous (before ++ first :: second :: after) =
      spacedAfter previous (before ++ [first]) ++
        (gap first second ++ spaced (second :: after)) := by
  induction before generalizing previous with
  | nil =>
    simp only [List.nil_append, spacedAfter_cons, spacedAfter.eq_1, spaced, List.append_nil,
      List.append_assoc]
  | cons token before ih =>
    rw [List.cons_append, spacedAfter_cons, ih, List.cons_append, spacedAfter_cons]
    simp only [List.append_assoc]

theorem spaced_append_cons (before : List Token) (first second : Token) (after : List Token) :
    spaced (before ++ first :: second :: after) =
      spaced (before ++ [first]) ++ (gap first second ++ spaced (second :: after)) := by
  cases before with
  | nil =>
    simp only [List.nil_append, spaced, spacedAfter_cons, spacedAfter.eq_1, List.append_nil]
  | cons token before =>
    simp only [List.cons_append, spaced, spacedAfter_append_cons, List.append_assoc]

theorem spaced_prefix_append (tokens more : List Token) :
    spaced tokens <+: spaced (tokens ++ more) := by
  rcases tokens.eq_nil_or_concat with rfl | ⟨before, last, rfl⟩
  · exact List.nil_prefix
  · cases more with
    | nil => exact ⟨[], by simp⟩
    | cons next more =>
      rw [List.concat_append, List.concat_eq_append, spaced_append_cons]
      exact List.prefix_append ..

theorem spaced_suffix_append (before tokens : List Token) :
    spaced tokens <:+ spaced (before ++ tokens) := by
  rcases before.eq_nil_or_concat with rfl | ⟨before, last, rfl⟩
  · exact List.suffix_refl _
  · cases tokens with
    | nil => exact List.nil_suffix
    | cons next tokens =>
      rw [List.concat_append, spaced_append_cons, ← List.append_assoc]
      exact List.suffix_append ..

/-- Consecutive tokens are written alike alone and among others. -/
theorem spaced_infix {part whole : List Token} (inside : part <:+: whole) :
    spaced part <:+: spaced whole := by
  obtain ⟨before, after, rfl⟩ := inside
  exact (spaced_suffix_append before part).isInfix.trans
    (spaced_prefix_append (before ++ part) after).isInfix

end Token

namespace Node

theorem tokensAll_eq (parent : Kind) (nodes : List Node) :
    tokensAll parent nodes = nodes.flatMap (tokens (some parent)) := by
  induction nodes with
  | nil => rfl
  | cons first rest ih => rw [tokensAll, ih, List.flatMap_cons]

/-- The parent decides only which tokens get blanks around them, and a leaf has but one token. -/
theorem spaced_tokens (parent other : Option Kind) (node : Node) :
    Token.spaced (node.tokens parent) = Token.spaced (node.tokens other) := by
  obtain ⟨label, children⟩ := node
  rw [tokens, tokens]
  split
  next => rfl
  next =>
    split
    next => rw [Token.spaced_ofLeaf?, Token.spaced_ofLeaf?]
    next => rfl

def isToken (node : Node) : Bool :=
  node.kind.isAtomic || node.children.isEmpty

theorem tokens_eq (node : Node) (parent : Option Kind) :
    node.tokens parent =
      if node.kind.isComment then []
      else if node.isToken then (Token.ofLeaf? parent node.label).toList
      else node.children.flatMap (tokens (some node.kind)) := by
  obtain ⟨label, children⟩ := node
  rw [tokens, tokensAll_eq]
  rfl

theorem tokens_congr (node : Node) {first second : Option Kind}
    (same : second.any Kind.spacesOperators = first.any Kind.spacesOperators) :
    node.tokens second = node.tokens first := by
  -- Assignments and sums space operators alike, so an operand is written alike in them.
  rw [Node.tokens_eq, Node.tokens_eq, Token.ofLeaf?, Token.ofLeaf?, same]

end Node

namespace Site

theorem toList_render (site : Site) : site.render.toList = Token.spaced site.tokens := by
  rw [render, String.toList_ofList]

theorem render_eq (site : Site) :
    site.render = String.ofList (Token.spaced (site.node.tokens none)) := by
  rw [render, tokens, Node.spaced_tokens _ none]

end Site

end JavaAudit
