import JavaAudit.Numeral.Integer
import JavaAudit.Proofs.InsertedComments
import JavaAudit.Security.Check

/-! Reading a tree with accesses that can fail.

A child in a role, the parent of a node, the first item of a list may not be there. A strict
reading stops at an access that finds nothing, so it comes to an end only if each such access
stands behind a test. The strict readings below are those that the checks are made of; each comes
to an end, with what the plain reading gives. -/

set_option autoImplicit false

namespace JavaAudit

inductive Fault where
  /-- A node is read that is not there. -/
  | absentNode
  /-- An item is read past the end of a list or a text. -/
  | absentItem
  /-- A context is asked for what it does not hold. -/
  | absentContext
  /-- A proportion of nothing is taken. -/
  | emptyTotal
  /-- A number is read off a text that denotes none. -/
  | malformedNumeral
  deriving DecidableEq, Repr

abbrev Strict (α : Type) := Except Fault α

namespace Strict

variable {α : Type}

def node : Option Site → Strict Site
  | some site => pure site
  | none => throw .absentNode

def item (items : List α) (index : Nat) : Strict α :=
  match items[index]? with
  | some item => pure item
  | none => throw .absentItem

/-- A conjunction that does not evaluate its second part if the first is false. -/
def both (first : Bool) (second : Strict Bool) : Strict Bool :=
  if first then second else pure false

def either (first : Bool) (second : Strict Bool) : Strict Bool :=
  if first then pure true else second

@[simp] theorem node_some (site : Site) : node (some site) = pure site := rfl

@[simp] theorem item_cons_zero (first : α) (rest : List α) : item (first :: rest) 0 = pure first :=
  rfl

@[simp] theorem both_true (second : Strict Bool) : both true second = second := rfl

@[simp] theorem either_true (second : Strict Bool) : either true second = pure true := rfl

@[simp] theorem either_false (second : Strict Bool) : either false second = second := rfl

@[simp] theorem both_pure (first second : Bool) :
    both first (pure second) = pure (first && second) := by
  cases first <;> rfl

@[simp] theorem either_pure (first second : Bool) :
    either first (pure second) = pure (first || second) := by
  cases first <;> rfl

@[simp] theorem ite_pure (condition : Prop) [Decidable condition] (first second : α) :
    (if condition then pure first else pure second : Strict α) =
      pure (if condition then first else second) :=
  (apply_ite pure condition first second).symm

theorem both_isSome (site : Option Site) (test : Site → Bool) :
    (both site.isSome do return test (← node site)) = pure (site.any test) := by
  cases site <;> rfl

def textOf (site : Option Site) : Strict String := do
  if site.isNone then return ""
  return (← node site).text

theorem textOf_eq (site : Option Site) : textOf site = pure ((site.map Site.text).getD "") := by
  cases site <;> rfl

@[simp] theorem textOf_child? (site : Site) (role : Role) :
    textOf (site.child? role) = pure (site.childText role) := by
  rw [textOf_eq, Site.childText_eq_child?]

def startsWord (text : List Char) : Strict Bool := do
  let first ← item text 0
  return Text.isAlphanumeric first || first == '_' || first == '$' || first == '"' || first == '\''

theorem startsWord_eq {text : List Char} (written : text ≠ []) :
    startsWord text = pure (Token.startsWord text) := by
  obtain ⟨first, rest, rfl⟩ := List.exists_cons_of_ne_nil written
  rfl

/-- The token of a leaf; only a text that is not empty has a first character to look at. -/
def leafToken? (site : Site) : Strict (Option Token) := do
  if site.text.isEmpty then return none
  if ← startsWord site.text.toList then return some ⟨site.text, .word⟩
  let isOperator := !site.node.named && Token.operators.contains site.text
  if ← both isOperator (both site.parent?.isSome do
      return (← node site.parent?).kind.spacesOperators) then
    return some ⟨site.text, .operator⟩
  return some ⟨site.text, .punctuation⟩

theorem any_parent? (site : Site) (test : Kind → Bool) :
    site.parent?.any (test ·.kind) = (site.above.head?.map (·.node.kind)).any test := by
  unfold Site.parent?
  cases site.above <;> rfl

theorem leafToken?_eq (site : Site) :
    leafToken? site =
      pure (Token.ofLeaf? (site.above.head?.map (·.node.kind)) site.node.label) := by
  simp only [leafToken?, both_isSome, any_parent?, both_pure, pure_bind, ite_pure]
  obtain ⟨⟨label, children⟩, above⟩ := site
  change (if label.text.isEmpty = true then pure none else _) = _
  by_cases blank : label.text.isEmpty = true
  · rw [if_pos blank]
    simp only [Token.ofLeaf?, Node.label, blank, if_true]
  · have written : label.text.toList ≠ [] := by simpa using blank
    have first : startsWord (Site.text ⟨.node label children, above⟩).toList =
        pure (Token.startsWord label.text.toList) := startsWord_eq written
    rw [if_neg blank, first]
    simp only [pure_bind, Token.ofLeaf?, Node.label, blank, Bool.false_eq_true, if_false]
    rfl

def tokens (site : Site) : Strict (List Token) :=
  if site.kind.isComment then pure []
  else if site.node.isToken then do return (← leafToken? site).toList
  else do return (← site.children.attach.mapM fun child => tokens child.val).flatten
termination_by sizeOf site.node
decreasing_by exact Site.size_of_mem_children child.property

theorem flatMap_tokens_children (site : Site) :
    site.children.flatMap Site.tokens =
      site.node.children.flatMap (Node.tokens (some site.node.kind)) := by
  rw [← Site.map_node_children, List.flatMap_map]
  refine List.flatMap_congr fun child isChild => ?_
  obtain ⟨index, above⟩ := Site.above_of_mem_children isChild
  rw [Site.tokens, above]
  rfl

@[simp] theorem tokens_eq (site : Site) : tokens site = pure site.tokens := by
  induction site using Site.induction_children with
  | step site ih =>
    have below : (fun child : {child // child ∈ site.children} => tokens child.val) =
        fun child => pure child.val.tokens := by
      funext child
      exact ih child.val child.property
    rw [tokens, leafToken?_eq, below, List.mapM_pure, pure_bind, pure_bind, ite_pure, ite_pure,
      Site.tokens, Node.tokens_eq, ← flatMap_tokens_children]
    rw [List.attach_map_val, ← List.flatMap_def]
    rfl

def render (site : Option Site) : Strict String := do
  if site.isNone then return ""
  return String.ofList (Token.spaced (← tokens (← node site)))

@[simp] theorem render_eq (site : Option Site) : render site = pure (renderOf site) := by
  cases site with
  | none => rfl
  | some site => simp [render, renderOf, Site.render]

def headerTokens (body : Option Site) : List Site → Strict (List Token)
  | [] => pure []
  | child :: rest => do
    if ← both body.isSome (do return child.node.start == (← node body).node.start) then
      return []
    if child.kind == .semicolon then headerTokens body rest
    else return (← tokens child) ++ (← headerTokens body rest)

def renderHeader (site : Site) : Strict String := do
  return String.ofList (Token.spaced (← headerTokens site.body? site.children))

theorem headerTokens_eq (body : Option Site) (children : List Site) :
    headerTokens body children =
      pure (((children.takeWhile fun child =>
        body.map (·.node.start) != some child.node.start).filter
          (·.kind != .semicolon)).flatMap Site.tokens) := by
  induction children with
  | nil => rfl
  | cons child rest ih =>
    -- The strict loop asks for the body in each turn, the plain one once in front of the
    -- loop.
    have same : body.any (fun inner => child.node.start == inner.node.start) =
        !(body.map (·.node.start) != some child.node.start) := by
      cases body with
      | none => rfl
      | some inner =>
        rw [Option.any_some, Option.map_some, bne, Bool.not_not, Option.some_beq_some, BEq.comm]
    rw [headerTokens, both_isSome, pure_bind, same, ih, List.takeWhile_cons]
    cases (body.map (·.node.start) != some child.node.start) with
    | false => rfl
    | true =>
      simp only [Bool.not_true, Bool.false_eq_true, if_false, if_true, List.filter_cons, tokens_eq,
        pure_bind, ite_pure]
      by_cases semicolon : child.kind = .semicolon <;> simp [semicolon]

@[simp] theorem renderHeader_eq (site : Site) : renderHeader site = pure site.renderHeader := by
  rw [renderHeader, headerTokens_eq, pure_bind, Site.renderHeader, Site.headerTokens,
    ← Site.map_node_child?, Option.map_map]
  rfl

theorem item_attach_bind {β : Type} (items : List α) (read : α → Strict β) :
    (item items.attach 0 >>= fun first => read first.val) = item items 0 >>= read := by
  cases items <;> rfl

def unwrap (site : Site) : Strict (Option Site) :=
  if site.kind != .parenthesizedExpression then pure (some site)
  else if site.parts.isEmpty then pure none
  else do
    let first ← item site.parts.attach 0
    unwrap first.val
termination_by sizeOf site.node
decreasing_by exact Site.size_of_mem_children (List.mem_of_mem_filter first.property)

def unwrapOf (site : Option Site) : Strict (Option Site) := do
  if site.isNone then return none
  unwrap (← node site)

theorem unwrap_eq (site : Site) : unwrap site = pure site.unwrap? := by
  induction site using Site.induction_children with
  | step site ih =>
    have first : site.children.find? (·.node.isPart) = site.parts.head? := List.head?_filter.symm
    rw [unwrap, item_attach_bind site.parts unwrap, Site.unwrap?_eq, first]
    by_cases wrapped : site.kind = .parenthesizedExpression
    · cases parts : site.parts with
      | nil => simp [wrapped]
      | cons inner rest =>
        have isPart : inner ∈ site.parts := by simp [parts]
        simp [wrapped, ih inner (List.mem_of_mem_filter isPart)]
    · simp [wrapped]

@[simp] theorem unwrapOf_eq (site : Option Site) :
    unwrapOf site = pure (site.bind Site.unwrap?) := by
  cases site with
  | none => rfl
  | some site => exact unwrap_eq site

/-- The size of an optional node; an absent node is smaller than any other. -/
noncomputable def size (site : Option Site) : Nat :=
  (site.map (sizeOf ·.node)).getD 0

theorem size_child?_lt (site : Site) (role : Role) :
    size (site.child? role) < sizeOf site.node := by
  cases found : site.child? role with
  | none =>
    obtain ⟨⟨label, children⟩, above⟩ := site
    simp only [size, Option.map_none, Option.getD_none, Node.node.sizeOf_spec]
    omega
  | some child => exact Site.size_of_mem_children (List.mem_of_find?_eq_some found)

theorem size_unwrap?_le {site inner : Site} (unwrapped : site.unwrap? = some inner) :
    sizeOf inner.node ≤ sizeOf site.node := by
  induction site using Site.induction_children with
  | step site ih =>
    rw [Site.unwrap?_eq] at unwrapped
    split at unwrapped
    · obtain ⟨first, found, unwrapped⟩ := Option.bind_eq_some_iff.mp unwrapped
      have isChild := List.mem_of_find?_eq_some found
      have smaller := Site.size_of_mem_children isChild
      have inside := ih first isChild unwrapped
      omega
    · exact Nat.le_of_eq (by rw [Option.some.inj unwrapped])

theorem size_unwrapOf_le {site : Option Site} {inner : Site}
    (unwrapped : unwrapOf site = .ok (some inner)) : sizeOf inner.node ≤ size site := by
  rw [unwrapOf_eq] at unwrapped
  obtain ⟨outer, rfl, inside⟩ := Option.bind_eq_some_iff.mp (Except.ok.inj unwrapped)
  exact size_unwrap?_le inside

theorem size_operand_lt {site : Option Site} {inner : Site}
    (unwrapped : unwrapOf site = .ok (some inner)) (role : Role) :
    size (inner.child? role) < size site :=
  Nat.lt_of_lt_of_le (size_child?_lt inner role) (size_unwrapOf_le unwrapped)

def operands (site : Option Site) : Strict (List Site) :=
  match unwrapped : unwrapOf site with
  | .error fault => throw fault
  | .ok none => pure []
  | .ok (some inner) => do
    have := size_operand_lt unwrapped .left
    have := size_operand_lt unwrapped .right
    if ← both (inner.kind == .binaryExpression) (do
        return (← textOf (inner.child? .operator)) == "+") then
      return (← operands (inner.child? .left)) ++ (← operands (inner.child? .right))
    return [inner]
termination_by size site

theorem plusOperands_eq_unwrap? (site : Site) :
    site.plusOperands = (site.unwrap?.map fun inner =>
      if inner.kind == .binaryExpression && inner.childText .operator == "+" then
        ((inner.child? .left).map Site.plusOperands).getD [] ++
          ((inner.child? .right).map Site.plusOperands).getD []
      else [inner]).getD [] := by
  induction site using Site.induction_children with
  | step site ih =>
    rw [Site.unwrap?_eq, Site.plusOperands_eq]
    split
    · cases found : site.children.find? (·.node.isPart) with
      | none => simp [Site.operandsOfFirst, found]
      | some first =>
        rw [Site.operandsOfFirst, found]
        exact ih first (List.mem_of_find?_eq_some found)
    · rfl

@[simp] theorem operands_eq (site : Option Site) :
    operands site = pure ((site.map Site.plusOperands).getD []) := by
  have whole : (site.map Site.plusOperands).getD [] =
      ((site.bind Site.unwrap?).map fun inner =>
        if inner.kind == .binaryExpression && inner.childText .operator == "+" then
          ((inner.child? .left).map Site.plusOperands).getD [] ++
            ((inner.child? .right).map Site.plusOperands).getD []
        else [inner]).getD [] := by
    cases site with
    | none => rfl
    | some site => exact plusOperands_eq_unwrap? site
  rw [operands, whole]
  split
  next fault failed =>
    rw [unwrapOf_eq] at failed
    cases failed
  next unwrapped =>
    rw [unwrapOf_eq] at unwrapped
    rw [Except.ok.inj unwrapped]
    rfl
  next inner unwrapped =>
    -- Both operands are smaller than the expression, in parentheses or not.
    have := size_operand_lt unwrapped .left
    have := size_operand_lt unwrapped .right
    have left := operands_eq (inner.child? .left)
    have right := operands_eq (inner.child? .right)
    rw [unwrapOf_eq] at unwrapped
    rw [Except.ok.inj unwrapped]
    simp [left, right]
termination_by size site

def identifierOf (site : Option Site) : Strict (Option String) := do
  let inner ← unwrapOf site
  if ← both inner.isSome (do return (← node inner).kind == .identifier) then
    return some (← textOf inner)
  return none

@[simp] theorem identifierOf_eq (site : Option Site) :
    identifierOf site = pure (site.bind Site.identifier?) := by
  have inside : site.bind Site.identifier? = (site.bind Site.unwrap?).bind fun inner =>
      if inner.kind == .identifier then some inner.text else none := by
    rw [Option.bind_assoc]
    congr 1
    funext outer
    exact outer.identifier?_eq_bind
  rw [identifierOf, unwrapOf_eq, pure_bind, both_isSome, pure_bind, inside]
  cases site.bind Site.unwrap? with
  | none => rfl
  | some inner => simp [textOf_eq]

def partsOf (site : Option Site) : Strict (List Site) := do
  if site.isNone then return []
  return (← node site).parts

@[simp] theorem partsOf_eq (site : Option Site) :
    partsOf site = pure ((site.map Site.parts).getD []) := by
  cases site <;> rfl

def rawType (type : Site) : Strict Site :=
  if type.kind == .genericType then
    if type.namedChildren.isEmpty then pure type else item type.namedChildren 0
  else pure type

def createdTypeName (site : Site) : Strict String := do
  if (site.child? .type).isNone then return ""
  let type ← rawType (← node (site.child? .type))
  return String.ofList (Text.afterLast '.' type.text.toList)

theorem rawType_eq (type : Site) :
    rawType type =
      pure (if type.kind == .genericType then type.namedChildren.head?.getD type else type) := by
  unfold rawType
  cases type.namedChildren <;> simp

@[simp] theorem createdTypeName_eq (site : Site) :
    createdTypeName site = pure site.createdTypeName := by
  unfold createdTypeName Site.createdTypeName Site.createdType?
  cases site.child? .type with
  | none => rfl
  | some type =>
    simp only [Option.isNone_some, node_some, pure_bind, rawType_eq]
    rfl

def isBooleanLiteral (site : Option Site) : Strict Bool := do
  let inner ← unwrapOf site
  both inner.isSome do
    let inner ← node inner
    return inner.kind == .trueLiteral || inner.kind == .falseLiteral

@[simp] theorem isBooleanLiteral_eq (site : Option Site) :
    isBooleanLiteral site = pure (site.any Site.isBooleanLiteral) := by
  rw [isBooleanLiteral, unwrapOf_eq, pure_bind, both_isSome]
  cases site <;> rfl

def isWithin (site : Site) (container : Option Site) : Strict Bool := do
  if container.isNone then return false
  return site.node.isWithin (← node container).node

@[simp] theorem isWithin_eq (site : Site) (container : Option Site) :
    isWithin site container = pure (container.any fun outer => site.node.isWithin outer.node) := by
  cases container <;> rfl

theorem item_eq_of_getElem? {items : List α} {index : Nat} {found : α}
    (isThere : items[index]? = some found) : item items index = pure found := by
  rw [item, isThere]

/-- The content of a string literal; its first and last character are looked at only if the text has
at least two. -/
def literalValue (text : List Char) : Strict (List Char) := do
  let fence := ['"', '"', '"']
  if fence.isPrefixOf text && fence.isSuffixOf text && 6 ≤ text.length then
    return (text.drop 3).dropLast.dropLast.dropLast
  if ← both (2 ≤ text.length) (do
      both ((← item text 0) == '"') (do return (← item text (text.length - 1)) == '"')) then
    return (text.drop 1).dropLast
  return text

theorem isQuoted_eq (text : List Char) :
    both (2 ≤ text.length) (do
        both ((← item text 0) == '"') (do return (← item text (text.length - 1)) == '"')) =
      pure (2 ≤ text.length && text.head? == some '"' && text.getLast? == some '"') := by
  by_cases long : 2 ≤ text.length
  · obtain ⟨first, rest, rfl⟩ := List.exists_cons_of_length_pos (by omega : 0 < text.length)
    obtain ⟨last, isLast⟩ : ∃ last, (first :: rest).getLast? = some last :=
      ⟨_, List.getLast?_eq_some_getLast (List.cons_ne_nil first rest)⟩
    have atEnd : item (first :: rest) ((first :: rest).length - 1) = pure last :=
      item_eq_of_getElem? (by rw [← List.getLast?_eq_getElem?, isLast])
    rw [item_cons_zero, pure_bind, atEnd, pure_bind, both_pure, both_pure, isLast, Bool.and_assoc]
    rfl
  · simp [both, long]

@[simp] theorem literalValue_eq (text : List Char) :
    literalValue text = pure (JavaAudit.literalValue text) := by
  rw [literalValue, isQuoted_eq, pure_bind, ite_pure, ite_pure]
  rfl

def integer (text : String) : Strict Int :=
  match IntLiteral.value? text with
  | some value => pure value
  | none => throw .malformedNumeral

def orMalformed : Strict Int → Strict (Option Int)
  | .ok value => pure (some value)
  | .error .malformedNumeral => pure none
  | .error fault => throw fault

@[simp] theorem orMalformed_integer (text : String) :
    orMalformed (integer text) = pure (IntLiteral.value? text) := by
  unfold integer
  cases IntLiteral.value? text <;> rfl

def isConstantOrTypeName (name : String) : Strict Bool :=
  if name.isEmpty then pure false
  else either (Text.upper name.toList == name.toList) do
    return Text.isUpper (← item name.toList 0)

@[simp] theorem isConstantOrTypeName_eq (name : String) :
    isConstantOrTypeName name = pure (Vocabulary.isConstantOrTypeName name) := by
  unfold isConstantOrTypeName Vocabulary.isConstantOrTypeName
  cases letters : name.toList with
  | nil =>
    have blank : name.isEmpty = true := by simpa using letters
    simp [blank]
  | cons first rest =>
    have written : name.isEmpty = false := by
      rw [Bool.eq_false_iff]
      intro blank
      simp [String.isEmpty_iff.mp blank] at letters
    simp [written]

def isMost (part total : Nat) : Strict Bool :=
  if total = 0 then throw .emptyTotal else pure (4 * total < 5 * part)

def looksLikeApiKey (value : List Char) : Strict Bool :=
  if value.length < 16 || 128 < value.length then pure false
  else isMost (value.countP fun c => Text.isAlphanumeric c || c == '-' || c == '_') value.length

def looksLikeCredential (value : List Char) : Strict Bool := do
  if value.length < 3 then return false
  if ← either (Vocabulary.looksLikePassword value) (do
      either (← looksLikeApiKey value) (pure (Vocabulary.looksLikeToken value))) then
    return true
  let lowered := Text.lower value
  return ["admin", "administrator", "root", "sa"].any (·.toList == lowered) ||
    (Text.occursIn "admin".toList lowered && value.length < 20)

theorem looksLikeApiKey_eq (value : List Char) :
    looksLikeApiKey value = pure (Vocabulary.looksLikeApiKey value) := by
  unfold looksLikeApiKey Vocabulary.looksLikeApiKey
  by_cases short : value.length < 16
  · have tooShort : ¬16 ≤ value.length := by omega
    simp [short, tooShort]
  · have long : 16 ≤ value.length := by omega
    have counted : value.length ≠ 0 := by omega
    by_cases tooLong : 128 < value.length
    · have notShort : ¬value.length ≤ 128 := by omega
      simp [tooLong, notShort]
    · have fits : value.length ≤ 128 := by omega
      rw [isMost, if_neg counted]
      simp [short, tooLong, long, fits]

@[simp] theorem looksLikeCredential_eq (value : List Char) :
    looksLikeCredential value = pure (Vocabulary.looksLikeCredential value) := by
  unfold looksLikeCredential Vocabulary.looksLikeCredential
  by_cases short : value.length < 3
  · have tooShort : ¬3 ≤ value.length := by omega
    simp [short, tooShort]
  · have long : 3 ≤ value.length := by omega
    simp only [looksLikeApiKey_eq, pure_bind, either_pure, ite_pure, short, long, if_false,
      decide_true, Bool.true_and, Bool.if_true_left, Bool.decide_eq_true, Bool.or_assoc]

def controlsLoopAmong (declarator : Site) : List Site → Strict Bool
  | [] => pure false
  | ancestor :: rest =>
    if ancestor.kind.isTypeBody then pure false
    else
      match ancestor.kind with
      | .forStatement | .enhancedForStatement => pure true
      | .whileStatement => do
        return drivesLoop (← textOf (declarator.child? .name)) (← render (some ancestor))
      | .methodDeclaration | .constructorDeclaration => pure false
      | _ => controlsLoopAmong declarator rest

@[simp] theorem controlsLoopAmong_eq (declarator : Site) (ancestors : List Site) :
    controlsLoopAmong declarator ancestors =
      pure (Site.controlsLoopAmong declarator.declaredName ancestors) := by
  induction ancestors with
  | nil => rfl
  | cons ancestor rest ih =>
    have driven : (do
          return drivesLoop (← textOf (declarator.child? .name)) (← render (some ancestor))) =
        (pure (drivesLoop declarator.declaredName ancestor.render) : Strict Bool) := by
      rw [textOf_child?, render_eq]
      rfl
    rw [controlsLoopAmong, Site.controlsLoopAmong, ih, driven]
    generalize ancestor.kind = kind
    split
    · rfl
    · cases kind <;> rfl

/-- What a check is given besides a node; the pass over fields has nothing to give. -/
inductive Context where
  | absent
  | method (context : MethodContext)
  | dereference (context : Security.DereferenceContext)

namespace Context

def ofMethod : Context → Strict MethodContext
  | .method context => pure context
  | .absent | .dereference _ => throw .absentContext

def ofDereference : Context → Strict Security.DereferenceContext
  | .dereference context => pure context
  | .absent | .method _ => throw .absentContext

@[simp] theorem ofMethod_method (context : MethodContext) :
    (method context).ofMethod = pure context := rfl

@[simp] theorem ofDereference_dereference (context : Security.DereferenceContext) :
    (dereference context).ofDereference = pure context := rfl

end Context

inductive Answer (κ : Type) where
  | findings (list : List (Finding κ))
  /-- The node holds an integer literal that denotes no number. -/
  | malformedLiteral (line : Nat)

namespace Answer

variable {κ : Type}

def silent : Answer κ :=
  .findings []

def report (category : κ) (description : String) (site : Site) (snippet : String)
    (severity : Severity) : Answer κ :=
  .findings [⟨category, description, site.line, snippet, severity⟩]

def verdict : Answer κ → Verdict (Finding κ)
  | findings list => .findings list
  | malformedLiteral line => .malformedLiteral line

@[simp] theorem verdict_ite (condition : Prop) [Decidable condition] (first second : Answer κ) :
    (if condition then first else second).verdict =
      if condition then first.verdict else second.verdict :=
  apply_ite verdict condition first second

theorem verdict_ne_failed (answer : Answer κ) (reason : String) :
    answer.verdict ≠ .failed reason := by
  cases answer <;> nofun

end Answer

/-- The check comes to an end, and its answer is the verdict. -/
def Gives {κ : Type} (check : Strict (Answer κ)) (verdict : Verdict (Finding κ)) : Prop :=
  ∃ answer, check = pure answer ∧ answer.verdict = verdict

@[simp] theorem gives_pure {κ : Type} (answer : Answer κ) (verdict : Verdict (Finding κ)) :
    Gives (pure answer) verdict ↔ answer.verdict = verdict := by
  constructor
  · rintro ⟨other, same, rfl⟩
    rw [Except.ok.inj same]
  · intro same
    exact ⟨answer, rfl, same⟩

end Strict

end JavaAudit
