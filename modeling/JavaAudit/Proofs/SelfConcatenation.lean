import JavaAudit.Optimization.Check
import JavaAudit.Proofs.InsertedComments

/-! Two spellings of one assignment.

`x += e` and `x = x + e` stand at one place and mean the same. Where they stand is judged alike, but
what they append is not: the short spelling looks at `x` and at `e` as a whole, the long one at `x`
and at every operand of `e`. -/

set_option autoImplicit false

namespace JavaAudit

structure Crumb where
  label : Label
  left : List Node
  right : List Node

namespace Crumb

def fill (crumb : Crumb) (node : Node) : Node :=
  .node crumb.label (crumb.left ++ node :: crumb.right)

/-- The ancestors of a node at a place; crumbs are listed innermost first. -/
def above : List Crumb → Node → List Ancestor
  | [], _ => []
  | crumb :: rest, node => ⟨crumb.fill node, crumb.left.length⟩ :: above rest (crumb.fill node)

@[simp] theorem kind_fill (crumb : Crumb) (node : Node) :
    (crumb.fill node).kind = crumb.label.kind :=
  rfl

@[simp] theorem children_fill (crumb : Crumb) (node : Node) :
    (crumb.fill node).children = crumb.left ++ node :: crumb.right :=
  rfl

theorem kind_site_fill (crumb : Crumb) (node : Node) (above : List Ancestor) :
    Site.kind ⟨crumb.fill node, above⟩ = crumb.label.kind := by
  rw [Site.kind, kind_fill]

def IsOpen (crumb : Crumb) : Prop :=
  crumb.label.kind.isComment = false ∧ crumb.label.kind.isAtomic = false

instance : DecidablePred IsOpen :=
  fun _ => inferInstanceAs (Decidable (_ ∧ _))

theorem tokens_fill {crumb : Crumb} (isOpen : crumb.IsOpen) (node : Node) (parent : Option Kind) :
    (crumb.fill node).tokens parent =
      crumb.left.flatMap (Node.tokens (some crumb.label.kind)) ++
        node.tokens (some crumb.label.kind) ++
          crumb.right.flatMap (Node.tokens (some crumb.label.kind)) := by
  have isToken : (crumb.fill node).isToken = false := by simp [Node.isToken, isOpen.2]
  rw [Node.tokens_eq, kind_fill, isOpen.1, isToken]
  simp

/-- The same tree at another place, perhaps with more comments, of which none is in a name. -/
def Copied (node other : Node) : Prop :=
  node.Commented (fun _ _ => True) other ∧ other.role = node.role ∧
    (node.role = some .name → other.text = node.text)

instance : DecidableRel Copied :=
  fun _ _ => inferInstanceAs (Decidable (_ ∧ _ ∧ _))

/-- The nodes around the missing child are the same, apart from positions and comments. The node
is written out and does not stand as a name. -/
structure Alike (first second : Crumb) : Prop where
  kind : second.label.kind = first.label.kind
  role : second.label.role = first.label.role
  isOpen : first.IsOpen
  notName : first.label.role ≠ some .name
  left : Interspersed Node.IsRemark Copied first.left second.left
  right : Interspersed Node.IsRemark Copied first.right second.right

theorem flatMap_tokens_eq {before after : List Node} (kind : Kind)
    (copied : Interspersed Node.IsRemark Copied before after) :
    after.flatMap (Node.tokens (some kind)) = before.flatMap (Node.tokens (some kind)) :=
  copied.flatMap_eq (fun _ remark => remark.tokens_eq_nil _) fun _ _ same => same.1.tokens_eq _

theorem Alike.callName_eq {first second : Crumb} (alike : Alike first second) {node other : Node}
    (notName : node.role ≠ some .name) (role : other.role = node.role) :
    textOf ((second.fill other).child? .name) = textOf ((first.fill node).child? .name) := by
  have passed : ∀ (crumb : Crumb) (node : Node), node.role ≠ some .name →
      (crumb.fill node).child? .name =
        (crumb.left ++ crumb.right).find? (·.role == some .name) := by
    intro crumb node notName
    have isOther : (node.role == some .name) = false := beq_false_of_ne notName
    rw [Node.child?, children_fill, List.find?_append, List.find?_append, List.find?_cons, isOther]
  rw [passed _ _ notName, passed _ _ (role ▸ notName)]
  refine congrArg (Option.getD · "")
    (map_eq_of_rel ((alike.left.append alike.right).find? ?_ ?_) ?_)
  · exact fun added remark => remark.role_beq .name
  · intro node other copied
    rw [copied.2.1]
  · rintro node other ⟨copied, _, inRole⟩
    exact copied.2.2 (beq_iff_eq.mp inRole)

end Crumb

def Node.within (node : Node) (place : List Crumb) : Site :=
  ⟨node, Crumb.above place node⟩

namespace Optimization

def mentionsLogging (text : List Char) : Bool :=
  Text.containsAny ["log", "debug", "info", "error"] (Text.lower text)

theorem mentionsLogging_append_blank (before after : List Char) :
    mentionsLogging (before ++ ' ' :: after) =
      (mentionsLogging before || mentionsLogging after) := by
  have lowered : Text.lower (before ++ ' ' :: after) =
      Text.lower before ++ ' ' :: Text.lower after := by
    rw [Text.lower, List.flatMap_append, List.flatMap_cons]
    rfl
  rw [mentionsLogging, lowered, Text.containsAny_append_cons (by decide)]
  rfl

theorem mentionsLogging_append_right {text : List Char} (mention : mentionsLogging text = true)
    (before : List Char) : mentionsLogging (before ++ text) = true := by
  obtain ⟨word, isWord, occurs⟩ := List.any_eq_true.mp mention
  refine List.any_eq_true.mpr ⟨word, isWord, ?_⟩
  rw [Text.lower, List.flatMap_append]
  exact Text.occursIn_append_right occurs _

theorem mentionsLogging_operator (operator : Token) (isOperator : operator.cls = .operator)
    (quiet : mentionsLogging operator.text.toList = false) (before : List Token) (last : Token)
    (after : List Token) :
    mentionsLogging (Token.spaced (before ++ last :: operator :: after)) =
      (mentionsLogging (Token.spaced (before ++ [last])) ||
        mentionsLogging (Token.spaced after)) := by
  have nonempty : before ++ [last] ≠ [] := List.append_ne_nil_of_right_ne_nil _ (by simp)
  rw [List.append_cons, Token.spaced_append nonempty isOperator, mentionsLogging_append_blank,
    Token.spacedAfter_operator isOperator]
  cases after with
  | nil =>
    rw [List.isEmpty_nil, if_pos rfl, List.append_nil, quiet]
    rfl
  | cons first rest =>
    rw [List.isEmpty_cons, if_neg Bool.false_ne_true, mentionsLogging_append_blank, quiet,
      Bool.false_or]

end Optimization

namespace Optimization

theorem mentionsLogging_respelled {target again : Token} (same : again.text = target.text)
    (before after : List Token) :
    mentionsLogging (Token.spaced (before ++ target :: ⟨"+=", .operator⟩ :: after)) =
      mentionsLogging (Token.spaced
        (before ++ target :: ⟨"=", .operator⟩ :: again :: ⟨"+", .operator⟩ :: after)) := by
  have twice : mentionsLogging (Token.spaced (again :: ⟨"+", .operator⟩ :: after)) =
      (mentionsLogging again.text.toList || mentionsLogging (Token.spaced after)) := by
    have split := mentionsLogging_operator ⟨"+", .operator⟩ rfl (by decide) [] again after
    simpa [Token.spaced, Token.spacedAfter] using split
  rw [mentionsLogging_operator _ rfl (by decide), mentionsLogging_operator _ rfl (by decide), twice]
  cases mention : mentionsLogging again.text.toList with
  | false => rw [Bool.false_or]
  | true =>
    -- The target stands in front of the operator too, so it is mentioned there already.
    obtain ⟨text, ends⟩ := Token.exists_spaced_concat before target
    rw [ends, ← same, mentionsLogging_append_right mention text, Bool.true_or, Bool.true_or]

theorem isInsideLoop_eq {place other : List Crumb}
    (samePlace : List.Forall₂ Crumb.Alike place other) (node second : Node) :
    (second.within other).isInsideLoop = (node.within place).isInsideLoop := by
  unfold Site.isInsideLoop Site.enclosing? Site.ancestors Node.within
  induction samePlace generalizing node second with
  | nil => rfl
  | @cons crumb otherCrumb _ _ alike _ ih =>
    simp only [Crumb.above, Site.ancestorsOf, Site.nearest?, Crumb.kind_site_fill, alike.kind]
    split
    · rfl
    · split
      · rfl
      · exact ih _ _

/-- The tokens of the two trees differ in the spelling of one assignment. -/
def Respelled (short long : Node) : Prop :=
  ∃ before target again after, again.text = target.text ∧
    (∀ parent, short.tokens parent = before ++ target :: ⟨"+=", .operator⟩ :: after) ∧
    ∀ parent, long.tokens parent =
      before ++ target :: ⟨"=", .operator⟩ :: again :: ⟨"+", .operator⟩ :: after

theorem Respelled.mentionsLogging_eq {short long : Node} (respelled : Respelled short long)
    (above others : List Ancestor) :
    mentionsLogging (Site.render ⟨long, others⟩).toList =
      mentionsLogging (Site.render ⟨short, above⟩).toList := by
  obtain ⟨before, target, again, after, same, shortTokens, longTokens⟩ := respelled
  rw [Site.render_eq, Site.render_eq, shortTokens, longTokens, String.toList_ofList,
    String.toList_ofList, mentionsLogging_respelled same]

theorem Respelled.fill {short long : Node} (respelled : Respelled short long)
    {crumb other : Crumb} (alike : Crumb.Alike crumb other) :
    Respelled (crumb.fill short) (other.fill long) := by
  obtain ⟨before, target, again, after, same, shortTokens, longTokens⟩ := respelled
  have isOpen : other.IsOpen := by
    rw [Crumb.IsOpen, alike.kind]
    exact alike.isOpen
  refine ⟨crumb.left.flatMap (Node.tokens (some crumb.label.kind)) ++ before, target, again,
    after ++ crumb.right.flatMap (Node.tokens (some crumb.label.kind)), same, ?_, ?_⟩
  · intro parent
    rw [Crumb.tokens_fill alike.isOpen, shortTokens]
    simp only [List.append_assoc, List.cons_append]
  · intro parent
    rw [Crumb.tokens_fill isOpen, longTokens, alike.kind, Crumb.flatMap_tokens_eq _ alike.left,
      Crumb.flatMap_tokens_eq _ alike.right]
    simp only [List.append_assoc, List.cons_append]

def printsOrLogs (site : Site) : Bool :=
  site.kind == .methodInvocation &&
    (Text.contains site.callName "print" || mentionsLogging site.render.toList)

theorem isPrintedOrLogged_eq_any (site : Site) :
    isPrintedOrLogged site = (site.ancestorsUpTo Kind.isStatement).any printsOrLogs :=
  rfl

theorem printsOrLogs_fill {crumb other : Crumb} (alike : Crumb.Alike crumb other)
    {short long : Node} (respelled : Respelled short long) (notName : short.role ≠ some .name)
    (role : long.role = short.role) (above others : List Ancestor) :
    printsOrLogs ⟨other.fill long, others⟩ = printsOrLogs ⟨crumb.fill short, above⟩ := by
  have kind : Site.kind ⟨other.fill long, others⟩ = Site.kind ⟨crumb.fill short, above⟩ :=
    alike.kind
  have callName : Site.callName ⟨other.fill long, others⟩ =
      Site.callName ⟨crumb.fill short, above⟩ := alike.callName_eq notName role
  rw [printsOrLogs, printsOrLogs, kind, callName,
    (respelled.fill alike).mentionsLogging_eq above]

/-- The calls around an assignment print or log it in either spelling. -/
theorem isPrintedOrLogged_eq {place other : List Crumb}
    (samePlace : List.Forall₂ Crumb.Alike place other) {short long : Node}
    (respelled : Respelled short long) (notName : short.role ≠ some .name)
    (role : long.role = short.role) :
    isPrintedOrLogged (long.within other) = isPrintedOrLogged (short.within place) := by
  rw [isPrintedOrLogged_eq_any, isPrintedOrLogged_eq_any]
  unfold Site.ancestorsUpTo Site.ancestors Node.within
  induction samePlace generalizing short long with
  | nil => rfl
  | @cons crumb otherCrumb place other alike _ ih =>
    -- A filled crumb is respelled itself, so the same argument applies one level further out.
    have further := ih (respelled.fill alike) alike.notName alike.role
    have here := printsOrLogs_fill alike respelled notName role
      (Crumb.above place (crumb.fill short)) (Crumb.above other (otherCrumb.fill long))
    simp only [Crumb.above, Site.ancestorsOf, Site.upTo, Crumb.kind_site_fill, alike.kind]
    split
    · rw [List.any_cons, List.any_cons, here, List.any_nil]
    · rw [List.any_cons, List.any_cons, here, further]

end Optimization

namespace Node

structure Names (node : Node) (name : String) : Prop where
  kind : node.kind = .identifier
  named : node.named = true
  leaf : node.children = []
  text : node.text = name

structure IsOperator (node : Node) (operator : String) : Prop where
  code : node.kind.isComment = false
  named : node.named = false
  role : node.role = some .operator
  leaf : node.children = []
  text : node.text = operator

/-- The node joins a left and a right operand by an operator. -/
structure IsOperation (node : Node) (kind : Kind) (operator : String) (left right : Node) :
    Prop where
  kind : node.kind = kind
  leftRole : left.role = some .left
  rightRole : right.role = some .right
  children : ∃ sign : Node, sign.IsOperator operator ∧ node.children = [left, sign, right]

/-- The second expression is the sum `name + e`, where `e` is a copy of the first one. If `e` is the
sum `a + b`, it may also be the chain `(name + a) + b`. -/
inductive Prepends (name : String) : Node → Node → Prop where
  | direct {target value expression sum : Node} (isTarget : target.Names name)
      (isSum : sum.IsOperation .binaryExpression "+" target value)
      (copied : expression.Commented (fun _ _ => True) value) : Prepends name expression sum
  | chained {first firstSum second value expression sum : Node}
      (isSum : expression.IsOperation .binaryExpression "+" first second)
      (isLonger : sum.IsOperation .binaryExpression "+" firstSum value)
      (prepended : Prepends name first firstSum)
      (copied : second.Commented (fun _ _ => True) value) : Prepends name expression sum

def nameToken (name : String) : Token :=
  ⟨name, if Token.startsWord name.toList then .word else .punctuation⟩

theorem Names.tokens_eq {name : String} {node : Node} (names : node.Names name)
    (nonempty : name ≠ "") (parent : Option Kind) : node.tokens parent = [nameToken name] := by
  have text : node.label.text = name := names.text
  have named : node.label.named = true := names.named
  have isToken : node.isToken = true := by
    rw [isToken, names.leaf, List.isEmpty_nil, Bool.or_true]
  have isEmpty : name.isEmpty = false := by simpa using nonempty
  rw [Node.tokens_eq, names.kind, isToken, Token.ofLeaf?, text, named, isEmpty, nameToken]
  cases Token.startsWord name.toList <;> rfl

theorem IsOperator.tokens_eq {operator : String} {node : Node}
    (isOperator : node.IsOperator operator) (known : Token.operators.contains operator = true)
    {parent : Kind} (spaced : parent.spacesOperators = true) :
    node.tokens (some parent) = [⟨operator, .operator⟩] := by
  have text : node.label.text = operator := isOperator.text
  have named : node.label.named = false := isOperator.named
  have isToken : node.isToken = true := by
    rw [isToken, isOperator.leaf, List.isEmpty_nil, Bool.or_true]
  obtain ⟨isEmpty, noWord⟩ := Token.not_word_of_mem_operators operator (by simpa using known)
  rw [Node.tokens_eq, isOperator.code, isToken, Token.ofLeaf?, text, named, isEmpty, noWord, known,
    Option.any_some, spaced]
  rfl

theorem IsOperation.tokens_eq {kind : Kind} {operator : String} {left right node : Node}
    (operation : node.IsOperation kind operator left right)
    (known : Token.operators.contains operator = true) (spaced : kind.spacesOperators = true)
    (parent : Option Kind) :
    node.tokens parent =
      left.tokens (some kind) ++ ⟨operator, .operator⟩ :: right.tokens (some kind) := by
  obtain ⟨sign, isOperator, children⟩ := operation.children
  have code : kind.isComment = false ∧ kind.isAtomic = false := by
    cases kind <;> simp_all [Kind.spacesOperators, Kind.isComment, Kind.isAtomic]
  have isToken : node.isToken = false := by simp [isToken, operation.kind, code.2, children]
  rw [Node.tokens_eq, operation.kind, code.1, isToken, children]
  simp [isOperator.tokens_eq known spaced]

theorem Prepends.kind {name : String} {expression sum : Node}
    (prepends : Prepends name expression sum) : sum.kind = .binaryExpression := by
  cases prepends with
  | direct _ isSum => exact isSum.kind
  | chained _ isLonger => exact isLonger.kind

theorem Prepends.tokens_eq {name : String} {expression sum : Node}
    (prepends : Prepends name expression sum) (nonempty : name ≠ "") (parent : Option Kind) :
    sum.tokens parent = nameToken name :: ⟨"+", .operator⟩ ::
      expression.tokens (some .binaryExpression) := by
  induction prepends generalizing parent with
  | direct isTarget isSum copied =>
    rw [isSum.tokens_eq (by decide) rfl, isTarget.tokens_eq nonempty, copied.tokens_eq]
    rfl
  | chained isSum isLonger _ copied ih =>
    rw [isLonger.tokens_eq (by decide) rfl, ih, copied.tokens_eq, isSum.tokens_eq (by decide) rfl]
    rfl

end Node

namespace Site

def reading (operand : Site) : Kind × Option String :=
  (operand.kind, operand.identifier?)

theorem Matches.reading_eq {condition : Node → Node → Prop} {before after : Site}
    (matched : Matches condition before after) : after.reading = before.reading := by
  rw [reading, reading, matched.kind_eq, matched.identifier?_eq]

theorem Matches.map_reading_eq {condition : Node → Node → Prop} {before after : Site}
    (matched : Matches condition before after) :
    after.plusOperands.map reading = before.plusOperands.map reading :=
  map_eq_of_forall₂ matched.plusOperands fun _ _ same => same.reading_eq

end Site

namespace Node

section
variable {kind : Kind} {operator : String} {left right node : Node}

theorem IsOperation.exists_children (operation : node.IsOperation kind operator left right)
    (above : List Ancestor) :
    ∃ sign : Node, sign.role = some .operator ∧ Site.children ⟨node, above⟩ =
      [Site.descend ⟨node, above⟩ 0 left, Site.descend ⟨node, above⟩ 1 sign,
        Site.descend ⟨node, above⟩ 2 right] := by
  obtain ⟨sign, isOperator, children⟩ := operation.children
  refine ⟨sign, isOperator.role, ?_⟩
  rw [Site.children, children]
  rfl

theorem IsOperation.child?_left (operation : node.IsOperation kind operator left right)
    (above : List Ancestor) :
    Site.child? ⟨node, above⟩ .left = some (Site.descend ⟨node, above⟩ 0 left) := by
  obtain ⟨sign, role, children⟩ := operation.exists_children above
  simp [Site.child?, children, operation.leftRole]

theorem IsOperation.child?_right (operation : node.IsOperation kind operator left right)
    (above : List Ancestor) :
    Site.child? ⟨node, above⟩ .right = some (Site.descend ⟨node, above⟩ 2 right) := by
  obtain ⟨sign, role, children⟩ := operation.exists_children above
  simp [Site.child?, children, operation.leftRole, operation.rightRole, role]

theorem IsOperation.childText_operator (operation : node.IsOperation kind operator left right)
    (above : List Ancestor) : Site.childText ⟨node, above⟩ .operator = operator := by
  obtain ⟨sign, isOperator, children⟩ := operation.children
  simp [Site.childText, child?, children, operation.leftRole, isOperator.role, textOf,
    isOperator.text]

end

theorem IsOperation.plusOperands_eq {left right node : Node}
    (isSum : node.IsOperation .binaryExpression "+" left right) (above : List Ancestor) :
    Site.plusOperands ⟨node, above⟩ =
      Site.plusOperands (Site.descend ⟨node, above⟩ 0 left) ++
        Site.plusOperands (Site.descend ⟨node, above⟩ 2 right) := by
  have kind : Site.kind ⟨node, above⟩ = .binaryExpression := isSum.kind
  have inRole : ∀ role child, Site.child? ⟨node, above⟩ role = some child →
      Site.operandsOfFirst (Site.children ⟨node, above⟩) (·.role == some role) =
        child.plusOperands := by
    intro role child found
    unfold Site.child? at found
    rw [Site.operandsOfFirst, found]
    rfl
  rw [Site.plusOperands_eq, kind, isSum.childText_operator, inRole _ _ (isSum.child?_left above),
    inRole _ _ (isSum.child?_right above)]
  rfl

theorem Names.identifier?_eq {name : String} {node : Node} (names : node.Names name)
    (above : List Ancestor) : Site.identifier? ⟨node, above⟩ = some name := by
  have kind : Site.kind ⟨node, above⟩ = .identifier := names.kind
  have text : Site.text ⟨node, above⟩ = name := names.text
  simp [Site.identifier?_eq_bind, Site.unwrap?_eq, kind, text]

theorem Names.map_reading_eq {name : String} {node : Node} (names : node.Names name)
    (above : List Ancestor) :
    (Site.plusOperands ⟨node, above⟩).map Site.reading = [(.identifier, some name)] := by
  have kind : Site.kind ⟨node, above⟩ = .identifier := names.kind
  simp [Site.plusOperands_eq, kind, Site.reading, names.identifier?_eq]

theorem Prepends.map_reading_eq {name : String} {expression sum : Node}
    (prepends : Prepends name expression sum) (above others : List Ancestor) :
    (Site.plusOperands ⟨sum, above⟩).map Site.reading =
      (.identifier, some name) :: (Site.plusOperands ⟨expression, others⟩).map Site.reading := by
  induction prepends generalizing above others with
  | @direct target value expression sum isTarget isSum copied =>
    have matched : Site.Matches (fun _ _ => True) ⟨expression, others⟩
        (Site.descend ⟨sum, above⟩ 2 value) := ⟨copied⟩
    rw [isSum.plusOperands_eq, List.map_append, matched.map_reading_eq]
    exact congrArg (· ++ _) (isTarget.map_reading_eq _)
  | @chained first firstSum second value expression sum isSum isLonger _ copied ih =>
    have matched : Site.Matches (fun _ _ => True) (Site.descend ⟨expression, others⟩ 2 second)
        (Site.descend ⟨sum, above⟩ 2 value) := ⟨copied⟩
    rw [isLonger.plusOperands_eq, isSum.plusOperands_eq, List.map_append, List.map_append,
      matched.map_reading_eq]
    exact congrArg (· ++ _) (ih _ _)

end Node

namespace Optimization

/-- An operand that makes a sum a string: a literal, or a name of a string. -/
def joinsStrings (scope : Scope) (operand : Site) : Bool :=
  operand.kind == .stringLiteral || scope.isStringTyped (operand.identifier?.getD "")

theorem any_joinsStrings_eq (scope : Scope) {operands others : List Site}
    (same : operands.map Site.reading = others.map Site.reading) :
    operands.any (joinsStrings scope) = others.any (joinsStrings scope) := by
  have joins : joinsStrings scope = (fun reading : Kind × Option String =>
      reading.1 == .stringLiteral || scope.isStringTyped (reading.2.getD "")) ∘ Site.reading := rfl
  rw [joins, ← List.any_map, same, List.any_map]

theorem any_joinsStrings_of_literal (scope : Scope) {site : Site}
    (literal : site.unwrap?.any (·.kind == .stringLiteral) = true) :
    site.plusOperands.any (joinsStrings scope) = true := by
  -- A literal in parentheses is the only operand of its sum.
  induction site using Site.induction_children with
  | step site ih =>
    rw [Site.unwrap?_eq] at literal
    rw [Site.plusOperands_eq]
    split
    next parenthesized =>
      rw [if_pos parenthesized] at literal
      unfold Site.operandsOfFirst
      cases found : site.children.find? (·.node.isPart) with
      | none => simp [found] at literal
      | some first =>
        rw [found, Option.bind_some] at literal
        exact ih first (List.mem_of_find?_eq_some found) literal
    next other =>
      rw [if_neg other, Option.any_some] at literal
      have kind := beq_iff_eq.mp literal
      rw [kind]
      simp [joinsStrings, kind]

/-- Concatenations to the name are reported at this place, if there are any. -/
structure Exposed (name : String) (site : Site) : Prop where
  named : name ≠ ""
  inLoop : site.isInsideLoop = true
  quiet : isPrintedOrLogged site = false

theorem reported_iff {name operator : String} {node left right : Node}
    (operation : node.IsOperation .assignmentExpression operator left right)
    (names : left.Names name) (above : List Ancestor) (context : MethodContext) :
    stringConcatenationInLoop ⟨node, above⟩ context ≠ silent ↔
      Exposed name ⟨node, above⟩ ∧ appendsString ⟨node, above⟩ context.scope name = true := by
  have target : (Site.child? ⟨node, above⟩ .left).bind Site.identifier? = some name := by
    rw [operation.child?_left, Option.bind_some]
    exact names.identifier?_eq _
  have exposed : Exposed name ⟨node, above⟩ ↔ name ≠ "" ∧ Site.isInsideLoop ⟨node, above⟩ = true ∧
      isPrintedOrLogged ⟨node, above⟩ = false :=
    ⟨fun ⟨named, inLoop, quiet⟩ => ⟨named, inLoop, quiet⟩,
      fun ⟨named, inLoop, quiet⟩ => ⟨named, inLoop, quiet⟩⟩
  unfold stringConcatenationInLoop
  rw [target, exposed]
  -- A target without a name is silently passed over.
  by_cases isEmpty : name = ""
  · subst isEmpty
    have none : nonempty? (some "") = none := rfl
    simp [none]
  · have found : nonempty? (some name) = some name := by simp [nonempty?, isEmpty]
    simp only [found]
    cases Site.isInsideLoop ⟨node, above⟩ <;>
      cases appendsString ⟨node, above⟩ context.scope name <;>
      cases isPrintedOrLogged ⟨node, above⟩ <;> simp [silent, report, isEmpty]

/-- `short` is the assignment `name += expression`, and `long` is `name = name + expression`. -/
structure Spellings (name : String) (expression short long : Node) : Prop where
  once : ∃ target : Node, target.Names name ∧
    short.IsOperation .assignmentExpression "+=" target expression
  twice : ∃ target sum : Node, target.Names name ∧ Node.Prepends name expression sum ∧
    long.IsOperation .assignmentExpression "=" target sum
  role : long.role = short.role
  notName : short.role ≠ some .name

namespace Spellings

variable {name : String} {expression short long : Node}

theorem respelled (spellings : Spellings name expression short long) (nonempty : name ≠ "") :
    Respelled short long := by
  obtain ⟨target, names, isShort⟩ := spellings.once
  obtain ⟨other, sum, namesAgain, prepends, isLong⟩ := spellings.twice
  refine ⟨[], Node.nameToken name, Node.nameToken name,
    expression.tokens (some .assignmentExpression), rfl, fun parent => ?_, fun parent => ?_⟩
  · rw [isShort.tokens_eq (by decide) rfl, names.tokens_eq nonempty]
    rfl
  · have written : expression.tokens (some .binaryExpression) =
        expression.tokens (some .assignmentExpression) := expression.tokens_congr rfl
    rw [isLong.tokens_eq (by decide) rfl, namesAgain.tokens_eq nonempty,
      prepends.tokens_eq nonempty, written]
    rfl

theorem appendsString_once (spellings : Spellings name expression short long)
    (above : List Ancestor) (scope : Scope) :
    appendsString ⟨short, above⟩ scope name =
      (scope.isStringTyped name ||
        (Site.root expression).unwrap?.any (·.kind == .stringLiteral)) := by
  obtain ⟨target, _, isShort⟩ := spellings.once
  have matched : Site.Matches (fun _ _ => True) (.root expression)
      (Site.descend ⟨short, above⟩ 2 expression) := ⟨.refl expression⟩
  have literal := any_eq_of_rel matched.unwrap? (f := (·.kind == .stringLiteral))
    (g := (·.kind == .stringLiteral)) fun _ _ same => by rw [same.kind_eq]
  simp only [appendsString, isShort.childText_operator, isShort.child?_right, Option.bind_some]
  rw [literal]

theorem appendsString_twice (spellings : Spellings name expression short long)
    (above : List Ancestor) (scope : Scope) :
    appendsString ⟨long, above⟩ scope name =
      (!(Site.root expression).plusOperands.isEmpty &&
        (scope.isStringTyped name ||
          (Site.root expression).plusOperands.any (joinsStrings scope))) := by
  obtain ⟨target, sum, _, prepends, isLong⟩ := spellings.twice
  have unwrapped : (Site.descend ⟨long, above⟩ 2 sum).unwrap? =
      some (Site.descend ⟨long, above⟩ 2 sum) := by
    have kind : (Site.descend ⟨long, above⟩ 2 sum).kind = .binaryExpression := prepends.kind
    rw [Site.unwrap?_eq, kind]
    rfl
  obtain ⟨first, others, operands, reading, readings⟩ :=
    List.map_eq_cons_iff.mp (prepends.map_reading_eq (Site.descend ⟨long, above⟩ 2 sum).above [])
  have sumOperands : (Site.descend ⟨long, above⟩ 2 sum).plusOperands = first :: others := operands
  have sameReadings : others.map Site.reading =
      (Site.root expression).plusOperands.map Site.reading := readings
  have identifier : first.identifier? = some name := congrArg Prod.snd reading
  simp only [appendsString, isLong.childText_operator, isLong.child?_right, Option.bind_some,
    unwrapped, Option.map_some, Option.getD_some, sumOperands]
  rw [← any_joinsStrings_eq scope sameReadings, ← List.isEmpty_map, ← sameReadings,
    List.isEmpty_map]
  -- The name is the first operand of the sum; a second one is needed for a concatenation.
  cases others with
  | nil => rfl
  | cons second rest =>
    change (first.identifier? == some name && (scope.isStringTyped name ||
      (second :: rest).any (joinsStrings scope))) = _
    rw [identifier, beq_self_eq_true, List.isEmpty_cons, Bool.not_false]

theorem exposed_iff (spellings : Spellings name expression short long) {place other : List Crumb}
    (samePlace : List.Forall₂ Crumb.Alike place other) :
    Exposed name (long.within other) ↔ Exposed name (short.within place) := by
  have loop := isInsideLoop_eq samePlace short long
  have printed := fun named => isPrintedOrLogged_eq samePlace (spellings.respelled named)
    spellings.notName spellings.role
  constructor
  · rintro ⟨named, inLoop, quiet⟩
    exact ⟨named, loop ▸ inLoop, printed named ▸ quiet⟩
  · rintro ⟨named, inLoop, quiet⟩
    exact ⟨named, loop ▸ inLoop, printed named ▸ quiet⟩

theorem reported_once_iff (spellings : Spellings name expression short long)
    (place : List Crumb) (context : MethodContext) :
    stringConcatenationInLoop (short.within place) context ≠ silent ↔
      Exposed name (short.within place) ∧ (context.scope.isStringTyped name = true ∨
        (Site.root expression).unwrap?.any (·.kind == .stringLiteral) = true) := by
  obtain ⟨target, names, isShort⟩ := spellings.once
  rw [Node.within, reported_iff isShort names, spellings.appendsString_once, Bool.or_eq_true]

theorem reported_twice_iff (spellings : Spellings name expression short long)
    (place : List Crumb) (context : MethodContext) :
    stringConcatenationInLoop (long.within place) context ≠ silent ↔
      Exposed name (long.within place) ∧ (Site.root expression).plusOperands ≠ [] ∧
        (context.scope.isStringTyped name = true ∨
          (Site.root expression).plusOperands.any (joinsStrings context.scope) = true) := by
  obtain ⟨target, sum, names, _, isLong⟩ := spellings.twice
  rw [Node.within, reported_iff isLong names, spellings.appendsString_twice, Bool.and_eq_true,
    Bool.or_eq_true, Bool.not_eq_true', List.isEmpty_eq_false_iff]

end Spellings

/-- At one place, whatever the short spelling is reported for the long one is reported for too, if
the expression has an operand. Both are reported or neither exactly if, wherever concatenations are
reported at all, the expression has an operand in case the name is that of a string, and otherwise
no operand joins strings unless the whole expression is a string literal. -/
theorem spellings_agree_iff (context : MethodContext) {name : String}
    {expression short long : Node} {place other : List Crumb}
    (spellings : Spellings name expression short long)
    (samePlace : List.Forall₂ Crumb.Alike place other) :
    let operands := (Site.root expression).plusOperands
    let reported := fun site => stringConcatenationInLoop site context ≠ silent
    (operands ≠ [] → reported (short.within place) → reported (long.within other)) ∧
      ((reported (short.within place) ↔ reported (long.within other)) ↔
        (Exposed name (short.within place) →
          if context.scope.isStringTyped name then operands ≠ []
          else operands.any (joinsStrings context.scope) = true →
            (Site.root expression).unwrap?.any (·.kind == .stringLiteral) = true)) := by
  intro operands reported
  have once : reported (short.within place) ↔ _ := spellings.reported_once_iff place context
  have twice : reported (long.within other) ↔ _ := spellings.reported_twice_iff other context
  rw [spellings.exposed_iff samePlace] at twice
  -- What the short spelling takes for a string is among the operands that the long one looks
  -- at.
  have literal : _ → operands.any (joinsStrings context.scope) = true :=
    any_joinsStrings_of_literal context.scope
  have nonempty : operands.any (joinsStrings context.scope) = true → operands ≠ [] := by
    rintro joins isEmpty
    rw [isEmpty] at joins
    cases joins
  rw [once, twice]
  refine ⟨fun added ⟨exposed, appends⟩ => ⟨exposed, added, appends.imp_right literal⟩, ?_, ?_⟩
  · intro agree exposed
    split
    next typed => exact (agree.mp ⟨exposed, .inl typed⟩).2.1
    next untyped =>
      exact fun joins => (agree.mpr ⟨exposed, nonempty joins, .inr joins⟩).2.resolve_left untyped
  · intro whole
    by_cases typed : context.scope.isStringTyped name = true
    · rw [if_pos typed] at whole
      exact ⟨fun ⟨exposed, _⟩ => ⟨exposed, whole exposed, .inl typed⟩,
        fun ⟨exposed, _⟩ => ⟨exposed, .inl typed⟩⟩
    · rw [if_neg typed] at whole
      constructor
      · rintro ⟨exposed, appends⟩
        have joins := literal (appends.resolve_left typed)
        exact ⟨exposed, nonempty joins, .inr joins⟩
      · rintro ⟨exposed, _, joins⟩
        exact ⟨exposed, .inr (whole exposed (joins.resolve_left typed))⟩

def onLine (kind : Kind) (named : Bool) (role : Option Role) (start : Nat) (text : String)
    (children : List Node) : Node :=
  .node {
    kind, named, missing := false, role, start, stop := start + text.length
    line := 1, endLine := 1, text } children

def tokenOnLine (text : String) (start : Nat) : Node :=
  onLine (.other text) false none start text []

/-- The place of an assignment in a method that does nothing but repeat it. -/
def loopBody (assignment : String) : List Crumb :=
  let stop := 23 + assignment.length
  let statement := assignment ++ ";"
  let block := "\x7b " ++ statement ++ " \x7d"
  let loop := "while (c) " ++ block
  let body := "\x7b " ++ loop ++ " \x7d"
  let crumb := fun (kind : Kind) (role : Option Role) (start : Nat) (text : String)
    (left right : List Node) => Crumb.mk (onLine kind true role start text []).label left right
  [crumb .expressionStatement none 23 statement [] [tokenOnLine ";" stop],
    crumb .block (some .body) 21 block [tokenOnLine "\x7b" 21] [tokenOnLine "\x7d" (stop + 2)],
    crumb .whileStatement none 11 loop [tokenOnLine "while" 11,
      onLine .parenthesizedExpression true (some .condition) 17 "(c)" [
        tokenOnLine "(" 17, onLine .identifier true none 18 "c" [], tokenOnLine ")" 19]] [],
    crumb .block (some .body) 9 body [tokenOnLine "\x7b" 9] [tokenOnLine "\x7d" (stop + 4)],
    crumb .methodDeclaration none 0 ("void f() " ++ body) [
      onLine (.other "void_type") true (some .type) 0 "void" [],
      onLine .identifier true (some .name) 5 "f" [],
      onLine (.other "formal_parameters") true (some .parameters) 6 "()" [
        tokenOnLine "(" 6, tokenOnLine ")" 7]] []]

def operationOnLine (kind : Kind) (role : Option Role) (operator : String) (left right : Node) :
    Node :=
  onLine kind true role left.start (left.text ++ " " ++ operator ++ " " ++ right.text) [left,
    onLine (.other operator) false (some .operator) (left.stop + 1) operator [], right]

theorem isOperation_onLine {kind : Kind} {role : Option Role} {operator : String}
    {left right : Node} (leftRole : left.role = some .left) (rightRole : right.role = some .right) :
    (operationOnLine kind role operator left right).IsOperation kind operator left right :=
  ⟨rfl, leftRole, rightRole, _, ⟨rfl, rfl, rfl, rfl, rfl⟩, rfl⟩

def identifierOnLine (role : Role) (start : Nat) (name : String) : Node :=
  onLine .identifier true (some role) start name []

theorem names_onLine (role : Role) (start : Nat) (name : String) :
    (identifierOnLine role start name).Names name :=
  ⟨rfl, rfl, rfl, rfl⟩

def addedOnce : Node :=
  operationOnLine .assignmentExpression none "+=" (identifierOnLine .left 23 "o")
    (identifierOnLine .right 28 "s")

def addedTwice : Node :=
  operationOnLine .assignmentExpression none "=" (identifierOnLine .left 23 "o")
    (operationOnLine .binaryExpression (some .right) "+" (identifierOnLine .left 27 "o")
      (identifierOnLine .right 31 "s"))

def loopContext (fields : List TypedName) : MethodContext :=
  let method := Site.root
    ((loopBody addedOnce.text).foldl (fun node crumb => crumb.fill node) addedOnce)
  ⟨method, "A", .ofMethod fields method, .ofMethod method⟩

theorem added_spellings : Spellings "o" (identifierOnLine .right 28 "s") addedOnce addedTwice where
  once := ⟨_, names_onLine .., isOperation_onLine rfl rfl⟩
  twice := ⟨_, _, names_onLine .., .direct (names_onLine ..)
    (isOperation_onLine rfl rfl) (by decide +kernel), isOperation_onLine rfl rfl⟩
  role := rfl
  notName := by decide

theorem added_places :
    List.Forall₂ Crumb.Alike (loopBody addedOnce.text) (loopBody addedTwice.text) := by
  refine .cons ?_ (.cons ?_ (.cons ?_ (.cons ?_ (.cons ?_ .nil)))) <;>
    exact ⟨by decide +kernel, by decide +kernel, by decide +kernel, by decide +kernel,
      .of_forall₂ (by decide +kernel), .of_forall₂ (by decide +kernel)⟩

theorem string_grows_in_both_spellings :
    Spellings "o" (identifierOnLine .right 28 "s") addedOnce addedTwice ∧
      List.Forall₂ Crumb.Alike (loopBody addedOnce.text) (loopBody addedTwice.text) ∧
      stringConcatenationInLoop (addedOnce.within (loopBody addedOnce.text))
        (loopContext [⟨"o", "String"⟩]) ≠ silent ∧
      stringConcatenationInLoop (addedTwice.within (loopBody addedTwice.text))
        (loopContext [⟨"o", "String"⟩]) ≠ silent := by
  have once : stringConcatenationInLoop (addedOnce.within (loopBody addedOnce.text))
      (loopContext [⟨"o", "String"⟩]) ≠ silent := by decide +kernel
  obtain ⟨twice, _⟩ :=
    spellings_agree_iff (loopContext [⟨"o", "String"⟩]) added_spellings added_places
  exact ⟨added_spellings, added_places, once, twice (by decide +kernel) once⟩

theorem string_added_to_object_differs :
    Spellings "o" (identifierOnLine .right 28 "s") addedOnce addedTwice ∧
      List.Forall₂ Crumb.Alike (loopBody addedOnce.text) (loopBody addedTwice.text) ∧
      stringConcatenationInLoop (addedOnce.within (loopBody addedOnce.text))
        (loopContext [⟨"s", "String"⟩]) = silent ∧
      stringConcatenationInLoop (addedTwice.within (loopBody addedTwice.text))
        (loopContext [⟨"s", "String"⟩]) ≠ silent :=
  ⟨added_spellings, added_places, by decide +kernel, by decide +kernel⟩

end Optimization

end JavaAudit
