import JavaAudit.Proofs.RenderedParts
import JavaAudit.Proofs.SelfConcatenation
import JavaAudit.Proofs.UnusedLocals

/-! Uses of a name in the text of a body.

Whether a name is used is also searched for in text, by what stands around it. The gaps of the
canonical text are those that the search expects: a name that is an argument, an index, a returned
value or the right operand of a sum or a comparison is found, at any depth. So it is never reported
as unused. -/

set_option autoImplicit false

namespace JavaAudit

namespace Text

variable {left name right : List Char}

theorem occursWhole_append (filled : left ≠ [])
    (leftFree : left.getLast?.any isIdentifierChar = false) {after : List Char}
    (starts : right <+: after) (rightFree : after.head?.any isIdentifierChar = false)
    (passed : List Char) :
    occursWhole left name right (passed ++ (left ++ (name ++ after))) = true := by
  obtain ⟨rest, rfl⟩ := starts
  refine occursWhole_iff.mpr ⟨passed, rest, (List.append_assoc ..).symm, ?_, rightFree⟩
  rw [List.getLast?_append_of_ne_nil _ filled]
  exact leftFree

end Text

namespace Token

open Text (startsIdentifier)

theorem head?_spacedAfter {word : Token} (isWord : word.cls = .word) {after : List Token}
    (wellFormed : ∀ token ∈ after, token.WellFormed) :
    (spacedAfter word after).head?.any Text.isIdentifierChar = false := by
  cases after with
  | nil => rfl
  | cons next rest =>
    have nextFormed := wellFormed next (List.mem_cons_self ..)
    have filled : next.text.toList ≠ [] := by simpa using nextFormed.filled
    rw [spacedAfter_cons, gap]
    split
    next => rfl
    next tight =>
      -- Without a gap, the next token cannot start like a name: words keep apart from names.
      cases starts : startsIdentifier next.text with
      | true =>
        have nextWord := nextFormed.word_of_startsIdentifier starts
        rw [needsSpace_eq_spacesName word nextWord starts] at tight
        simp [spacesName, isWord] at tight
      | false => rwa [List.nil_append, List.head?_append_of_ne_nil _ filled]

theorem spacedAfter_tight {word : Token} (isWord : word.cls = .word) {mark : String}
    (isTight : mark ∈ tightBefore) (after : List Token) :
    spacedAfter word (⟨mark, .punctuation⟩ :: after) =
      mark.toList ++ spacedAfter ⟨mark, .punctuation⟩ after := by
  have noGap : needsSpace word ⟨mark, .punctuation⟩ = false := by
    simp [needsSpace, isWord, isTight]
  rw [spacedAfter_cons, gap, noGap]
  rfl

end Token

namespace Usage

theorem left_free : ∀ place ∈ surroundings,
    place.left.toList.getLast?.any Text.isIdentifierChar = false := by
  decide +kernel

/-- A word is used if the text around it, gaps included, is one of the known surroundings. -/
theorem isUsedIn_of_tokens {place : Surroundings} (known : place ∈ surroundings)
    {left word : Token} {before after : List Token} {name : String} (isWord : word.text = name)
    (filled : name ≠ "") (leftFilled : left.text ≠ "")
    (leftText : place.left.toList = left.text.toList ++ Token.gap left word)
    (rightText : place.right.toList <+: Token.spacedAfter word after)
    (rightFree : (Token.spacedAfter word after).head?.any Text.isIdentifierChar = false) :
    isUsedIn name (String.ofList (Token.spaced (before ++ left :: word :: after))) = true := by
  subst isWord
  obtain ⟨passed, ends⟩ := Token.exists_spaced_concat before left
  have text : Token.spaced (before ++ left :: word :: after) =
      passed ++ (place.left.toList ++ (word.text.toList ++ Token.spacedAfter word after)) := by
    rw [Token.spaced_append_cons, ends, leftText, Token.spaced]
    simp only [List.append_assoc]
  have placeFilled : place.left.toList ≠ [] := by
    rw [leftText]
    exact List.append_ne_nil_of_left_ne_nil (by simpa using leftFilled) _
  have notEmpty : word.text.isEmpty = false := by simpa using filled
  rw [isUsedIn, notEmpty, Bool.not_false, Bool.true_and, List.any_eq_true]
  refine ⟨place, known, ?_⟩
  rw [Surroundings.around, String.toList_ofList, text]
  exact Text.occursWhole_append placeFilled (left_free place known) rightText rightFree passed

end Usage

namespace Node

def written (node : Node) : List Node :=
  node.children.filter (!·.kind.isComment)

structure IsMark (node : Node) (mark : String) : Prop where
  code : node.kind.isComment = false
  named : node.named = false
  leaf : node.children = []
  text : node.text = mark

/-- The name stands behind a mark, and other children behind the name. Comments do not count. -/
def HoldsBehind (node : Node) (mark name : String) (after : List Node) : Prop :=
  ∃ before left use, node.written = before ++ left :: use :: after ∧
    left.IsMark mark ∧ use.Names name

def HoldsBetween (node : Node) (opening name closing : String) : Prop :=
  ∃ right after, node.HoldsBehind opening name (right :: after) ∧ right.IsMark closing

/-- The name is an argument, an index, a returned value, or the right operand of a sum or a
comparison. -/
inductive Uses (node : Node) (name : String) : Prop where
  | argument {opening closing : String} (kind : node.kind = .argumentList)
      (isOpening : opening ∈ ["(", ","]) (isClosing : closing ∈ [",", ")"])
      (held : node.HoldsBetween opening name closing)
  | index (kind : node.kind = .arrayAccess) (held : node.HoldsBetween "[" name "]")
  | result (kind : node.kind = .returnStatement) (held : node.HoldsBetween "return" name ";")
  | operand {operator : String} {after : List Node} (kind : node.kind = .binaryExpression)
      (isOperator : operator ∈ ["+", "==", "!="]) (held : node.HoldsBehind operator name after)

def markToken (parent : Kind) (mark : String) : Token :=
  ⟨mark, if Token.startsWord mark.toList then .word
    else if Token.operators.contains mark && parent.spacesOperators then .operator
    else .punctuation⟩

theorem IsMark.tokens_eq {node : Node} {mark : String} (isMark : node.IsMark mark)
    (filled : mark ≠ "") (parent : Kind) :
    node.tokens (some parent) = [markToken parent mark] := by
  have text : node.label.text = mark := isMark.text
  have named : node.label.named = false := isMark.named
  have isToken : node.isToken = true := by
    rw [isToken, isMark.leaf, List.isEmpty_nil, Bool.or_true]
  have notEmpty : mark.isEmpty = false := by simpa using filled
  rw [Node.tokens_eq, isMark.code, isToken, Token.ofLeaf?, text, named, notEmpty, markToken]
  simp only [Bool.false_eq_true, if_false, if_true, Bool.not_false, Bool.true_and,
    Option.any_some]
  split_ifs <;> rfl

theorem tokens_eq_written {node child : Node} (isOpen : node.kind.isSealed = false)
    (isWritten : child ∈ node.written) (parent : Option Kind) :
    node.tokens parent = node.written.flatMap (tokens (some node.kind)) := by
  rw [tokens_of_mem_children isOpen (List.mem_filter.mp isWritten).1, written]
  induction node.children with
  | nil => rfl
  | cons first rest ih =>
    rw [List.flatMap_cons, ih, List.filter_cons]
    cases isComment : first.kind.isComment with
    | true => rw [tokens_eq, if_pos isComment]; rfl
    | false => rfl

theorem HoldsBehind.exists_tokens {node : Node} {mark name : String} {after : List Node}
    (held : node.HoldsBehind mark name after) (isOpen : node.kind.isSealed = false)
    (filled : mark ≠ "") (named : name ≠ "") (parent : Option Kind) :
    ∃ before, node.tokens parent = before ++ markToken node.kind mark :: nameToken name ::
      after.flatMap (tokens (some node.kind)) := by
  obtain ⟨before, left, use, written, isMark, names⟩ := held
  have isWritten : use ∈ node.written := by simp [written]
  refine ⟨before.flatMap (tokens (some node.kind)), ?_⟩
  rw [tokens_eq_written isOpen isWritten, written, List.flatMap_append, List.flatMap_cons,
    List.flatMap_cons, isMark.tokens_eq filled, names.tokens_eq named]
  rfl

end Node

namespace Node

def placeOf (parent : Kind) (mark right : String) : Usage.Surroundings :=
  ⟨mark ++ if (markToken parent mark).spacesName then " " else "", right⟩

variable {name : String}

theorem nameToken_word (isName : Text.startsIdentifier name = true) :
    (nameToken name).cls = .word := by
  rw [nameToken, Token.startsWord_of_startsIdentifier isName]
  rfl

theorem left_placeOf (parent : Kind) (mark right : String)
    (isName : Text.startsIdentifier name = true) :
    (placeOf parent mark right).left.toList =
      (markToken parent mark).text.toList ++
        Token.gap (markToken parent mark) (nameToken name) := by
  rw [Token.gap_name _ (nameToken_word isName) isName, placeOf, String.toList_append]
  split <;> rfl

theorem ne_empty_of_startsIdentifier (isName : Text.startsIdentifier name = true) : name ≠ "" := by
  rintro rfl
  cases isName

end Node

namespace Site

open Node (markToken nameToken placeOf)

variable {body site : Site} {name : String}

theorem Exposes.exists_tokens (exposed : body.Exposes site) (isOpen : site.kind.isSealed = false)
    (isName : Text.startsIdentifier name = true) {mark : String} {after : List Node}
    (held : site.node.HoldsBehind mark name after) (filled : mark ≠ "") :
    ∃ before rest, body.tokens = before ++ markToken site.kind mark :: nameToken name ::
      (after.flatMap (Node.tokens (some site.kind)) ++ rest) := by
  obtain ⟨outside, rest, inside⟩ := exposed.tokens_infix
  obtain ⟨before, tokens⟩ := held.exists_tokens isOpen filled
    (Node.ne_empty_of_startsIdentifier isName) (site.above.head?.map (·.node.kind))
  refine ⟨outside ++ before, rest, ?_⟩
  rw [← inside, Site.tokens, tokens]
  simp [kind]

theorem Exposes.isUsedIn_behind (exposed : body.Exposes site)
    (isOpen : site.kind.isSealed = false) (isName : Text.startsIdentifier name = true)
    {mark : String} {after : List Node} (held : site.node.HoldsBehind mark name after)
    (filled : mark ≠ "") (known : placeOf site.kind mark "" ∈ Usage.surroundings) :
    Usage.isUsedIn name body.render = true := by
  obtain ⟨before, rest, tokens⟩ := exposed.exists_tokens isOpen isName held filled
  have wellFormed : ∀ token ∈ after.flatMap (Node.tokens (some site.kind)) ++ rest,
      token.WellFormed := by
    intro token member
    have ofBody : token ∈ body.tokens := by
      rw [tokens]
      exact List.mem_append_right _ (List.mem_cons_of_mem _ (List.mem_cons_of_mem _ member))
    exact wellFormed_of_mem_tokens ofBody
  rw [render, tokens]
  exact Usage.isUsedIn_of_tokens known rfl (Node.ne_empty_of_startsIdentifier isName) filled
    (Node.left_placeOf site.kind mark "" isName) List.nil_prefix
    (Token.head?_spacedAfter (Node.nameToken_word isName) wellFormed)

theorem Exposes.isUsedIn_between (exposed : body.Exposes site)
    (isOpen : site.kind.isSealed = false) (isName : Text.startsIdentifier name = true)
    {opening closing : String} (held : site.node.HoldsBetween opening name closing)
    (filled : opening ≠ "") (isTight : closing ∈ Token.tightBefore)
    (known : placeOf site.kind opening closing ∈ Usage.surroundings) :
    Usage.isUsedIn name body.render = true := by
  obtain ⟨right, after, held, closes⟩ := held
  obtain ⟨before, rest, tokens⟩ := exposed.exists_tokens isOpen isName held filled
  have marks : ∀ mark ∈ Token.tightBefore, mark ≠ "" ∧ Token.startsWord mark.toList = false ∧
      Token.operators.contains mark = false ∧ Text.startsIdentifier mark = false := by
    decide +kernel
  obtain ⟨closingFilled, noWord, noOperator, noName⟩ := marks closing isTight
  -- Marks that close are no operators under any parent, so they follow the name at once.
  have closingToken : markToken site.kind closing = ⟨closing, .punctuation⟩ := by
    rw [markToken, noWord, noOperator]
    rfl
  have follows := Token.spacedAfter_tight (Node.nameToken_word isName) isTight
    (after.flatMap (Node.tokens (some site.kind)) ++ rest)
  rw [List.flatMap_cons, closes.tokens_eq closingFilled, closingToken, List.append_assoc,
    List.singleton_append] at tokens
  rw [render, tokens]
  refine Usage.isUsedIn_of_tokens known rfl (Node.ne_empty_of_startsIdentifier isName) filled
    (Node.left_placeOf site.kind opening closing isName) ?_ ?_
  · rw [follows]
    exact List.prefix_append ..
  · rw [follows, List.head?_append_of_ne_nil _ (by simpa using closingFilled)]
    exact noName

/-- Each form of use has its surroundings among those that are searched for. -/
theorem Exposes.isUsedIn_of_uses (exposed : body.Exposes site)
    (isName : Text.startsIdentifier name = true) (uses : site.node.Uses name) :
    Usage.isUsedIn name body.render = true := by
  cases uses with
  | @argument opening closing isKind isOpening isClosing held =>
    have isKind : site.kind = .argumentList := isKind
    -- All four pairs of marks that may stand around an argument are in the table.
    have known : ∀ opening ∈ ["(", ","], ∀ closing ∈ [",", ")"], opening ≠ "" ∧
        closing ∈ Token.tightBefore ∧
        placeOf .argumentList opening closing ∈ Usage.surroundings := by
      decide +kernel
    obtain ⟨filled, isTight, isPlace⟩ := known opening isOpening closing isClosing
    exact exposed.isUsedIn_between (by rw [isKind]; rfl) isName held filled isTight
      (by rwa [isKind])
  | index isKind held =>
    have isKind : site.kind = .arrayAccess := isKind
    exact exposed.isUsedIn_between (by rw [isKind]; rfl) isName held (by decide) (by decide)
      (by rw [isKind]; decide +kernel)
  | result isKind held =>
    have isKind : site.kind = .returnStatement := isKind
    exact exposed.isUsedIn_between (by rw [isKind]; rfl) isName held (by decide) (by decide)
      (by rw [isKind]; decide +kernel)
  | @operand operator after isKind isOperator held =>
    have isKind : site.kind = .binaryExpression := isKind
    have known : ∀ operator ∈ ["+", "==", "!="], operator ≠ "" ∧
        placeOf .binaryExpression operator "" ∈ Usage.surroundings := by
      decide +kernel
    obtain ⟨filled, isPlace⟩ := known operator isOperator
    exact exposed.isUsedIn_behind (by rw [isKind]; rfl) isName held filled (by rwa [isKind])

end Site

namespace Optimization

theorem unusedVariable_of_isUsedIn {context : MethodContext} {declarator : Site}
    (found : Usage.isUsedIn declarator.declaredName context.scope.bodyText = true) :
    unusedVariable declarator context = silent := by
  have notIdle : isIdleLocal context declarator = false := by simp [isIdleLocal, found]
  rw [unusedVariable_eq, notIdle]
  rfl

/-- Let a name be an argument, an index, a returned value or the right operand of a sum or a
comparison anywhere in a body, nested types included, but not in a comment or a literal. Then it is
found in the text of the body, and no method with this body reports a local of that name as
unused. The name has to start with a letter or a numeral of any script, an underscore or a dollar
sign. This leaves out the empty name of a damaged declaration, and identifiers that start with any
other character, such as `℮`: these are not written as words, so a word may follow without a
blank. -/
theorem written_uses_never_unused (body site : Site) (name : String)
    (isName : Text.startsIdentifier name = true) (exposed : body.Exposes site)
    (uses : site.node.Uses name) :
    Usage.isUsedIn name body.render = true ∧
      ∀ (fields : List TypedName) (context : MethodContext), context.method.body? = some body →
        context.scope = .ofMethod fields context.method →
          (∀ declarator : Site, declarator.declaredName = name →
            unusedVariable declarator context = silent) ∧
          ∀ limits, ∀ finding ∈ (analyzeMethod limits context).findings,
            finding.category = .unusedVariable → ∃ declarator ∈ context.method.ownScope,
              declarator.declaredName ≠ name ∧ finding = unusedFinding declarator := by
  have found := exposed.isUsedIn_of_uses isName uses
  refine ⟨found, fun fields context hasBody tracked => ?_⟩
  have bodyText : context.scope.bodyText = body.render := by
    rw [tracked, Scope.ofMethod, hasBody]
    rfl
  constructor
  · rintro declarator rfl
    exact unusedVariable_of_isUsedIn (by rw [bodyText, found])
  · intro limits finding member isUnused
    have listed : finding ∈ (analyzeMethod limits context).findings.filter
        (·.category == .unusedVariable) := List.mem_filter.mpr ⟨member, by simp [isUnused]⟩
    rw [filter_unusedVariable] at listed
    obtain ⟨declarator, isListed, rfl⟩ := List.mem_map.mp listed
    obtain ⟨inScope, isReported⟩ := List.mem_filter.mp isListed
    refine ⟨declarator, inScope, ?_, rfl⟩
    rintro rfl
    simp [isIdleLocal, bodyText, found] at isReported

def capturingText : String :=
  let opening := "\x7b"
  let closing := "\x7d"
  s!"void f() {opening} int k = 1; new B() {opening} int g() {opening} " ++
    s!"return /* c */ k; {closing} {closing}; {closing}"

def capturingReturn : Node :=
  let node := Node.ofAscii capturingText
  node .returnStatement true none 42 59 [
    .token capturingText "return" 42, node .blockComment true none 49 56 [],
    node .identifier true none 57 58 [], node .semicolon false none 58 59 []]

def capturingMethod : Node :=
  let node := Node.ofAscii capturingText
  let token := Node.token capturingText
  let getter := node .methodDeclaration true none 32 61 [
    node (.other "integral_type") true (some .type) 32 35 [token "int" 32],
    node .identifier true (some .name) 36 37 [],
    node (.other "formal_parameters") true (some .parameters) 37 39 [token "(" 37, token ")" 38],
    node .block true (some .body) 40 61 [
      token "\x7b" 40, capturingReturn, token "\x7d" 60]]
  .voidMethod capturingText 0 capturingText.length [
    intLocal capturingText none 11,
    node .expressionStatement true none 22 64 [
      node .objectCreationExpression true none 22 63 [
        token "new" 22,
        node (.other "type_identifier") true (some .type) 26 27 [],
        node .argumentList true (some .arguments) 27 29 [token "(" 27, token ")" 28],
        node .classBody true none 30 63 [token "\x7b" 30, getter, token "\x7d" 62]],
      node .semicolon false none 63 64 []]]

theorem uses_capturingReturn : capturingReturn.Uses "k" := by
  have isReturn : Node.IsMark (.token capturingText "return" 42) "return" :=
    ⟨rfl, rfl, rfl, by decide +kernel⟩
  have isUse : Node.Names (.ofAscii capturingText .identifier true none 57 58 []) "k" :=
    ⟨rfl, rfl, rfl, by decide +kernel⟩
  have isEnd : Node.IsMark (.ofAscii capturingText .semicolon false none 58 59 []) ";" :=
    ⟨rfl, rfl, rfl, by decide +kernel⟩
  exact .result rfl ⟨_, [], ⟨[], _, _, rfl, isReturn, isUse⟩, isEnd⟩

theorem captured_local_found :
    let context := MethodContext.alone [] capturingMethod
    ∃ body site, context.method.body? = some body ∧ body.Exposes site ∧ site.node.Uses "k" ∧
      "k" ∉ context.scope.used ∧ Usage.isUsedIn "k" body.render = true ∧
      ∀ declarator : Site, declarator.declaredName = "k" →
        unusedVariable declarator context = silent := by
  -- The body of the class is no part of the scope, yet the local is found in the text.
  intro context
  let body := context.method.body?.get (by decide +kernel)
  let site := (body.walk Kind.isSealed).get ⟨27, by decide +kernel⟩
  have hasBody : context.method.body? = some body := (Option.some_get _).symm
  have exposed : body.Exposes site := Site.exposes_of_mem_walk (by decide +kernel) (List.get_mem ..)
  have isReturn : site.node = capturingReturn := by rfl
  have uses : site.node.Uses "k" := isReturn ▸ uses_capturingReturn
  obtain ⟨found, ofMethod⟩ :=
    written_uses_never_unused body site "k" (by decide +kernel) exposed uses
  exact ⟨body, site, hasBody, exposed, uses, by decide +kernel, found,
    (ofMethod [] context hasBody rfl).1⟩

end Optimization

end JavaAudit
