import Mathlib.Tactic.SplitIfs
import JavaAudit.Proofs.CanonicalText

/-! Gaps between neighbouring tokens.

What stands between two tokens of a canonical text depends on these two alone. Main statement: where
an identifier character would meet another one, there is a blank exactly if the token in front
starts like a word. `@interface` does not, so it runs into the name behind it. -/

set_option autoImplicit false

namespace JavaAudit

namespace Token

/-- A token as trees have them: it is not empty, and its class agrees with its text. -/
structure WellFormed (token : Token) : Prop where
  filled : token.text ≠ ""
  word : token.cls = .word ↔ startsWord token.text.toList = true
  operator : token.cls = .operator → token.text ∈ operators

theorem wellFormed_of_mem_ofLeaf? {parent : Option Kind} {label : Label} {token : Token}
    (member : token ∈ (ofLeaf? parent label).toList) : token.WellFormed := by
  rw [Option.mem_toList, ofLeaf?] at member
  split_ifs at member with isEmpty isWord isOperator <;> cases member
  · exact ⟨by simpa using isEmpty, by simp [isWord], by simp⟩
  · have known : operators.contains label.text = true := by
      simp only [Bool.and_eq_true] at isOperator
      exact isOperator.1.2
    exact ⟨by simpa using isEmpty, by simp [isWord], fun _ => by simpa using known⟩
  · exact ⟨by simpa using isEmpty, by simp [isWord], by simp⟩

end Token

namespace Node

mutual

theorem wellFormed_of_mem_tokens {parent : Option Kind} {token : Token} : ∀ {node : Node},
    token ∈ node.tokens parent → token.WellFormed
  | .node label children, member => by
    rw [tokens] at member
    split_ifs at member
    · cases member
    · exact Token.wellFormed_of_mem_ofLeaf? member
    · exact wellFormed_of_mem_tokensAll member

theorem wellFormed_of_mem_tokensAll {parent : Kind} {token : Token} : ∀ {nodes : List Node},
    token ∈ tokensAll parent nodes → token.WellFormed
  | first :: rest, member => by
    rw [tokensAll, List.mem_append] at member
    rcases member with inFirst | inRest
    · exact wellFormed_of_mem_tokens inFirst
    · exact wellFormed_of_mem_tokensAll inRest

end

end Node

namespace Text

/-- The text starts with a letter or a numeral of any script, an underscore or a dollar sign. -/
def startsIdentifier (text : String) : Bool :=
  text.toList.head?.any isIdentifierChar

def endsIdentifier (text : String) : Bool :=
  text.toList.getLast?.any isIdentifierChar

theorem not_mem_of_startsIdentifier {text : String} (starts : startsIdentifier text = true)
    {marks : List String} (others : ∀ mark ∈ marks, startsIdentifier mark = false) :
    text ∉ marks := by
  intro isMark
  rw [others text isMark] at starts
  cases starts

theorem not_mem_of_endsIdentifier {text : String} (ends : endsIdentifier text = true)
    {marks : List String} (others : ∀ mark ∈ marks, endsIdentifier mark = false) :
    text ∉ marks := by
  intro isMark
  rw [others text isMark] at ends
  cases ends

end Text

namespace Token

open Text (startsIdentifier endsIdentifier)

theorem startsWord_of_startsIdentifier {text : String} (starts : startsIdentifier text = true) :
    startsWord text.toList = true := by
  unfold startsIdentifier at starts
  cases characters : text.toList with
  | nil => simp [characters] at starts
  | cons first rest =>
    simp only [characters, List.head?_cons, Option.any_some, Text.isIdentifierChar,
      Text.isWordChar] at starts
    simp only [startsWord, starts, Bool.true_or]

theorem WellFormed.word_of_startsIdentifier {token : Token} (wellFormed : token.WellFormed)
    (starts : startsIdentifier token.text = true) : token.cls = .word :=
  wellFormed.word.mpr (startsWord_of_startsIdentifier starts)

def spacesName (token : Token) : Bool :=
  token.cls == .word || token.cls == .operator || expressionKeywords.contains token.text ||
    [",", ";", ":", "\x7b", "\x7d", ")", "]", ">", "..."].contains token.text

theorem needsSpace_eq_spacesName (first : Token) {second : Token} (isWord : second.cls = .word)
    (starts : startsIdentifier second.text = true) :
    needsSpace first second = first.spacesName := by
  have notTight : second.text ∉ tightBefore :=
    Text.not_mem_of_startsIdentifier starts (by decide +kernel)
  have noMark : second.text ∉ ["\x7b", "\x7d", "("] :=
    Text.not_mem_of_startsIdentifier starts (by decide +kernel)
  simp only [List.mem_cons, List.not_mem_nil, or_false, not_or] at noMark
  -- The tests on the second token fail, and those on the first make up `spacesName`.
  cases cls : first.cls with
  | word => simp [needsSpace, spacesName, cls, isWord, notTight]
  | operator => simp [needsSpace, spacesName, cls]
  | punctuation =>
    rw [Bool.eq_iff_iff]
    simp [needsSpace, spacesName, cls, isWord, notTight, noMark, or_assoc, or_left_comm]

theorem gap_name (first : Token) {second : Token} (isWord : second.cls = .word)
    (starts : startsIdentifier second.text = true) :
    gap first second = if first.spacesName then [' '] else [] := by
  rw [gap, needsSpace_eq_spacesName first isWord starts]

/-- Of the tokens that end like an identifier, those that start like a word are the ones with a
blank between them and a name. -/
theorem spacesName_of_endsIdentifier {token : Token} (wellFormed : token.WellFormed)
    (ends : endsIdentifier token.text = true) :
    token.spacesName = startsWord token.text.toList := by
  have noOperator : token.cls ≠ .operator := fun isOperator =>
    Text.not_mem_of_endsIdentifier ends (by decide +kernel) (wellFormed.operator isOperator)
  have noMark : token.text ∉ [",", ";", ":", "\x7b", "\x7d", ")", "]", ">", "..."] :=
    Text.not_mem_of_endsIdentifier ends (by decide +kernel)
  -- The keywords are words by themselves, so only the class is left to decide.
  have keywords : ∀ keyword ∈ expressionKeywords, startsWord keyword.toList = true := by
    decide +kernel
  rw [Bool.eq_iff_iff, ← wellFormed.word]
  constructor
  · intro spaces
    have isKeyword : token.cls = .word ∨ token.text ∈ expressionKeywords := by
      simpa [spacesName, noOperator, noMark] using spaces
    exact isKeyword.elim id fun member => wellFormed.word.mpr (keywords _ member)
  · intro isWord
    simp [spacesName, isWord]

theorem gap_of_identifiers {first second : Token} (firstFormed : first.WellFormed)
    (secondFormed : second.WellFormed) (ends : endsIdentifier first.text = true)
    (starts : startsIdentifier second.text = true) :
    gap first second = if startsWord first.text.toList then [' '] else [] := by
  rw [gap_name first (secondFormed.word_of_startsIdentifier starts) starts,
    spacesName_of_endsIdentifier firstFormed ends]

end Token

namespace Site

open Text (startsIdentifier endsIdentifier)

theorem wellFormed_of_mem_tokens {site : Site} {token : Token} (member : token ∈ site.tokens) :
    token.WellFormed :=
  Node.wellFormed_of_mem_tokens member

/-- Of two neighbouring tokens, let the first end and the second start with an identifier character.
The text has a blank between them if the first starts like a word; if not, nothing. -/
theorem gap_between_identifiers (site : Site) (before after : List Token) (first second : Token)
    (neighbours : site.tokens = before ++ first :: second :: after)
    (ends : endsIdentifier first.text = true) (starts : startsIdentifier second.text = true) :
    site.render.toList = Token.spaced (before ++ [first]) ++
      ((if Token.startsWord first.text.toList then [' '] else []) ++
        Token.spaced (second :: after)) := by
  have wellFormed (token : Token) (member : token ∈ before ++ first :: second :: after) :
      token.WellFormed := wellFormed_of_mem_tokens (neighbours ▸ member)
  rw [toList_render, neighbours, Token.spaced_append_cons,
    Token.gap_of_identifiers (wellFormed first (by simp)) (wellFormed second (by simp)) ends starts]

def annotationType : Node :=
  let source := "@interface A \x7b int x(); \x7d"
  let node := Node.ofAscii source
  let token := Node.token source
  node (.other "annotation_type_declaration") true none 0 25 [
    token "@interface" 0,
    node .identifier true (some .name) 11 12 [],
    node (.other "annotation_type_body") true (some .body) 13 25 [
      token "\x7b" 13,
      node (.other "annotation_type_element_declaration") true none 15 23 [
        node (.other "integral_type") true (some .type) 15 18 [token "int" 15],
        node .identifier true (some .name) 19 20 [],
        token "(" 20, token ")" 21, node .semicolon false none 22 23 []],
      token "\x7d" 24]]

theorem element_name_apart :
    ∃ before first second after,
      (root annotationType).tokens = before ++ first :: second :: after ∧
        first.text = "int" ∧ second.text = "x" ∧
        (root annotationType).render.toList =
          Token.spaced (before ++ [first]) ++ ' ' :: Token.spaced (second :: after) := by
  -- The type of the element is a word, so its name stands apart.
  let tokens := (root annotationType).tokens
  refine ⟨tokens.take 3, ⟨"int", .word⟩, ⟨"x", .word⟩, tokens.drop 5, by decide +kernel, rfl, rfl,
    ?_⟩
  exact gap_between_identifiers (root annotationType) _ _ _ _ (by decide +kernel)
    (by decide +kernel) (by decide +kernel)

/-- The keyword of an annotation type starts with a sign, and the name runs into it. -/
theorem annotation_name_fused :
    ∃ first second after,
      (root annotationType).tokens = first :: second :: after ∧
        endsIdentifier first.text = true ∧ startsIdentifier second.text = true ∧
        (root annotationType).render = "@interfaceA \x7b int x(); \x7d" ∧
        (root annotationType).render.toList ≠
          Token.spaced [first] ++ ' ' :: Token.spaced (second :: after) := by
  exact ⟨⟨"@interface", .punctuation⟩, ⟨"A", .word⟩, (root annotationType).tokens.drop 2,
    by decide +kernel, by decide +kernel, by decide +kernel, by decide +kernel, by decide +kernel⟩

end Site

end JavaAudit
