import JavaAudit.Text.Alphanumeric

/-! Searching text for words, whole identifiers and their surroundings, and cutting it at a mark.

A word is found in a text exactly if it is found before or after a mark that it does not hold. The
name of a variable is found only where no identifier character touches it. -/

set_option autoImplicit false

namespace JavaAudit.Text

def occursIn (word : List Char) : List Char → Bool
  | [] => word.isEmpty
  | c :: rest => word.isPrefixOf (c :: rest) || occursIn word rest

def contains (text word : String) : Bool :=
  occursIn word.toList text.toList

def containsAny (words : List String) (text : List Char) : Bool :=
  words.any fun word => occursIn word.toList text

def startsWithAny (words : List String) (text : List Char) : Bool :=
  words.any fun word => word.toList.isPrefixOf text

/-- Does `name` stand at the front of `text`, with `right` after it and no identifier character
touching it? `before` is the character that precedes `text`. -/
def wholeAt (name right : List Char) (before : Option Char) (text : List Char) : Bool :=
  let after := text.drop name.length
  name.isPrefixOf text && right.isPrefixOf after &&
    !before.any isIdentifierChar && !after.head?.any isIdentifierChar

def surroundedAt (left name right : List Char) (before : Option Char) (text : List Char) : Bool :=
  left.isPrefixOf text &&
    wholeAt name right (if left.isEmpty then before else left.getLast?) (text.drop left.length)

def occursWholeFrom (left name right : List Char) : Option Char → List Char → Bool
  | before, [] => surroundedAt left name right before []
  | before, c :: rest =>
    surroundedAt left name right before (c :: rest) ||
      occursWholeFrom left name right (some c) rest

/-- Does the text hold `left`, `name` and `right` in a row, with `name` as a whole identifier? -/
def occursWhole (left name right : List Char) (text : List Char) : Bool :=
  occursWholeFrom left name right none text

def afterLast (mark : Char) (text : List Char) : List Char :=
  (text.reverse.takeWhile (· != mark)).reverse

def piecesFrom (mark : List Char) (skip : Nat) : List Char → List (List Char)
  | [] => [[]]
  | c :: rest =>
    if 0 < skip then piecesFrom mark (skip - 1) rest
    else if mark.isPrefixOf (c :: rest) then [] :: piecesFrom mark (mark.length - 1) rest
    else
      match piecesFrom mark 0 rest with
      | [] => [[c]]
      | first :: others => (c :: first) :: others

def pieces (mark : List Char) (text : List Char) : List (List Char) :=
  piecesFrom mark 0 text

def occurrences (mark : List Char) (text : List Char) : Nat :=
  (pieces mark text).length - 1

/-- Cut a text at the occurrence of a mark with the given number, or at the last one if there are
fewer. -/
def cutAt (mark : List Char) (number : Nat) (text : List Char) : List Char × List Char :=
  let all := pieces mark text
  let cut := min number (all.length - 1)
  (mark.intercalate (all.take cut), mark.intercalate (all.drop cut))

theorem isPrefixOf_append_cons {word : List Char} {mark : Char} (free : mark ∉ word)
    (before after : List Char) :
    word.isPrefixOf (before ++ mark :: after) = word.isPrefixOf before := by
  induction word generalizing before with
  | nil => simp
  | cons letter word ih =>
    rw [List.mem_cons, not_or] at free
    cases before with
    | nil =>
      rw [List.nil_append, List.isPrefixOf_cons_cons, beq_false_of_ne (Ne.symm free.1)]
      rfl
    | cons c before =>
      rw [List.cons_append, List.isPrefixOf_cons_cons, List.isPrefixOf_cons_cons, ih free.2]

theorem occursIn_append_cons {word : List Char} {mark : Char} (nonempty : word ≠ [])
    (free : mark ∉ word) (before after : List Char) :
    occursIn word (before ++ mark :: after) = (occursIn word before || occursIn word after) := by
  induction before with
  | nil =>
    have noPrefix := isPrefixOf_append_cons free [] after
    rw [List.nil_append] at noPrefix ⊢
    cases word with
    | nil => contradiction
    | cons =>
      rw [occursIn.eq_2, noPrefix, occursIn.eq_1]
      rfl
  | cons c before ih =>
    have samePrefix := isPrefixOf_append_cons free (c :: before) after
    rw [List.cons_append] at samePrefix ⊢
    rw [occursIn, samePrefix, ih, occursIn, Bool.or_assoc]

theorem occursIn_append_right {word text : List Char} (found : occursIn word text = true)
    (before : List Char) : occursIn word (before ++ text) = true := by
  induction before with
  | nil => exact found
  | cons c before ih => rw [List.cons_append, occursIn, ih, Bool.or_true]

theorem containsAny_append_cons {words : List String} {mark : Char}
    (free : ∀ word ∈ words, word.toList ≠ [] ∧ mark ∉ word.toList) (before after : List Char) :
    containsAny words (before ++ mark :: after) =
      (containsAny words before || containsAny words after) := by
  rw [Bool.eq_iff_iff, Bool.or_eq_true]
  simp only [containsAny, List.any_eq_true]
  have split : ∀ word ∈ words, occursIn word.toList (before ++ mark :: after) = true ↔
      occursIn word.toList before = true ∨ occursIn word.toList after = true := by
    intro word isWord
    rw [occursIn_append_cons (free word isWord).1 (free word isWord).2, Bool.or_eq_true]
  constructor
  · rintro ⟨word, isWord, occurs⟩
    exact ((split word isWord).mp occurs).imp (⟨word, isWord, ·⟩) (⟨word, isWord, ·⟩)
  · rintro (⟨word, isWord, occurs⟩ | ⟨word, isWord, occurs⟩)
    · exact ⟨word, isWord, (split word isWord).mpr (.inl occurs)⟩
    · exact ⟨word, isWord, (split word isWord).mpr (.inr occurs)⟩

def Untouched (before after : List Char) : Prop :=
  before.getLast?.any isIdentifierChar = false ∧ after.head?.any isIdentifierChar = false

/-- The name is a whole identifier in the text, between the two other parts. -/
structure WholeIn (text before name after : List Char) : Prop where
  split : text = before ++ (name ++ after)
  untouched : Untouched before after

theorem occursIn_iff_isInfix {word text : List Char} :
    occursIn word text = true ↔ word <:+: text := by
  induction text with
  | nil => rw [occursIn, List.isEmpty_iff, List.infix_nil]
  | cons c rest ih =>
    rw [occursIn, Bool.or_eq_true, ih, List.infix_cons_iff, List.isPrefixOf_iff_prefix]

variable {left name right : List Char}

theorem surroundedAt_iff (passed : List Char) {text : List Char} :
    surroundedAt left name right passed.getLast? text = true ↔
      ∃ after, text = left ++ (name ++ (right ++ after)) ∧
        Untouched (passed ++ left) (right ++ after) := by
  -- The character in front of the name is the last of `left`, or of what was passed if `left`
  -- is empty.
  have last : (if left.isEmpty then passed.getLast? else left.getLast?) =
      (passed ++ left).getLast? := by
    cases left with
    | nil => simp
    | cons c rest => simp [List.getLast?_append, List.getLast?_cons]
  simp only [surroundedAt, wholeAt, last, Bool.and_eq_true, Bool.not_eq_true',
    List.isPrefixOf_iff_prefix, Untouched]
  constructor
  · rintro ⟨⟨rest, rfl⟩, ⟨⟨startsName, startsRight⟩, free⟩, freeAfter⟩
    rw [List.drop_left] at startsName startsRight freeAfter
    obtain ⟨afterName, rfl⟩ := startsName
    rw [List.drop_left] at startsRight freeAfter
    obtain ⟨after, rfl⟩ := startsRight
    exact ⟨after, rfl, free, freeAfter⟩
  · rintro ⟨after, rfl, free, freeAfter⟩
    simp only [List.drop_left, List.prefix_append, true_and]
    exact ⟨free, freeAfter⟩

theorem occursWholeFrom_iff (passed : List Char) {text : List Char} :
    occursWholeFrom left name right passed.getLast? text = true ↔
      ∃ before after, text = before ++ (left ++ (name ++ (right ++ after))) ∧
        Untouched (passed ++ before ++ left) (right ++ after) := by
  -- `passed` is what the search has gone by; only its last character matters.
  induction text generalizing passed with
  | nil =>
    rw [occursWholeFrom, surroundedAt_iff]
    constructor
    · rintro ⟨after, split, free⟩
      exact ⟨[], after, split, by rwa [List.append_nil]⟩
    · rintro ⟨before, after, split, free⟩
      obtain ⟨rfl, rest⟩ := List.append_eq_nil_iff.mp split.symm
      rw [List.append_nil] at free
      exact ⟨after, rest.symm, free⟩
  | cons c rest ih =>
    have further := ih (passed ++ [c])
    rw [List.getLast?_concat] at further
    rw [occursWholeFrom, Bool.or_eq_true, surroundedAt_iff, further]
    constructor
    · rintro (⟨after, split, free⟩ | ⟨before, after, split, free⟩)
      · exact ⟨[], after, split, by rwa [List.append_nil]⟩
      · refine ⟨c :: before, after, by rw [split, List.cons_append], ?_⟩
        rwa [← List.append_cons] at free
    · rintro ⟨before, after, split, free⟩
      cases before with
      | nil =>
        rw [List.append_nil] at free
        exact .inl ⟨after, split, free⟩
      | cons first before =>
        obtain ⟨rfl, restSplit⟩ := List.cons.inj split
        rw [List.append_cons] at free
        exact .inr ⟨before, after, restSplit, free⟩

/-- A name is found exactly if it stands somewhere as a whole identifier between its surroundings. -/
theorem occursWhole_iff {text : List Char} :
    occursWhole left name right text = true ↔
      ∃ before after, WholeIn text (before ++ left) name (right ++ after) := by
  refine (occursWholeFrom_iff []).trans (exists₂_congr fun before after => ?_)
  rw [← List.append_assoc before]
  exact ⟨fun found => ⟨found.1, found.2⟩, fun whole => ⟨whole.split, whole.untouched⟩⟩

theorem containsAny_of_infix {words : List String} {part whole : List Char}
    (inside : part <:+: whole) (found : containsAny words part = true) :
    containsAny words whole = true := by
  obtain ⟨word, isWord, occurs⟩ := List.any_eq_true.mp found
  refine List.any_eq_true.mpr ⟨word, isWord, ?_⟩
  rw [occursIn_iff_isInfix] at occurs ⊢
  exact occurs.trans inside

end JavaAudit.Text
