import JavaAudit.Text.Character

/-! Reading integers.

A numeral is blanks, an optional sign, the mark of its base where the base has one, digits of any
script with single underscores between them, and blanks. -/

set_option autoImplicit false

namespace JavaAudit.Numeral

open Text

/-- Blanks around a numeral: beyond ASCII every blank, within it not the separator controls. -/
def isMargin (c : Char) : Bool :=
  isBlank c && !(0x1C ≤ c.toNat && c.toNat ≤ 0x1F)

def trimMargin (text : List Char) : List Char :=
  ((text.dropWhile isMargin).reverse.dropWhile isMargin).reverse

def plainDigit (c : Char) : Char :=
  match decimalValue? c with
  | some value => Char.ofNat ('0'.toNat + value)
  | none => c

def plain (text : List Char) : List Char :=
  (trimMargin text).map plainDigit

def digitValue? (c : Char) : Option Nat :=
  match decimalValue? c with
  | some value => some value
  | none =>
    if 'a' ≤ c ∧ c ≤ 'z' then some (c.toNat - 'a'.toNat + 10)
    else if 'A' ≤ c ∧ c ≤ 'Z' then some (c.toNat - 'A'.toNat + 10)
    else none

def digitIn? (base : Nat) (c : Char) : Option Nat :=
  (digitValue? c).filter (· < base)

/-- One digit or more; an underscore may stand between two of them. -/
def digits? (base : Nat) : List Char → Option (List Nat)
  | [] => none
  | [c] => (digitIn? base c).map ([·])
  | c :: '_' :: rest => do
    let first ← digitIn? base c
    let others ← digits? base rest
    some (first :: others)
  | c :: rest => do
    let first ← digitIn? base c
    let others ← digits? base rest
    some (first :: others)

def ofDigits (base : Nat) (digits : List Nat) : Nat :=
  digits.foldl (fun value digit => value * base + digit) 0

def baseMark? : Nat → Option Char
  | 16 => some 'x'
  | 8 => some 'o'
  | 2 => some 'b'
  | _ => none

/-- Drop the mark of the base, and one underscore after it. -/
def dropBaseMark (base : Nat) : List Char → List Char
  | '0' :: mark :: rest =>
    if baseMark? base = some mark.toLower then
      match rest with
      | '_' :: digits => digits
      | digits => digits
    else '0' :: mark :: rest
  | text => text

/-- Longer decimal numerals are refused; the other bases have no limit. -/
def decimalDigitLimit : Nat := 4300

def nat? (base : Nat) (text : List Char) : Option Nat := do
  let digits ← digits? base (dropBaseMark base text)
  if base = 10 ∧ decimalDigitLimit < digits.length then none
  else some (ofDigits base digits)

def signed? (read : List Char → Option Nat) : List Char → Option Int
  | '-' :: rest => (read rest).map fun value => -(value : Int)
  | '+' :: rest => (read rest).map fun value => (value : Int)
  | text => (read text).map fun value => (value : Int)

def int? (base : Nat) (text : List Char) : Option Int :=
  signed? (nat? base) (plain text)

/-- An unsigned numeral that names its base by its mark; a decimal one has no leading zero unless
it is zero. -/
def markedNat? (text : List Char) : Option Nat :=
  match text with
  | '0' :: mark :: _ =>
    match [16, 8, 2].find? (baseMark? · == some mark.toLower) with
    | some base => nat? base text
    | none => (nat? 10 text).filter (· == 0)
  | _ => nat? 10 text

def markedInt? (text : List Char) : Option Int :=
  signed? markedNat? (plain text)

theorem lt_of_digitIn? {base : Nat} {c : Char} {digit : Nat}
    (found : digitIn? base c = some digit) : digit < base := by
  rw [digitIn?, Option.filter_eq_some_iff] at found
  exact of_decide_eq_true found.2

theorem lt_of_mem_digits? {base : Nat} {text : List Char} {digits : List Nat}
    (read : digits? base text = some digits) : ∀ digit ∈ digits, digit < base := by
  fun_induction digits? base text generalizing digits with
  | case1 => cases read
  | case2 c =>
    obtain ⟨digit, found, rfl⟩ := Option.map_eq_some_iff.mp read
    exact List.forall_mem_singleton.mpr (lt_of_digitIn? found)
  | case3 c rest ih | case4 c rest _ _ ih =>
    obtain ⟨first, found, read⟩ := Option.bind_eq_some_iff.mp read
    obtain ⟨others, readOthers, same⟩ := Option.bind_eq_some_iff.mp read
    cases same
    exact List.forall_mem_cons.mpr ⟨lt_of_digitIn? found, ih readOthers⟩

theorem natAbs_of_signed? {read : List Char → Option Nat} {text : List Char} {value : Int}
    (found : signed? read text = some value) : ∃ rest, read rest = some value.natAbs := by
  unfold signed? at found
  split at found
  all_goals
    simp only [Option.map_eq_some_iff, Option.bind_eq_bind, Option.bind_eq_some_iff,
      Option.pure_def, Option.some.injEq] at found
    obtain ⟨_, ⟨magnitude, magnitudeRead, rfl⟩, rfl⟩ := found
    exact ⟨_, by simpa using magnitudeRead⟩

theorem plainDigit_of_none {c : Char} (other : decimalValue? c = none) : plainDigit c = c := by
  rw [plainDigit, other]

@[simp] theorem decimalValue?_plainDigit (c : Char) :
    decimalValue? (plainDigit c) = decimalValue? c := by
  cases found : decimalValue? c with
  | none => rw [plainDigit_of_none found, found]
  | some value =>
    rw [plainDigit, found]
    exact decimalValue?_ofNat value (of_decimalValue? found).1

@[simp] theorem digitIn?_plainDigit (base : Nat) (c : Char) :
    digitIn? base (plainDigit c) = digitIn? base c := by
  cases found : decimalValue? c with
  | none => rw [plainDigit_of_none found]
  | some value =>
    rw [digitIn?, digitIn?, digitValue?, digitValue?, decimalValue?_plainDigit, found]

theorem digitIn?_of_isBlank (base : Nat) {c : Char} (blank : isBlank c = true) :
    digitIn? base c = none := by
  obtain ⟨noDigit, noLetter⟩ := of_isBlank blank
  have notIn (first last : Char) (within : 65 ≤ first.toNat ∧ last.toNat ≤ 122) :
      ¬(first ≤ c ∧ c ≤ last) := by
    intro ⟨atLeast, atMost⟩
    have low : first.toNat ≤ c.toNat := UInt32.le_iff_toNat_le.mp atLeast
    have high : c.toNat ≤ last.toNat := UInt32.le_iff_toNat_le.mp atMost
    omega
  rw [digitIn?, digitValue?, noDigit]
  dsimp only
  rw [if_neg (notIn 'a' 'z' (by decide)), if_neg (notIn 'A' 'Z' (by decide))]
  rfl

theorem digitIn?_zero {base : Nat} {c : Char} (positive : 0 < base)
    (isZero : decimalValue? c = some 0) : digitIn? base c = some 0 := by
  rw [digitIn?, digitValue?, isZero, Option.filter_eq_some_iff, decide_eq_true_eq]
  exact ⟨rfl, positive⟩

theorem plainDigit_eq_iff {c other : Char} (noDigit : decimalValue? other = none) :
    plainDigit c = other ↔ c = other := by
  constructor
  · intro same
    have plain : decimalValue? c = none := by
      rw [← decimalValue?_plainDigit, same, noDigit]
    rw [← same, plainDigit_of_none plain]
  · rintro rfl
    exact plainDigit_of_none noDigit

theorem plainDigit_eq_zero_iff {c : Char} : plainDigit c = '0' ↔ decimalValue? c = some 0 := by
  constructor
  · intro same
    rw [← decimalValue?_plainDigit, same]
    decide
  · intro isZero
    rw [plainDigit, isZero]
    rfl

theorem underscore_notMem_map {text : List Char} (free : '_' ∉ text) :
    '_' ∉ text.map plainDigit := by
  intro member
  obtain ⟨c, isChar, same⟩ := List.mem_map.mp member
  rw [plainDigit_eq_iff (by decide)] at same
  exact free (same ▸ isChar)

theorem eq_or_of_toLower {c lower : Char} (same : c.toLower = lower) :
    c = lower ∨ c = Char.ofNat (lower.toNat - 32) := by
  unfold Char.toLower at same
  split at same
  · next capital =>
    right
    have code : lower.toNat = c.toNat + 32 := by
      have atMost : c.val.toNat ≤ 90 := capital.2
      rw [← same]
      change (c.val + 32).toNat = c.val.toNat + 32
      rw [UInt32.toNat_add]
      change (c.val.toNat + 32) % 2 ^ 32 = c.val.toNat + 32
      omega
    rw [code, Nat.add_sub_cancel, Char.ofNat_toNat]
  · exact .inl same

theorem of_baseMark? {base : Nat} {letter : Char} (marks : baseMark? base = some letter.toLower) :
    decimalValue? letter = none ∧ digitIn? base letter = none ∧ isMargin letter = false := by
  unfold baseMark? at marks
  split at marks
  case h_4 => cases marks
  all_goals
    rcases eq_or_of_toLower (Option.some.inj marks).symm with rfl | rfl <;> decide

theorem dropBaseMark_marked {base : Nat} {letter : Char} {rest : List Char}
    (marks : baseMark? base = some letter.toLower) (free : '_' ∉ rest) :
    dropBaseMark base ('0' :: letter :: rest) = rest := by
  rw [dropBaseMark, if_pos marks]
  rintro digits rfl
  exact free List.mem_cons_self

theorem dropBaseMark_unmarked {base : Nat} {text : List Char}
    (unmarked : ∀ letter rest, text = '0' :: letter :: rest →
      baseMark? base ≠ some letter.toLower) :
    dropBaseMark base text = text := by
  unfold dropBaseMark
  split
  · next letter rest => rw [if_neg (unmarked letter rest rfl)]
  · rfl

theorem signed?_plus (read : List Char → Option Nat) (rest : List Char) :
    signed? read ('+' :: rest) = (read rest).map fun value : Nat => (value : Int) := by
  rw [signed?]
  cases read rest <;> rfl

theorem signed?_minus (read : List Char → Option Nat) (rest : List Char) :
    signed? read ('-' :: rest) = (read rest).map fun value : Nat => -(value : Int) := by
  rw [signed?]
  cases read rest <;> rfl

end JavaAudit.Numeral

namespace JavaAudit.IntLiteral

def bare (text : List Char) : List Char :=
  ((text.filter (· != '_')).reverse.dropWhile fun c => c == 'l' || c == 'L').reverse

/-- The integer that a literal denotes: hexadecimal after `0x`, binary after `0b`, octal after any
other leading zero, and decimal otherwise. -/
def value? (text : String) : Option Int :=
  match bare text.toList with
  | '0' :: mark :: rest =>
    if mark.toLower = 'x' then Numeral.int? 16 rest
    else if mark.toLower = 'b' then Numeral.int? 2 rest
    else Numeral.int? 8 (mark :: rest)
  | digits => Numeral.int? 10 digits

/-- A positive number without a bit in common with its predecessor. -/
def isPowerOfTwo : Int → Bool
  | .ofNat (predecessor + 1) => (predecessor + 1) &&& predecessor == 0
  | _ => false

end JavaAudit.IntLiteral
