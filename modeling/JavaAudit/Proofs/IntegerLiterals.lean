import JavaAudit.Proofs.WrittenNumerals

/-! Integer literals and the texts that are read as such.

A literal is decimal, hexadecimal, octal or binary, with underscores between its digits and one
letter for the longer type. The reader removes all underscores and all such letters at the end, and
leaves the rest to the reader of numerals. Main statements: every literal is read as the number that
its digits denote; the texts that are read are given by a grammar of their own, in which there are
signs, blanks, digits of other scripts and repeated marks, so that more than literals is read. -/

set_option autoImplicit false

namespace JavaAudit.IntLiteral

open Numeral (Written isMargin)

inductive Form where
  | decimal
  | hexadecimal
  | octal
  | binary
  deriving DecidableEq, Repr

def Form.base : Form → Nat
  | .decimal => 10
  | .hexadecimal => 16
  | .octal => 8
  | .binary => 2

structure Digit (base : Nat) (c : Char) (value : Nat) : Prop where
  small : value < base
  written : c.toLower = Nat.digitChar value

def IsGap (text : List Char) : Prop :=
  ∀ c ∈ text, c = '_'

/-- Digits, with any number of underscores between two of them. -/
inductive Grouped (base : Nat) : List Char → List Nat → Prop where
  | last {c : Char} {value : Nat} : Digit base c value → Grouped base [c] [value]
  | next {c : Char} {value : Nat} {gap rest : List Char} {values : List Nat} :
      Digit base c value → IsGap gap → Grouped base rest values →
        Grouped base (c :: (gap ++ rest)) (value :: values)

/-- A decimal numeral starts with a zero only if it is zero; the other forms start with a zero and
what marks them. -/
inductive Spells : Form → List Char → List Nat → Prop where
  | zero : Spells .decimal ['0'] [0]
  | decimal {text : List Char} {first : Nat} {values : List Nat} :
      Grouped 10 text (first :: values) → first ≠ 0 → Spells .decimal text (first :: values)
  | hexadecimal {mark : Char} {text : List Char} {values : List Nat} :
      mark = 'x' ∨ mark = 'X' → Grouped 16 text values →
        Spells .hexadecimal ('0' :: mark :: text) values
  | octal {gap text : List Char} {values : List Nat} :
      IsGap gap → Grouped 8 text values → Spells .octal ('0' :: (gap ++ text)) values
  | binary {mark : Char} {text : List Char} {values : List Nat} :
      mark = 'b' ∨ mark = 'B' → Grouped 2 text values →
        Spells .binary ('0' :: mark :: text) values

inductive Suffix : Bool → List Char → Prop where
  | missing : Suffix false []
  | lower : Suffix true ['l']
  | upper : Suffix true ['L']

/-- An integer literal as the language has it. -/
structure Literal where
  form : Form
  isLong : Bool
  numeral : List Char
  suffix : List Char
  /-- The values of the digits, most significant first. -/
  digits : List Nat
  spells : Spells form numeral digits
  ends : Suffix isLong suffix

namespace Literal

def text (literal : Literal) : List Char :=
  literal.numeral ++ literal.suffix

def value (literal : Literal) : Nat :=
  Nat.ofDigits literal.form.base literal.digits.reverse

end Literal

def IsLiteral (text : List Char) : Prop :=
  ∃ literal : Literal, literal.text = text

/-- What is read once underscores and suffixes are removed: what marks the base may be followed by
anything that is a numeral of that base, with blanks, a sign and a second mark. -/
inductive Stem : List Char → Int → Prop where
  | decimal {text : List Char} {value : Int} :
      Written 10 text value → (∀ c rest, text ≠ '0' :: c :: rest) → Stem text value
  | hexadecimal {mark : Char} {text : List Char} {value : Int} :
      mark = 'x' ∨ mark = 'X' → Written 16 text value → Stem ('0' :: mark :: text) value
  | octal {text : List Char} {value : Int} : Written 8 text value → Stem ('0' :: text) value
  | binary {mark : Char} {text : List Char} {value : Int} :
      mark = 'b' ∨ mark = 'B' → Written 2 text value → Stem ('0' :: mark :: text) value

/-- The text is read as the value: underscores may stand anywhere, and any number of suffixes at
the end. -/
def ReadAs (text : List Char) (value : Int) : Prop :=
  ∃ stem suffix, text.filter (· != '_') = stem ++ suffix ∧ (∀ c ∈ suffix, c = 'l' ∨ c = 'L') ∧
    Stem stem value

theorem underscore_notMem_stem {text stem suffix : List Char}
    (split : text.filter (· != '_') = stem ++ suffix) : '_' ∉ stem := by
  intro member
  have kept : '_' ∈ text.filter (· != '_') := split ▸ List.mem_append_left _ member
  simp at kept

theorem exists_bare (text : List Char) :
    ∃ suffix, text.filter (· != '_') = bare text ++ suffix ∧ ∀ c ∈ suffix, c = 'l' ∨ c = 'L' := by
  obtain ⟨suffix, split, isSuffix⟩ :=
    Numeral.exists_cut (fun c => c == 'l' || c == 'L') (text.filter (· != '_'))
  refine ⟨suffix, split, fun c member => ?_⟩
  simpa using isSuffix c member

theorem bare_eq {text stem suffix : List Char} (split : text.filter (· != '_') = stem ++ suffix)
    (isSuffix : ∀ c ∈ suffix, c = 'l' ∨ c = 'L') (noSuffix : 'l' ∉ stem ∧ 'L' ∉ stem) :
    bare text = stem := by
  rw [bare, split]
  apply Numeral.cut_append
  · intro c member
    rw [Bool.or_eq_false_iff, beq_eq_false_iff_ne, beq_eq_false_iff_ne]
    exact ⟨fun same => noSuffix.1 (same ▸ member), fun same => noSuffix.2 (same ▸ member)⟩
  · intro c member
    simpa using isSuffix c member

theorem Stem.noSuffix {stem : List Char} {value : Int} (read : Stem stem value) :
    'l' ∉ stem ∧ 'L' ∉ stem := by
  have noLetter {base : Nat} {text : List Char} {value : Int} (written : Written base text value)
      (foreign : Numeral.IsForeign base 'l' ∧ Numeral.IsForeign base 'L') :
      'l' ∉ text ∧ 'L' ∉ text :=
    ⟨written.notMem foreign.1, written.notMem foreign.2⟩
  cases read with
  | decimal written => exact noLetter written (by decide)
  | octal written => simp [noLetter written (by decide)]
  | hexadecimal mark written => rcases mark with rfl | rfl <;> simp [noLetter written (by decide)]
  | binary mark written => rcases mark with rfl | rfl <;> simp [noLetter written (by decide)]

theorem stem_of_value? {text : String} {value : Int} (read : value? text = some value) :
    Stem (bare text.toList) value := by
  obtain ⟨suffix, split, _⟩ := exists_bare text.toList
  have free := underscore_notMem_stem split
  -- The reader asks for the letter behind a leading zero: hexadecimal, binary, else octal.
  unfold value? at read
  split at read
  · next mark rest isBare =>
    rw [isBare] at free ⊢
    simp only [List.mem_cons, not_or] at free
    split at read
    · next isHex =>
      refine .hexadecimal ?_ ((Numeral.int?_eq_some_iff free.2.2).mp read)
      exact Numeral.eq_or_of_toLower isHex
    · split at read
      · next isBinary =>
        refine .binary ?_ ((Numeral.int?_eq_some_iff free.2.2).mp read)
        exact Numeral.eq_or_of_toLower isBinary
      · refine .octal ((Numeral.int?_eq_some_iff ?_).mp read)
        simp [free]
  · next notMarked =>
    refine .decimal ((Numeral.int?_eq_some_iff free).mp read) ?_
    intro c rest isBare
    exact notMarked c rest isBare

theorem value?_marked {text : String} {mark : Char} {rest : List Char}
    (isBare : bare text.toList = '0' :: mark :: rest) :
    value? text =
      if mark.toLower = 'x' then Numeral.int? 16 rest
      else if mark.toLower = 'b' then Numeral.int? 2 rest
      else Numeral.int? 8 (mark :: rest) := by
  rw [value?, isBare]
  rfl

theorem value?_of_stem {text : String} {stem : List Char} {value : Int}
    (isBare : bare text.toList = stem) (free : '_' ∉ stem) (read : Stem stem value) :
    value? text = some value := by
  cases read with
  | decimal written notMarked =>
    unfold value?
    split
    · next c rest same => exact absurd (isBare ▸ same) (notMarked c rest)
    · rw [isBare]
      exact (Numeral.int?_eq_some_iff free).mpr written
  | @hexadecimal mark _ _ isMark written =>
    simp only [List.mem_cons, not_or] at free
    have isHex : mark.toLower = 'x' := by rcases isMark with rfl | rfl <;> rfl
    rw [value?_marked isBare, if_pos isHex]
    exact (Numeral.int?_eq_some_iff free.2.2).mpr written
  | @binary mark _ _ isMark written =>
    simp only [List.mem_cons, not_or] at free
    have isBinary : mark.toLower = 'b' := by rcases isMark with rfl | rfl <;> rfl
    rw [value?_marked isBare, isBinary, if_neg (by decide), if_pos rfl]
    exact (Numeral.int?_eq_some_iff free.2.2).mpr written
  | @octal text _ written =>
    cases text with
    | nil => exact absurd rfl written.ne_nil
    | cons first rest =>
      -- What follows the zero starts with a blank, a sign or a digit, never with another mark.
      have noMark (letter : Char) (lower : Numeral.IsForeign 8 letter)
          (upper : Numeral.IsForeign 8 (Char.ofNat (letter.toNat - 32))) :
          first.toLower ≠ letter := by
        intro same
        rcases Numeral.eq_or_of_toLower same with rfl | rfl
        · exact written.notMem lower List.mem_cons_self
        · exact written.notMem upper List.mem_cons_self
      rw [value?_marked isBare, if_neg (noMark 'x' (by decide) (by decide)),
        if_neg (noMark 'b' (by decide) (by decide))]
      apply (Numeral.int?_eq_some_iff _).mpr written
      exact fun member => free (List.mem_cons_of_mem _ member)

/-- The texts that are read, with their values. -/
theorem value?_eq_some_iff {text : String} {value : Int} :
    value? text = some value ↔ ReadAs text.toList value := by
  constructor
  · intro read
    obtain ⟨suffix, split, isSuffix⟩ := exists_bare text.toList
    exact ⟨_, suffix, split, isSuffix, stem_of_value? read⟩
  · rintro ⟨stem, suffix, split, isSuffix, read⟩
    exact value?_of_stem (bare_eq split isSuffix read.noSuffix) (underscore_notMem_stem split) read

theorem Digit.digitIn? {base : Nat} {c : Char} {value : Nat} (digit : Digit base c value)
    (small : base ≤ 16) : Numeral.digitIn? base c = some value := by
  have known : ∀ value < 16, Numeral.digitValue? value.digitChar = some value ∧
      ((Char.ofNat (value.digitChar.toNat - 32)).toLower = value.digitChar →
        Numeral.digitValue? (Char.ofNat (value.digitChar.toNat - 32)) = some value) := by
    decide
  obtain ⟨lower, upper⟩ := known value (digit.small.trans_le small)
  have found : Numeral.digitValue? c = some value := by
    rcases Numeral.eq_or_of_toLower digit.written with same | same
    · rw [same, lower]
    · rw [same]
      exact upper (same ▸ digit.written)
  rw [Numeral.digitIn?, found, Option.filter_some, if_pos (by simpa using digit.small)]

theorem Digit.ne_underscore {base : Nat} {c : Char} {value : Nat} (digit : Digit base c value)
    (small : base ≤ 16) : c ≠ '_' := by
  rintro rfl
  have isDigit := digit.digitIn? small
  have noDigit : Numeral.digitValue? '_' = none := by decide
  rw [Numeral.digitIn?, noDigit] at isDigit
  cases isDigit

theorem IsGap.filter {gap : List Char} (isGap : IsGap gap) : gap.filter (· != '_') = [] := by
  rw [List.filter_eq_nil_iff]
  intro c member
  simp [isGap c member]

theorem Grouped.forall₂ {base : Nat} {text : List Char} {values : List Nat}
    (grouped : Grouped base text values) (small : base ≤ 16) :
    List.Forall₂ (Numeral.IsDigit base) (text.filter (· != '_')) values := by
  induction grouped with
  | last digit =>
    rw [List.filter_cons_of_pos (by simp [digit.ne_underscore small])]
    exact .cons (digit.digitIn? small) .nil
  | next digit isGap _ ih =>
    rw [List.filter_cons_of_pos (by simp [digit.ne_underscore small]), List.filter_append,
      isGap.filter]
    exact .cons (digit.digitIn? small) ih

theorem Grouped.written {base : Nat} {text : List Char} {values : List Nat}
    (grouped : Grouped base text values) (small : base ≤ 16)
    (short : base = 10 → values.length ≤ Numeral.decimalDigitLimit) :
    Written base (text.filter (· != '_')) (Nat.ofDigits base values.reverse : Nat) := by
  have read := grouped.forall₂ small
  have nonempty : text.filter (· != '_') ≠ [] := by
    intro none
    rw [none, List.forall₂_nil_left_iff] at read
    cases grouped <;> cases read
  exact .of_magnitude (.intro .missing nonempty read short)

theorem Spells.stem {form : Form} {text : List Char} {values : List Nat}
    (spells : Spells form text values)
    (short : form = .decimal → values.length ≤ Numeral.decimalDigitLimit) :
    Stem (text.filter (· != '_')) (Nat.ofDigits form.base values.reverse : Nat) := by
  cases spells with
  | zero =>
    have isZero : Numeral.Magnitude 10 ['0'] 0 :=
      @Numeral.Magnitude.intro 10 [] ['0'] [0] .missing (by decide) (.cons rfl .nil) (by decide)
    exact .decimal (.of_magnitude isZero) (by simp)
  | decimal grouped nonzero =>
    have read := grouped.forall₂ (by decide)
    refine .decimal (grouped.written (by decide) fun _ => short rfl) ?_
    -- The first digit is not zero, so the text cannot pass for an octal one.
    intro c rest split
    rw [split] at read
    obtain _ | ⟨isDigit, _⟩ := read
    cases isDigit
    exact nonzero rfl
  | hexadecimal mark grouped =>
    have kept := grouped.written (by decide) (by simp)
    rcases mark with rfl | rfl
    · exact .hexadecimal (.inl rfl) kept
    · exact .hexadecimal (.inr rfl) kept
  | octal isGap grouped =>
    rw [List.filter_cons_of_pos (by decide), List.filter_append, isGap.filter]
    exact .octal (grouped.written (by decide) (by simp))
  | binary mark grouped =>
    have kept := grouped.written (by decide) (by simp)
    rcases mark with rfl | rfl
    · exact .binary (.inl rfl) kept
    · exact .binary (.inr rfl) kept

theorem Suffix.filter {isLong : Bool} {suffix : List Char} (ends : Suffix isLong suffix) :
    suffix.filter (· != '_') = suffix ∧ ∀ c ∈ suffix, c = 'l' ∨ c = 'L' := by
  cases ends <;> simp

theorem Literal.readAs (literal : Literal)
    (short : literal.form = .decimal → literal.digits.length ≤ Numeral.decimalDigitLimit) :
    ReadAs literal.text literal.value := by
  refine ⟨_, literal.suffix, ?_, literal.ends.filter.2, literal.spells.stem short⟩
  rw [text, List.filter_append, literal.ends.filter.1]

/-- Every integer literal is read as the number that its digits denote, whatever its form, its
underscores and its suffix; a decimal one may have no more than 4300 digits. -/
theorem literals_read (literal : Literal)
    (short : literal.form = .decimal → literal.digits.length ≤ 4300) :
    value? (String.ofList literal.text) = some (literal.value : Int) := by
  rw [value?_eq_some_iff, String.toList_ofList]
  exact literal.readAs short

def tenWithGap : Literal where
  form := .decimal
  isLong := true
  numeral := ['1', '_', '_', '0']
  suffix := ['l']
  digits := [1, 0]
  spells := .decimal (@Grouped.next 10 '1' 1 ['_', '_'] ['0'] [0] ⟨by decide, rfl⟩
    (by simp [IsGap]) (.last ⟨by decide, rfl⟩)) (by decide)
  ends := .lower

/-- The literal `0X0_b1`, with what marks a binary numeral among its digits. -/
def markAmongDigits : Literal where
  form := .hexadecimal
  isLong := false
  numeral := ['0', 'X', '0', '_', 'b', '1']
  suffix := []
  digits := [0, 11, 1]
  spells := .hexadecimal (.inr rfl)
    (@Grouped.next 16 '0' 0 ['_'] ['b', '1'] [11, 1] ⟨by decide, rfl⟩ (by simp [IsGap])
      (@Grouped.next 16 'b' 11 [] ['1'] [1] ⟨by decide, rfl⟩ (by simp [IsGap])
        (.last ⟨by decide, rfl⟩)))
  ends := .missing

theorem literals_with_gaps_read : value? "1__0l" = some 10 ∧ value? "0X0_b1" = some 177 :=
  ⟨literals_read tenWithGap (by decide), literals_read markAmongDigits (by decide)⟩

theorem Spells.exists_first {form : Form} {text : List Char} {values : List Nat}
    (spells : Spells form text values) : ∃ c rest value, text = c :: rest ∧ Digit 10 c value := by
  have isZero : Digit 10 '0' 0 := ⟨by decide, rfl⟩
  cases spells with
  | decimal grouped =>
    cases grouped with
    | last digit => exact ⟨_, _, _, rfl, digit⟩
    | next digit => exact ⟨_, _, _, rfl, digit⟩
  | _ => exact ⟨_, _, _, rfl, isZero⟩

theorem not_isLiteral {c : Char} {rest : List Char}
    (other : ∀ value < 10, c.toLower ≠ value.digitChar) : ¬IsLiteral (c :: rest) := by
  rintro ⟨literal, same⟩
  obtain ⟨first, tail, value, split, digit⟩ := literal.spells.exists_first
  rw [Literal.text, split, List.cons_append, List.cons.injEq] at same
  exact other value digit.small (same.1 ▸ digit.written)

/-- What marks the base stands twice in front of the digits. -/
inductive MarkedTwice : List Char → Prop where
  | hexadecimal {mark again : Char} {rest : List Char} :
      mark.toLower = 'x' → again.toLower = 'x' → MarkedTwice ('0' :: mark :: '0' :: again :: rest)
  | octal {again : Char} {rest : List Char} :
      again.toLower = 'o' → MarkedTwice ('0' :: '0' :: again :: rest)
  | binary {mark again : Char} {rest : List Char} :
      mark.toLower = 'b' → again.toLower = 'b' → MarkedTwice ('0' :: mark :: '0' :: again :: rest)

theorem of_isAlphanum {c : Char} (plain : c.isAlphanum = true) :
    48 ≤ c.toNat ∧ c.toNat ≤ 122 := by
  have range {first last : UInt32} (inside : c.val ≥ first ∧ c.val ≤ last) :
      first.toNat ≤ c.toNat ∧ c.toNat ≤ last.toNat :=
    ⟨UInt32.le_iff_toNat_le.mp inside.1, UInt32.le_iff_toNat_le.mp inside.2⟩
  rcases Bool.or_eq_true_iff.mp plain with letter | digit
  · rcases Bool.or_eq_true_iff.mp letter with upper | lower
    · have within : 65 ≤ c.toNat ∧ c.toNat ≤ 90 := range (of_decide_eq_true upper)
      omega
    · have bounds := Bool.and_eq_true_iff.mp lower
      have within : 97 ≤ c.toNat ∧ c.toNat ≤ 122 :=
        range (bounds.imp of_decide_eq_true of_decide_eq_true)
      omega
  · have bounds := Bool.and_eq_true_iff.mp digit
    have within : 48 ≤ c.toNat ∧ c.toNat ≤ 57 :=
      range (bounds.imp of_decide_eq_true of_decide_eq_true)
    omega

theorem eq_ofNat_of_decimalValue? {c : Char} {value : Nat} (plain : c.isAlphanum = true)
    (found : Text.decimalValue? c = some value) : c = Char.ofNat (48 + value) := by
  obtain ⟨_, origin, member, place⟩ := Text.of_decimalValue? found
  have ascii : ∀ origin ∈ Text.decimalZeros, origin ≤ 122 → origin = 48 := by decide
  have isAscii : origin = 48 := by
    apply ascii origin member
    have atMost := (of_isAlphanum plain).2
    omega
  rw [← isAscii, ← place, Char.ofNat_toNat]

theorem digit_of_isDigit {base : Nat} {c : Char} {value : Nat} (small : base ≤ 16)
    (plain : c.isAlphanum = true) (isDigit : Numeral.IsDigit base c value) :
    Digit base c value := by
  obtain ⟨found, isSmall⟩ := Option.filter_eq_some_iff.mp isDigit
  rw [decide_eq_true_eq] at isSmall
  refine ⟨isSmall, ?_⟩
  unfold Numeral.digitValue? at found
  cases decimal : Text.decimalValue? c with
  | some digit =>
    rw [decimal] at found
    cases found
    have written : ∀ value < 10, (Char.ofNat (48 + value)).toLower = value.digitChar := by decide
    rw [eq_ofNat_of_decimalValue? plain decimal]
    exact written value (Text.of_decimalValue? decimal).1
  | none =>
    rw [decimal] at found
    dsimp only at found
    -- The letters from ten on stand at a fixed distance from their values, one for each case.
    have written : ∀ value < 16, 10 ≤ value →
        (Char.ofNat (value + 87)).toLower = value.digitChar ∧
          (Char.ofNat (value + 55)).toLower = value.digitChar := by
      decide
    have code (distance : Nat) (place : c.toNat = value + distance) :
        c = Char.ofNat (value + distance) := by
      rw [← place, Char.ofNat_toNat]
    split at found
    · next lower =>
      have atLeast : 97 ≤ c.toNat := UInt32.le_iff_toNat_le.mp lower.1
      have place : c.toNat - 97 + 10 = value := Option.some.inj found
      rw [code 87 (by omega)]
      exact (written value (by omega) (by omega)).1
    · split at found
      · next upper =>
        have atLeast : 65 ≤ c.toNat := UInt32.le_iff_toNat_le.mp upper.1
        have place : c.toNat - 65 + 10 = value := Option.some.inj found
        rw [code 55 (by omega)]
        exact (written value (by omega) (by omega)).2
      · cases found

theorem grouped_of_forall₂ {base : Nat} {text : List Char} {values : List Nat} (small : base ≤ 16)
    (nonempty : text ≠ []) (plain : ∀ c ∈ text, c.isAlphanum = true)
    (read : List.Forall₂ (Numeral.IsDigit base) text values) : Grouped base text values := by
  induction read with
  | nil => exact absurd rfl nonempty
  | @cons c value rest values isDigit others ih =>
    rw [List.forall_mem_cons] at plain
    have digit := digit_of_isDigit small plain.1 isDigit
    cases rest with
    | nil =>
      cases others
      exact .last digit
    | cons following more =>
      have noGap : IsGap [] := by simp [IsGap]
      exact @Grouped.next base c value [] _ _ digit noGap (ih (by simp) plain.2)

/-- Without blanks, a sign and digits of other scripts, a numeral is digits after a mark. -/
theorem exists_grouped {base : Nat} {text : List Char} {value : Int} (small : base ≤ 16)
    (plain : ∀ c ∈ text, c.isAlphanum = true) (written : Written base text value) :
    (∃ values, Grouped base text values) ∨
      ∃ again rest, text = '0' :: again :: rest ∧ Numeral.baseMark? base = some again.toLower := by
  obtain ⟨isBefore, isSign, ⟨marks, nonempty, read, _⟩, isAfter⟩ := written
  simp only [List.forall_mem_append] at plain
  obtain ⟨⟨plainBefore, plainSign, plainMark, plainDigits⟩, plainAfter⟩ := plain
  have noBlank {blanks : List Char} (areBlanks : ∀ c ∈ blanks, isMargin c = true)
      (plain : ∀ c ∈ blanks, c.isAlphanum = true) : blanks = [] := by
    refine List.eq_nil_iff_forall_not_mem.mpr fun c member => ?_
    have blank := (Bool.and_eq_true_iff.mp (areBlanks c member)).1
    have range := of_isAlphanum (plain c member)
    have outside := (Text.of_isBlank blank).2
    omega
  rw [noBlank isBefore plainBefore, noBlank isAfter plainAfter, List.nil_append, List.append_nil]
  cases isSign with
  | plus => exact absurd (plainSign '+' List.mem_cons_self) (by decide)
  | minus => exact absurd (plainSign '-' List.mem_cons_self) (by decide)
  | missing =>
    cases marks with
    | missing => exact .inl ⟨_, grouped_of_forall₂ small nonempty plainDigits read⟩
    | given isZero letter =>
      have isPlain := plainMark _ List.mem_cons_self
      -- The reader takes a second mark for the one that it expects.
      rw [eq_ofNat_of_decimalValue? isPlain isZero]
      exact .inr ⟨_, _, rfl, letter⟩

theorem Digit.eq_zero {c : Char} (plain : c.isAlphanum = true) (digit : Digit 10 c 0) :
    c = '0' := by
  rcases Numeral.eq_or_of_toLower digit.written with rfl | rfl
  · rfl
  · exact absurd plain (by decide)

/-- Decimal digits are a numeral unless a zero stands before others. -/
theorem Grouped.spells {text : List Char} {values : List Nat} (grouped : Grouped 10 text values)
    (plain : ∀ c ∈ text, c.isAlphanum = true) (notMarked : ∀ c rest, text ≠ '0' :: c :: rest) :
    Spells .decimal text values := by
  cases values with
  | nil => cases grouped
  | cons first values =>
    by_cases isZero : first = 0
    · subst isZero
      cases grouped with
      | last digit =>
        rw [digit.eq_zero (plain _ List.mem_cons_self)]
        exact .zero
      | @next _ _ gap rest _ digit _ others =>
        rw [digit.eq_zero (plain _ List.mem_cons_self)] at notMarked
        -- Digits follow the zero, so the text starts like a marked one.
        have more : gap ++ rest ≠ [] := by
          cases others <;> simp
        obtain ⟨following, tail, split⟩ := List.exists_cons_of_ne_nil more
        exact absurd (congrArg _ split) (notMarked following tail)
    · exact .decimal grouped isZero

theorem Stem.exists_spells {stem : List Char} {value : Int} (read : Stem stem value)
    (plain : ∀ c ∈ stem, c.isAlphanum = true) (once : ¬MarkedTwice stem) :
    ∃ form values, Spells form stem values := by
  -- In each form, what the reader of numerals takes for digits is digits, or starts with the
  -- mark once more.
  cases read with
  | decimal written notMarked =>
    rcases exists_grouped (by decide) plain written with ⟨values, grouped⟩ | ⟨again, rest, rfl, _⟩
    · exact ⟨_, _, grouped.spells plain notMarked⟩
    · exact absurd rfl (notMarked again rest)
  | hexadecimal isMark written =>
    simp only [List.forall_mem_cons] at plain
    rcases exists_grouped (by decide) plain.2.2 written with
      ⟨values, grouped⟩ | ⟨again, rest, rfl, isAgain⟩
    · exact ⟨_, _, .hexadecimal isMark grouped⟩
    · refine absurd (.hexadecimal ?_ (Option.some.inj isAgain).symm) once
      rcases isMark with rfl | rfl <;> rfl
  | octal written =>
    simp only [List.forall_mem_cons] at plain
    rcases exists_grouped (by decide) plain.2 written with
      ⟨values, grouped⟩ | ⟨again, rest, rfl, isAgain⟩
    · have noGap : IsGap [] := by simp [IsGap]
      exact ⟨_, _, @Spells.octal [] _ _ noGap grouped⟩
    · exact absurd (.octal (Option.some.inj isAgain).symm) once
  | binary isMark written =>
    simp only [List.forall_mem_cons] at plain
    rcases exists_grouped (by decide) plain.2.2 written with
      ⟨values, grouped⟩ | ⟨again, rest, rfl, isAgain⟩
    · exact ⟨_, _, .binary isMark grouped⟩
    · refine absurd (.binary ?_ (Option.some.inj isAgain).symm) once
      rcases isMark with rfl | rfl <;> rfl

theorem MarkedTwice.append {text : List Char} (twice : MarkedTwice text) (rest : List Char) :
    MarkedTwice (text ++ rest) := by
  cases twice with
  | hexadecimal mark again => exact .hexadecimal mark again
  | octal again => exact .octal again
  | binary mark again => exact .binary mark again

theorem exists_suffix {suffix : List Char} (isSuffix : ∀ c ∈ suffix, c = 'l' ∨ c = 'L')
    (single : suffix.length ≤ 1) : ∃ isLong, Suffix isLong suffix := by
  cases suffix with
  | nil => exact ⟨false, .missing⟩
  | cons c rest =>
    have noMore : rest = [] := List.length_eq_zero_iff.mp (by simpa using single)
    subst noMore
    rcases isSuffix c List.mem_cons_self with rfl | rfl
    · exact ⟨true, .lower⟩
    · exact ⟨true, .upper⟩

/-- A plain text that is read is a literal, unless a mark or a suffix is repeated. -/
theorem ReadAs.isLiteral {text : List Char} {value : Int} (read : ReadAs text value)
    (plain : ∀ c ∈ text, c.isAlphanum = true)
    (single : text.countP (fun c => c == 'l' || c == 'L') ≤ 1) (once : ¬MarkedTwice text) :
    IsLiteral text := by
  obtain ⟨stem, suffix, split, isSuffix, isStem⟩ := read
  have noUnderscore : text.filter (· != '_') = text := by
    refine List.filter_eq_self.mpr fun c member => ?_
    rw [bne_iff_ne]
    rintro rfl
    exact absurd (plain _ member) (by decide)
  rw [noUnderscore] at split
  subst split
  -- All that is cut off are suffix letters, so there is one of them at most.
  have all : suffix.countP (fun c => c == 'l' || c == 'L') = suffix.length := by
    rw [List.countP_eq_length]
    intro c member
    simpa using isSuffix c member
  rw [List.countP_append, all] at single
  obtain ⟨isLong, ends⟩ := exists_suffix isSuffix (by omega)
  obtain ⟨form, values, spells⟩ := isStem.exists_spells
    (fun c member => plain c (List.mem_append_left _ member)) (fun twice => once (twice.append _))
  exact ⟨⟨form, isLong, stem, suffix, values, spells, ends⟩, rfl⟩

/-- The texts that are read: underscores anywhere, suffixes in any number, and between them what
a numeral of the base may be. So a text that is no literal is refused exactly if it is not such a
text; in particular if it has only ASCII letters and digits, no more than one suffix letter, and no
second mark of its base. -/
theorem texts_refused_iff (text : String) :
    (∀ value, value? text = some value ↔ ReadAs text.toList value) ∧
      ((¬IsLiteral text.toList → value? text = none) ↔
        IsLiteral text.toList ∨ ¬∃ value, ReadAs text.toList value) ∧
      ((∀ c ∈ text.toList, c.isAlphanum = true) →
        text.toList.countP (fun c => c == 'l' || c == 'L') ≤ 1 → ¬MarkedTwice text.toList →
        ¬IsLiteral text.toList → value? text = none) := by
  have refused : value? text = none ↔ ¬∃ value, ReadAs text.toList value := by
    simp only [Option.eq_none_iff_forall_ne_some, ne_eq, value?_eq_some_iff, not_exists]
  refine ⟨fun value => value?_eq_some_iff, ?_, ?_⟩
  · rw [refused, or_iff_not_imp_left]
  · intro plain single once noLiteral
    rw [refused]
    rintro ⟨value, read⟩
    exact noLiteral (read.isLiteral plain single once)

theorem unmarked_digits_refused : ¬IsLiteral "beefL".toList ∧ value? "beefL" = none := by
  -- Hexadecimal digits without the mark of their base are refused.
  have noLiteral : ¬IsLiteral "beefL".toList := not_isLiteral (by decide)
  have plain : ∀ c ∈ "beefL".toList, c.isAlphanum = true := List.all_eq_true.mp (by decide)
  refine ⟨noLiteral, (texts_refused_iff "beefL").2.2 plain (by decide) ?_ noLiteral⟩
  nofun

/-- A number with a sign is no literal and is read. -/
theorem signed_number_read : ¬IsLiteral "+4".toList ∧ value? "+4" = some 4 :=
  ⟨not_isLiteral (by decide), by decide⟩

end JavaAudit.IntLiteral
