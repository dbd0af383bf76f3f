import Mathlib.Data.List.Forall2
import Mathlib.Data.List.Induction
import Mathlib.Data.List.TakeWhile
import Mathlib.Data.Nat.Digits.Defs
import JavaAudit.Numeral.Integer

/-! The texts that are read as integers.

Blanks are trimmed, the digits of all scripts are made one, the sign and the mark of the base are
cut off, and the rest is read digit by digit. Main statement: a text without underscores is read as
an integer exactly if it is written as blanks, a sign, a mark, digits and blanks, of which only the
digits cannot be missing. -/

set_option autoImplicit false

namespace JavaAudit

namespace Numeral

open Text

def IsDigit (base : Nat) (c : Char) (value : Nat) : Prop :=
  digitIn? base c = some value

theorem digits?_eq_some_iff {base : Nat} {text : List Char} {values : List Nat}
    (free : '_' ∉ text) :
    digits? base text = some values ↔ text ≠ [] ∧ List.Forall₂ (IsDigit base) text values := by
  fun_induction digits? base text generalizing values with
  | case1 => simp
  | case2 c =>
    rw [Option.map_eq_some_iff]
    constructor
    · rintro ⟨value, found, rfl⟩
      exact ⟨List.cons_ne_nil _ _, .cons found .nil⟩
    · rintro ⟨_, _ | ⟨found, ⟨⟩⟩⟩
      exact ⟨_, found, rfl⟩
  | case3 c rest =>
    -- A gap, which is excluded.
    simp at free
  | case4 c rest more _ ih =>
    have restFree : '_' ∉ rest := fun member => free (List.mem_cons_of_mem _ member)
    simp only [Option.bind_eq_bind, Option.bind_eq_some_iff, Option.some.injEq, ih restFree]
    constructor
    · rintro ⟨value, found, others, ⟨_, read⟩, rfl⟩
      exact ⟨List.cons_ne_nil _ _, .cons found read⟩
    · rintro ⟨_, _ | ⟨found, read⟩⟩
      exact ⟨_, found, _, ⟨fun none => more none, read⟩, rfl⟩

theorem ofDigits_eq (base : Nat) (values : List Nat) :
    ofDigits base values = Nat.ofDigits base values.reverse := by
  -- The least digit is taken in last, so the induction goes from the end.
  induction values using List.reverseRecOn with
  | nil => rfl
  | append_singleton values value ih =>
    rw [ofDigits, List.foldl_append, List.reverse_append]
    change ofDigits base values * base + value = Nat.ofDigits base (value :: values.reverse)
    rw [ih, Nat.ofDigits_cons, Nat.mul_comm, Nat.add_comm]

/-- The mark of a base as it may stand before digits: a zero of any script and the letter. -/
inductive BaseMark (base : Nat) : List Char → Prop where
  | missing : BaseMark base []
  | given {origin letter : Char} :
      decimalValue? origin = some 0 → baseMark? base = some letter.toLower →
        BaseMark base [origin, letter]

inductive Sign : List Char → Int → Prop where
  | missing : Sign [] 1
  | plus : Sign ['+'] 1
  | minus : Sign ['-'] (-1)

theorem exists_baseMark (base : Nat) {text : List Char} (free : '_' ∉ text) :
    ∃ mark digits, text = mark ++ digits ∧ BaseMark base mark ∧
      dropBaseMark base (text.map plainDigit) = digits.map plainDigit := by
  by_cases marked : ∃ letter rest, text.map plainDigit = '0' :: letter :: rest ∧
      baseMark? base = some letter.toLower
  · obtain ⟨letter, rest, split, marks⟩ := marked
    have free := underscore_notMem_map free
    obtain ⟨origin, tail, rfl, isZero, split⟩ := List.map_eq_cons_iff.mp split
    obtain ⟨own, digits, rfl, isLetter, rfl⟩ := List.map_eq_cons_iff.mp split
    rw [plainDigit_eq_zero_iff] at isZero
    rw [plainDigit_eq_iff (of_baseMark? marks).1] at isLetter
    subst isLetter
    refine ⟨[origin, own], digits, rfl, .given isZero marks, ?_⟩
    rw [List.map_cons, List.map_cons, plainDigit_eq_zero_iff.mpr isZero,
      plainDigit_of_none (of_baseMark? marks).1]
    apply dropBaseMark_marked marks
    simp only [List.map_cons, List.mem_cons, not_or] at free
    exact free.2.2
  · -- A zero with another letter stays, and so does every other text.
    refine ⟨[], text, rfl, .missing, dropBaseMark_unmarked ?_⟩
    intro letter rest split marks
    exact marked ⟨letter, rest, split, marks⟩

/-- A mark is cut off before digits, and only a mark. -/
theorem dropBaseMark_append {base : Nat} {mark digits : List Char} {values : List Nat}
    (marks : BaseMark base mark) (read : List.Forall₂ (IsDigit base) digits values)
    (free : '_' ∉ digits) :
    dropBaseMark base ((mark ++ digits).map plainDigit) = digits.map plainDigit := by
  cases marks with
  | given isZero letter =>
    rw [List.cons_append, List.cons_append, List.nil_append, List.map_cons, List.map_cons,
      plainDigit_eq_zero_iff.mpr isZero, plainDigit_of_none (of_baseMark? letter).1]
    exact dropBaseMark_marked letter (underscore_notMem_map free)
  | missing =>
    -- The second character is a digit of the base, and the mark is none.
    apply dropBaseMark_unmarked
    intro letter rest split marks
    obtain ⟨first, tail, rfl, _, split⟩ := List.map_eq_cons_iff.mp split
    obtain ⟨own, others, rfl, rfl, _⟩ := List.map_eq_cons_iff.mp split
    obtain _ | ⟨_, _ | ⟨isDigit, _⟩⟩ := read
    have noDigit := (of_baseMark? marks).2.1
    rw [digitIn?_plainDigit, isDigit] at noDigit
    cases noDigit

/-- A number without sign and blanks. -/
inductive Magnitude (base : Nat) : List Char → Nat → Prop where
  | intro {mark digits : List Char} {values : List Nat} :
      BaseMark base mark → digits ≠ [] → List.Forall₂ (IsDigit base) digits values →
        (base = 10 → values.length ≤ decimalDigitLimit) →
        Magnitude base (mark ++ digits) (Nat.ofDigits base values.reverse)

theorem isDigit_map_iff {base : Nat} {text : List Char} {values : List Nat} :
    List.Forall₂ (IsDigit base) (text.map plainDigit) values ↔
      List.Forall₂ (IsDigit base) text values := by
  simp only [List.forall₂_map_left_iff, IsDigit, digitIn?_plainDigit]
  rfl

theorem nat?_eq_some_iff {base : Nat} {text : List Char} {magnitude : Nat} (free : '_' ∉ text) :
    nat? base (text.map plainDigit) = some magnitude ↔ Magnitude base text magnitude := by
  simp only [nat?, Option.bind_eq_bind, Option.bind_eq_some_iff, Option.ite_none_left_eq_some,
    Option.some.injEq]
  constructor
  · rintro ⟨values, read, short, rfl⟩
    obtain ⟨mark, digits, rfl, marks, dropped⟩ := exists_baseMark base free
    rw [List.mem_append, not_or] at free
    rw [dropped, digits?_eq_some_iff (underscore_notMem_map free.2), isDigit_map_iff, ne_eq,
      List.map_eq_nil_iff] at read
    rw [ofDigits_eq]
    -- Only decimal digits have a limit on their number.
    refine .intro marks read.1 read.2 fun decimal => ?_
    exact Nat.not_lt.mp fun long => short ⟨decimal, long⟩
  · rintro ⟨marks, nonempty, read, short⟩
    rw [List.mem_append, not_or] at free
    refine ⟨_, ?_, fun long => ?_, ofDigits_eq _ _⟩
    · rw [dropBaseMark_append marks read free.2,
        digits?_eq_some_iff (underscore_notMem_map free.2), isDigit_map_iff, ne_eq,
        List.map_eq_nil_iff]
      exact ⟨nonempty, read⟩
    · exact absurd long.2 (Nat.not_lt.mpr (short long.1))

/-- Blanks, a sign, a number and blanks. -/
inductive Written (base : Nat) : List Char → Int → Prop where
  | intro {before sign text after : List Char} {factor : Int} {magnitude : Nat} :
      (∀ c ∈ before, isMargin c = true) → Sign sign factor → Magnitude base text magnitude →
        (∀ c ∈ after, isMargin c = true) →
        Written base (before ++ (sign ++ text) ++ after) (factor * magnitude)

def IsInner (base : Nat) (c : Char) : Prop :=
  baseMark? base = some c.toLower ∨ ∃ value, IsDigit base c value

theorem isInner_of_forall₂ {base : Nat} {text : List Char} {values : List Nat}
    (read : List.Forall₂ (IsDigit base) text values) : ∀ c ∈ text, IsInner base c := by
  induction read with
  | nil => simp
  | cons isDigit _ ih => exact List.forall_mem_cons.mpr ⟨.inr ⟨_, isDigit⟩, ih⟩

theorem Magnitude.isInner {base : Nat} {text : List Char} {magnitude : Nat}
    (number : Magnitude base text magnitude) : ∀ c ∈ text, IsInner base c := by
  obtain ⟨marks, _, read, _⟩ := number
  refine List.forall_mem_append.mpr ⟨?_, isInner_of_forall₂ read⟩
  cases marks with
  | missing => simp
  | @given origin letter isZero marks =>
    have positive : 0 < base := by
      apply Nat.pos_of_ne_zero
      rintro rfl
      cases marks
    intro c member
    rcases List.mem_pair.mp member with rfl | rfl
    · exact .inr ⟨0, digitIn?_zero positive isZero⟩
    · exact .inl marks

theorem not_isMargin_of_isInner {base : Nat} {c : Char} (inner : IsInner base c) :
    isMargin c = false := by
  rcases inner with marks | ⟨value, isDigit⟩
  · exact (of_baseMark? marks).2.2
  · refine Bool.eq_false_iff.mpr fun margin => ?_
    have blank := (Bool.and_eq_true_iff.mp margin).1
    rw [IsDigit, digitIn?_of_isBlank base blank] at isDigit
    cases isDigit

theorem Sign.not_isMargin {sign : List Char} {factor : Int} (isSign : Sign sign factor) :
    ∀ c ∈ sign, isMargin c = false := by
  cases isSign with
  | missing => exact List.forall_mem_nil _
  | plus => exact List.forall_mem_singleton.mpr (by decide)
  | minus => exact List.forall_mem_singleton.mpr (by decide)

theorem exists_cut (p : Char → Bool) (text : List Char) :
    ∃ cut, text = (text.reverse.dropWhile p).reverse ++ cut ∧ ∀ c ∈ cut, p c = true := by
  refine ⟨(text.reverse.takeWhile p).reverse, ?_, ?_⟩
  · rw [← List.reverse_append, List.takeWhile_append_dropWhile, List.reverse_reverse]
  · intro c member
    exact List.mem_takeWhile_imp (List.mem_reverse.mp member)

theorem cut_append {p : Char → Bool} {text cut : List Char} (kept : ∀ c ∈ text, p c = false)
    (isCut : ∀ c ∈ cut, p c = true) : ((text ++ cut).reverse.dropWhile p).reverse = text := by
  rw [List.reverse_append, List.dropWhile_append_of_pos fun c member =>
    isCut c (List.mem_reverse.mp member)]
  -- Seen from the end, the first character of the text already stops the cut.
  cases reversed : text.reverse with
  | nil => rw [List.dropWhile_nil, ← reversed, List.reverse_reverse]
  | cons c rest =>
    have isKept : p c = false := kept c (List.mem_reverse.mp (reversed ▸ List.mem_cons_self))
    rw [List.dropWhile_cons, if_neg (by simp [isKept]), ← reversed, List.reverse_reverse]

theorem exists_margins (text : List Char) :
    ∃ before after, text = before ++ trimMargin text ++ after ∧
      (∀ c ∈ before, isMargin c = true) ∧ ∀ c ∈ after, isMargin c = true := by
  obtain ⟨after, trimmed, isAfter⟩ := exists_cut isMargin (text.dropWhile isMargin)
  refine ⟨text.takeWhile isMargin, after, ?_, ?_, isAfter⟩
  · rw [List.append_assoc, trimMargin, ← trimmed, List.takeWhile_append_dropWhile]
  · intro c member
    exact List.mem_takeWhile_imp member

theorem trimMargin_append {before inner after : List Char}
    (isBefore : ∀ c ∈ before, isMargin c = true) (isAfter : ∀ c ∈ after, isMargin c = true)
    (isInner : ∀ c ∈ inner, isMargin c = false) :
    trimMargin (before ++ inner ++ after) = inner := by
  rw [trimMargin, List.append_assoc, List.dropWhile_append_of_pos isBefore]
  cases inner with
  | nil =>
    rw [List.nil_append, List.dropWhile_eq_nil_iff.mpr isAfter]
    rfl
  | cons c rest =>
    rw [List.cons_append, List.dropWhile_cons, if_neg (by simp [isInner c]), ← List.cons_append]
    exact cut_append isInner isAfter

def Unsigned (text : List Char) : Prop :=
  ∀ c rest, text = c :: rest → c ≠ '-' ∧ c ≠ '+'

theorem Unsigned.map {text : List Char} (unsigned : Unsigned text) :
    Unsigned (text.map plainDigit) := by
  intro c rest split
  obtain ⟨first, tail, rfl, rfl, _⟩ := List.map_eq_cons_iff.mp split
  rw [ne_eq, ne_eq, plainDigit_eq_iff (by decide), plainDigit_eq_iff (by decide)]
  exact unsigned first tail rfl

theorem exists_sign (text : List Char) :
    ∃ sign rest factor, text = sign ++ rest ∧ Sign sign factor ∧ (sign = [] → Unsigned rest) := by
  -- Whether there is a sign is decided by the first character.
  by_cases unsigned : Unsigned text
  · exact ⟨[], text, 1, rfl, .missing, fun _ => unsigned⟩
  · simp only [Unsigned, not_forall] at unsigned
    obtain ⟨c, rest, rfl, isSign⟩ := unsigned
    rcases Decidable.not_and_iff_not_or_not.mp isSign with minus | plus
    · rw [Decidable.not_not.mp minus]
      exact ⟨['-'], rest, -1, rfl, .minus, nofun⟩
    · rw [Decidable.not_not.mp plus]
      exact ⟨['+'], rest, 1, rfl, .plus, nofun⟩

section
variable (read : List Char → Option Nat) {text : List Char}

theorem signed?_unsigned (unsigned : Unsigned text) :
    signed? read text = (read text).map fun value : Nat => (value : Int) := by
  unfold signed?
  split
  · next rest => exact absurd rfl (unsigned '-' rest rfl).1
  · next rest => exact absurd rfl (unsigned '+' rest rfl).2
  · cases read text <;> rfl

theorem signed?_append {sign : List Char} {factor : Int} (isSign : Sign sign factor)
    (start : sign = [] → Unsigned text) :
    signed? read ((sign ++ text).map plainDigit) =
      (read (text.map plainDigit)).map fun value : Nat => factor * (value : Int) := by
  cases isSign with
  | missing =>
    simp only [one_mul]
    exact signed?_unsigned read (start rfl).map
  | plus =>
    simp only [one_mul]
    rw [List.singleton_append, List.map_cons, plainDigit_of_none (by decide), signed?_plus]
  | minus =>
    simp only [neg_one_mul]
    rw [List.singleton_append, List.map_cons, plainDigit_of_none (by decide), signed?_minus]

end

theorem Magnitude.unsigned {base : Nat} {text : List Char} {magnitude : Nat}
    (number : Magnitude base text magnitude) : Unsigned text := by
  rintro c rest rfl
  have inner := number.isInner c List.mem_cons_self
  -- A number starts with a digit or with the letter of a mark, and neither is a sign.
  have notSign (sign : Char) (noMark : sign.toLower ∉ ['x', 'o', 'b'])
      (noDigit : digitValue? sign = none) : c ≠ sign := by
    rintro rfl
    rcases inner with marks | ⟨value, isDigit⟩
    · apply noMark
      unfold baseMark? at marks
      split at marks
      case h_4 => cases marks
      all_goals
        rw [← Option.some.inj marks]
        decide
    · rw [IsDigit, digitIn?, noDigit] at isDigit
      cases isDigit
  exact ⟨notSign '-' (by decide) (by decide), notSign '+' (by decide) (by decide)⟩

/-- A sign is read off a number, if there is one. -/
theorem signed?_eq_some_iff {base : Nat} {inner : List Char} {value : Int} (free : '_' ∉ inner) :
    signed? (nat? base) (inner.map plainDigit) = some value ↔
      ∃ sign text factor magnitude, inner = sign ++ text ∧ Sign sign factor ∧
        Magnitude base text magnitude ∧ value = factor * magnitude := by
  constructor
  · intro read
    obtain ⟨sign, text, factor, rfl, isSign, start⟩ := exists_sign inner
    rw [List.mem_append, not_or] at free
    rw [signed?_append _ isSign start, Option.map_eq_some_iff] at read
    obtain ⟨magnitude, number, rfl⟩ := read
    exact ⟨sign, text, factor, magnitude, rfl, isSign, (nat?_eq_some_iff free.2).mp number, rfl⟩
  · rintro ⟨sign, text, factor, magnitude, rfl, isSign, number, rfl⟩
    rw [List.mem_append, not_or] at free
    rw [signed?_append _ isSign fun _ => number.unsigned, (nat?_eq_some_iff free.2).mpr number]
    rfl

theorem int?_eq_some_iff {base : Nat} {text : List Char} {value : Int} (free : '_' ∉ text) :
    int? base text = some value ↔ Written base text value := by
  rw [int?, plain]
  constructor
  · intro read
    obtain ⟨before, after, split, isBefore, isAfter⟩ := exists_margins text
    have innerFree : '_' ∉ trimMargin text := by
      rw [split] at free
      simp only [List.mem_append, not_or] at free
      exact free.1.2
    obtain ⟨sign, number, factor, magnitude, inner, isSign, isNumber, rfl⟩ :=
      (signed?_eq_some_iff innerFree).mp read
    rw [split, inner]
    exact .intro isBefore isSign isNumber isAfter
  · rintro ⟨isBefore, isSign, number, isAfter⟩
    simp only [List.mem_append, not_or] at free
    -- Neither the sign nor the number has a blank, so trimming stops at both ends of them.
    have noMargin : ∀ c ∈ _ ++ _, isMargin c = false :=
      List.forall_mem_append.mpr ⟨isSign.not_isMargin,
        fun c member => not_isMargin_of_isInner (number.isInner c member)⟩
    rw [trimMargin_append isBefore isAfter noMargin, signed?_eq_some_iff]
    · exact ⟨_, _, _, _, rfl, isSign, number, rfl⟩
    · simpa using free.1.2

theorem Written.of_magnitude {base : Nat} {text : List Char} {magnitude : Nat}
    (number : Magnitude base text magnitude) : Written base text magnitude := by
  have written := @Written.intro base [] [] text [] 1 magnitude (by simp) .missing number (by simp)
  simpa using written

/-- The character stands in no numeral of the base. -/
def IsForeign (base : Nat) (c : Char) : Prop :=
  isMargin c = false ∧ c ≠ '+' ∧ c ≠ '-' ∧ baseMark? base ≠ some c.toLower ∧ digitIn? base c = none

instance (base : Nat) (c : Char) : Decidable (IsForeign base c) :=
  inferInstanceAs (Decidable (_ ∧ _))

theorem Written.notMem {base : Nat} {text : List Char} {value : Int}
    (written : Written base text value) {c : Char} (isForeign : IsForeign base c) : c ∉ text := by
  obtain ⟨noMargin, noPlus, noMinus, noMark, noDigit⟩ := isForeign
  obtain ⟨isBefore, isSign, number, isAfter⟩ := written
  simp only [List.mem_append, not_or]
  have noMargins {blanks : List Char} (areBlanks : ∀ c ∈ blanks, isMargin c = true) :
      c ∉ blanks := by
    intro member
    rw [areBlanks c member] at noMargin
    cases noMargin
  refine ⟨⟨noMargins isBefore, ?_, fun member => ?_⟩, noMargins isAfter⟩
  · cases isSign <;> simp [noPlus, noMinus]
  · rcases number.isInner c member with marks | ⟨value, isDigit⟩
    · exact noMark marks
    · rw [IsDigit, noDigit] at isDigit
      cases isDigit

theorem Written.ne_nil {base : Nat} {text : List Char} {value : Int}
    (written : Written base text value) : text ≠ [] := by
  obtain ⟨_, _, ⟨_, nonempty, _, _⟩, _⟩ := written
  simp [nonempty]

end Numeral

end JavaAudit
