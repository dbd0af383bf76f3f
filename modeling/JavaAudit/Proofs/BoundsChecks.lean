import JavaAudit.Optimization.Check
import JavaAudit.Security.Check

/-! Checks of an array index.

The index and the length of its array may be compared in two ways. Both searches take the index as a
whole identifier, but neither looks at what touches the other end of the comparison. So with the
length written first, the array may be any whose name ends in the name that is looked for, and a
check of that array passes for a check of this one. -/

set_option autoImplicit false

namespace JavaAudit.BoundsCheck

open Text

def Delegates (code : List Char) : Prop :=
  "checkBounds".toList <:+: code ∨ "isValidIndex".toList <:+: code

/-- The code tests the index, as a whole identifier, for not being negative. -/
def TestsSign (code index : List Char) : Prop :=
  ∃ before after, WholeIn code before index (" >= 0".toList ++ after)

/-- The code compares the index with the length of the array: the index, the array and `length` are
whole identifiers there. -/
inductive Compares (code index array : List Char) : Prop where
  | indexFirst {before after : List Char}
      (wholeIndex : WholeIn code before index
        (" < ".toList ++ array ++ ".length".toList ++ after))
      (wholeArray : WholeIn code (before ++ index ++ " < ".toList) array
        (".length".toList ++ after))
      (wholeLength : WholeIn code (before ++ index ++ " < ".toList ++ array ++ ".".toList)
        "length".toList after)
  | lengthFirst {before after : List Char}
      (wholeArray : WholeIn code before array (".length > ".toList ++ index ++ after))
      (wholeLength : WholeIn code (before ++ array ++ ".".toList) "length".toList
        (" > ".toList ++ index ++ after))
      (wholeIndex : WholeIn code (before ++ array ++ ".length > ".toList) index after)

/-- The code compares the index with something that is only written like the length of the array. -/
inductive ComparesLookalike (code index array : List Char) : Prop where
  /-- The name of the array is the end of a longer name. -/
  | otherArray {before after : List Char}
      (wholeIndex : WholeIn code (before ++ array ++ ".length > ".toList) index after)
      (longer : before.getLast?.any isIdentifierChar = true)
  /-- The name of the member goes on behind `length`. -/
  | otherMember {before after : List Char}
      (wholeIndex : WholeIn code before index
        (" < ".toList ++ array ++ ".length".toList ++ after))
      (longer : after.head?.any isIdentifierChar = true)

variable {code index array before after : List Char}

theorem delegates_iff :
    Delegates code ↔
      (occursIn "checkBounds".toList code || occursIn "isValidIndex".toList code) = true := by
  rw [Bool.or_eq_true, occursIn_iff_isInfix, occursIn_iff_isInfix, Delegates]

theorem testsSign_iff :
    TestsSign code index ↔ occursWhole [] index " >= 0".toList code = true := by
  simp only [occursWhole_iff, List.append_nil, TestsSign]

namespace Compares

theorem of_indexFirst
    (wholeIndex : WholeIn code before index (" < ".toList ++ array ++ ".length".toList ++ after))
    (free : after.head?.any isIdentifierChar = false) : Compares code index array := by
  -- Blanks and the dot keep the identifiers of a comparison apart, so only its ends matter.
  refine .indexFirst wholeIndex ⟨?_, ?_, rfl⟩ ⟨?_, ?_, free⟩
  · simp [wholeIndex.split]
  · rw [List.getLast?_append]
    rfl
  · simp [wholeIndex.split]
  · rw [List.getLast?_append]
    rfl

theorem of_lengthFirst
    (wholeIndex : WholeIn code (before ++ array ++ ".length > ".toList) index after)
    (free : before.getLast?.any isIdentifierChar = false) : Compares code index array := by
  refine .lengthFirst ⟨?_, free, rfl⟩ ⟨?_, ?_, rfl⟩ wholeIndex
  · simp [wholeIndex.split]
  · simp [wholeIndex.split]
  · rw [List.getLast?_append]
    rfl

theorem iff_occursWhole :
    Compares code index array ↔
      (occursWhole [] (index ++ " < ".toList ++ array ++ ".length".toList) [] code ||
        occursWhole [] (array ++ ".length > ".toList ++ index) [] code) = true := by
  simp only [Bool.or_eq_true, occursWhole_iff, List.append_nil, List.nil_append]
  constructor
  · rintro (⟨wholeIndex, _, wholeLength⟩ | ⟨wholeArray, _, wholeIndex⟩)
    · refine .inl ⟨_, _, ?_, wholeIndex.untouched.1, wholeLength.untouched.2⟩
      simp [wholeIndex.split]
    · refine .inr ⟨_, _, ?_, wholeArray.untouched.1, wholeIndex.untouched.2⟩
      simp [wholeArray.split]
  · rintro (⟨before, after, whole⟩ | ⟨before, after, whole⟩)
    · refine of_indexFirst ⟨?_, whole.untouched.1, rfl⟩ whole.untouched.2
      simp [whole.split]
    · refine of_lengthFirst ⟨?_, ?_, whole.untouched.2⟩ whole.untouched.1
      · simp [whole.split]
      · rw [List.getLast?_append]
        rfl

end Compares

/-- The two searches for a comparison find those of the array and those that look alike. -/
theorem compares_or_lookalike_iff :
    Compares code index array ∨ ComparesLookalike code index array ↔
      (occursWhole [] index (" < ".toList ++ (array ++ ".length".toList)) code ||
        occursWhole (array ++ ".length".toList ++ " > ".toList) index [] code) = true := by
  have behind (after : List Char) : " < ".toList ++ (array ++ ".length".toList) ++ after =
      " < ".toList ++ array ++ ".length".toList ++ after := by simp
  have ahead (before : List Char) : before ++ (array ++ ".length".toList ++ " > ".toList) =
      before ++ array ++ ".length > ".toList := by simp
  simp only [Bool.or_eq_true, occursWhole_iff, List.append_nil, List.nil_append, behind, ahead]
  constructor
  · rintro ((⟨wholeIndex, _, _⟩ | ⟨_, _, wholeIndex⟩) | (⟨wholeIndex, _⟩ | ⟨wholeIndex, _⟩))
    · exact .inl ⟨_, _, wholeIndex⟩
    · exact .inr ⟨_, _, wholeIndex⟩
    · exact .inr ⟨_, _, wholeIndex⟩
    · exact .inl ⟨_, _, wholeIndex⟩
  · -- The search looks at three ends of a comparison, and the fourth tells which kind it is.
    rintro (⟨before, after, wholeIndex⟩ | ⟨before, after, wholeIndex⟩)
    · cases longer : after.head?.any isIdentifierChar with
      | false => exact .inl (.of_indexFirst wholeIndex longer)
      | true => exact .inr (.otherMember wholeIndex longer)
    · cases longer : before.getLast?.any isIdentifierChar with
      | false => exact .inl (.of_lengthFirst wholeIndex longer)
      | true => exact .inr (.otherArray wholeIndex longer)

instance (code : List Char) : Decidable (Delegates code) :=
  decidable_of_iff _ delegates_iff.symm

instance (code index : List Char) : Decidable (TestsSign code index) :=
  decidable_of_iff _ testsSign_iff.symm

instance (code index array : List Char) : Decidable (Compares code index array) :=
  decidable_of_iff _ Compares.iff_occursWhole.symm

theorem hasBoundsCheck_iff (code index array : String) :
    hasBoundsCheck code index array = true ↔
      Delegates code.toList ∨ TestsSign code.toList index.toList ∨
        Compares code.toList index.toList array.toList ∨
        ComparesLookalike code.toList index.toList array.toList := by
  rw [compares_or_lookalike_iff, delegates_iff, testsSign_iff, hasBoundsCheck]
  simp only [Bool.or_eq_true]
  grind

/-- Besides calls and tests for the sign, a check of the index is found exactly if the code compares
the index with the length of the array or with a lookalike. So a check that is found compares with
the array itself, unless the code has nothing but a comparison with a lookalike. -/
theorem bounds_check_compares_iff (code index array : String) :
    (hasBoundsCheck code index array = true ↔
      Delegates code.toList ∨ TestsSign code.toList index.toList ∨
        Compares code.toList index.toList array.toList ∨
        ComparesLookalike code.toList index.toList array.toList) ∧
    (¬Delegates code.toList → ¬TestsSign code.toList index.toList →
      ((hasBoundsCheck code index array = true →
          Compares code.toList index.toList array.toList) ↔
        (ComparesLookalike code.toList index.toList array.toList →
          Compares code.toList index.toList array.toList))) := by
  have found := hasBoundsCheck_iff code index array
  refine ⟨found, fun noCall noSign => ?_⟩
  rw [found, or_iff_right noCall, or_iff_right noSign]
  exact ⟨fun compares lookalike => compares (.inr lookalike),
    fun resolved compared => compared.elim id resolved⟩

theorem both_arrays_checked :
    let code := "ba.length > i && i < a.length"
    ¬Delegates code.toList ∧ ¬TestsSign code.toList "i".toList ∧
      hasBoundsCheck code "i" "a" = true ∧ Compares code.toList "i".toList "a".toList := by
  -- A comparison with another array does no harm beside one with the array itself.
  intro code
  have noCall : ¬Delegates code.toList := by decide +kernel
  have noSign : ¬TestsSign code.toList "i".toList := by decide +kernel
  have found : hasBoundsCheck code "i" "a" = true := by decide +kernel
  have compares : Compares code.toList "i".toList "a".toList := by decide +kernel
  have judged := (bounds_check_compares_iff code "i" "a").2 noCall noSign
  exact ⟨noCall, noSign, found, judged.mpr (fun _ => compares) found⟩

/-- The length of `ba` passes for that of `a`. -/
theorem other_array_checked :
    let code := "ba.length > i"
    ¬Delegates code.toList ∧ ¬TestsSign code.toList "i".toList ∧
      hasBoundsCheck code "i" "a" = true ∧ ¬Compares code.toList "i".toList "a".toList := by
  decide +kernel

end JavaAudit.BoundsCheck
