import JavaAudit.Text.LetterCase

/-! Findings: what a rule reports about a place in the source. -/

set_option autoImplicit false

namespace JavaAudit

inductive Severity where
  | low
  | medium
  | high
  | critical
  deriving DecidableEq, Repr

namespace Severity

def name : Severity → String
  | .low => "LOW"
  | .medium => "MEDIUM"
  | .high => "HIGH"
  | .critical => "CRITICAL"

def all : List Severity := [.low, .medium, .high, .critical]

/-- The severity of a name in any letter case; any other text counts as low. -/
def ofText (text : String) : Severity :=
  (all.find? (·.name.toList == Text.upper text.toList)).getD .low

theorem mem_all (severity : Severity) : severity ∈ all := by
  cases severity <;> decide

theorem name_injective {left right : Severity} (same : left.name.toList = right.name.toList) :
    left = right := by
  revert same
  cases left <;> cases right <;> decide

theorem ofText_of_named {text : String} {severity : Severity}
    (names : severity.name.toList = Text.upper text.toList) : ofText text = severity := by
  unfold ofText
  cases found : all.find? (·.name.toList == Text.upper text.toList) with
  | none =>
    have unnamed := List.find?_eq_none.mp found severity severity.mem_all
    exact absurd (beq_iff_eq.mpr names) unnamed
  | some other =>
    have otherNames : other.name.toList = Text.upper text.toList := by
      simpa using List.find?_some found
    exact name_injective (otherNames.trans names.symm)

theorem ofText_of_nameless {text : String}
    (unknown : ∀ severity : Severity, severity.name.toList ≠ Text.upper text.toList) :
    ofText text = .low := by
  have absent : all.find? (·.name.toList == Text.upper text.toList) = none :=
    List.find?_eq_none.mpr fun severity _ same => unknown severity (beq_iff_eq.mp same)
  rw [ofText, absent, Option.getD_none]

end Severity

structure Finding (κ : Type) where
  category : κ
  description : String
  line : Int
  /-- The code in question, in canonical form. -/
  snippet : String
  severity : Severity
  deriving DecidableEq, Repr

end JavaAudit
