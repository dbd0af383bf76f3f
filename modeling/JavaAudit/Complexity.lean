import JavaAudit.Assoc
import JavaAudit.Text.Character
import JavaAudit.Tree.Declaration

/-! Cyclomatic complexity and the decision points of each line. -/

set_option autoImplicit false

namespace JavaAudit

structure Complexity where
  cyclomatic : Nat
  /-- Decision points by line, in the order in which the lines are first met. -/
  decisions : Assoc Int Nat
  deriving DecidableEq, Repr

namespace Site

/-- Does the node open an independent path through its method? Each case label does, the default
label does not. -/
def isDecisionPoint (site : Site) : Bool :=
  match site.kind with
  | .ifStatement | .forStatement | .enhancedForStatement | .whileStatement | .doStatement
    | .catchClause | .ternaryExpression => true
  | .binaryExpression => ["&&", "||"].contains (site.childText .operator)
  | .switchLabel => Text.trim site.text.toList != "default".toList
  | _ => false

def decisionPoints (method : Site) : List Site :=
  ((method.body?.map scope).getD []).filter isDecisionPoint

end Site

def Assoc.count (counts : Assoc Int Nat) (key : Int) (amount : Nat) : Assoc Int Nat :=
  counts.insert key ((counts.get? key).getD 0 + amount)

def Assoc.tally (amounts : List (Int × Nat)) : Assoc Int Nat :=
  amounts.foldl (fun counts entry => counts.count entry.1 entry.2) .empty

theorem Assoc.tally_concat (amounts : List (Int × Nat)) (entry : Int × Nat) :
    tally (amounts ++ [entry]) = (tally amounts).count entry.1 entry.2 := by
  simp [tally, List.foldl_append]

def Complexity.ofMethod (method : Site) : Complexity where
  cyclomatic := method.decisionPoints.length + 1
  decisions := .tally (method.decisionPoints.map fun point => ((point.line : Int), 1))

end JavaAudit
