import JavaAudit.Assoc
import JavaAudit.Event
import JavaAudit.Quality.Scalar

/-! Regions: runs of neighbouring lines with similar scores.

The scored lines are cut greedily, in ascending order: a line joins the open run if it is close
enough to the line before it and to the average of the run. -/

set_option autoImplicit false

namespace JavaAudit

/-- When neighbouring scored lines make one region; scores have type `S`. -/
structure RegionPolicy (S : Type) where
  /-- The largest distance between neighbouring lines. -/
  lineGap : Int := 2
  /-- The largest distance from the average so far. -/
  tolerance : S
  /-- The least number of scored lines. -/
  minSize : Int := 3
  deriving DecidableEq, Repr

inductive Band where
  | excellent
  | good
  | average
  | poor
  | critical
  deriving DecidableEq, Repr

def Band.name : Band → String
  | .excellent => "EXCELLENT"
  | .good => "GOOD"
  | .average => "AVERAGE"
  | .poor => "POOR"
  | .critical => "CRITICAL"

structure Region (S : Type) where
  startLine : Int
  endLine : Int
  average : S
  intensity : S
  band : Band
  deriving DecidableEq, Repr

def Region.lineCount {S : Type} (region : Region S) : Int :=
  region.endLine - region.startLine + 1

/-- Neighbouring scored lines with the average of their scores. -/
structure Run (S : Type) where
  first : Int
  last : Int
  average : S
  size : Nat
  deriving DecidableEq, Repr

open Scalar

variable {S : Type} [Scalar S]

namespace Band

/-- The least average of each band, best band first; anything less is critical. -/
def thresholds : List (Int × Band) := [
  (80, .excellent), (60, .good), (40, .average), (20, .poor)]

def ofScore (score : S) : Band :=
  ((thresholds.find? fun threshold => decide (points threshold.1 ≤ score)).map (·.2)).getD
    .critical

def heat : Band → Int
  | .excellent => 1
  | .good => 2
  | .average => 3
  | .poor => 4
  | .critical => 5

def intensity (band : Band) : S :=
  points band.heat / points 5

end Band

namespace Run

def single (line : Int) (score : S) : Run S :=
  ⟨line, line, score, 1⟩

/-- Does a later line belong to the run? -/
def accepts (policy : RegionPolicy S) (run : Run S) (line : Int) (score : S) : Bool :=
  line - run.last ≤ policy.lineGap && distance score run.average ≤ policy.tolerance

def extend (run : Run S) (line : Int) (score : S) : Run S :=
  { run with
    last := line
    average := (run.average * points run.size + score) / points (run.size + 1)
    size := run.size + 1 }

def cutFrom (policy : RegionPolicy S) (current : Run S) : List (Int × S) → List (Run S)
  | [] => [current]
  | (line, score) :: rest =>
    if current.accepts policy line score then cutFrom policy (current.extend line score) rest
    else current :: cutFrom policy (single line score) rest

def cut (policy : RegionPolicy S) : List (Int × S) → List (Run S)
  | [] => []
  | (line, score) :: rest => cutFrom policy (single line score) rest

def isRegion (policy : RegionPolicy S) (run : Run S) : Bool :=
  policy.minSize ≤ run.size

def region (run : Run S) : Region S :=
  let band := Band.ofScore run.average
  ⟨run.first, run.last, run.average, band.intensity, band⟩

end Run

namespace Region

def ofScores (policy : RegionPolicy S) (lines : Assoc Int S) : List (Region S) :=
  ((Run.cut policy lines.sortedEntries).filter (·.isRegion policy)).map Run.region

def dropped (policy : RegionPolicy S) (lines : Assoc Int S) : List Event :=
  ((Run.cut policy lines.sortedEntries).filter (!·.isRegion policy)).map fun run =>
    .droppedRun run.size run.first run.last

end Region

end JavaAudit
