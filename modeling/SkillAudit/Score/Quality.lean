import SkillAudit.Package.Basic
import SkillAudit.Score.Voice
/-!
# SkillAudit.Score.Quality

The score of a package. Every area has a pool of points, from which its findings deduct; the area
of style has instead the points that the wording of the body earns. The total is the sum of what
the areas earn, and a package passes if it reaches the threshold without a blocking finding.
-/

namespace SkillAudit

open Quantity (ofNat)

variable {α : Type} [Quantity α]

/-- The score of an area. -/
structure AreaScore (α : Type) where
  area : Area
  earned : α
  possible : α
  deductions : α
  /-- The identifiers of the findings that deduct from the area. -/
  findings : List String
deriving DecidableEq, Repr

namespace AreaScore

/-- The findings that deduct from an area, in their order. -/
def findingsIn (area : Area) (findings : List Finding) : List Finding :=
  findings.filter fun f => Area.ofCategory f.category = area

/-- The points that findings deduct. -/
def deducted (penalties : Penalties α) (findings : List Finding) : α :=
  findings.foldl (fun sum f => sum + penalties.get f.severity) (ofNat 0)

/-- The points that an area earns, before rounding. -/
def earnedOf (area : Area) (band : VoiceBand) (possible deductions : α) : α :=
  match area with
  | .style => Quantity.atLeastZero (band.credit possible - deductions)
  | _ => Quantity.clampTo possible (possible - deductions)

/-- The score of an area. -/
def of (scoring : ScoringConfig α) (band : VoiceBand) (findings : List Finding) (area : Area) :
    AreaScore α :=
  let here := findingsIn area findings
  let possible := scoring.weights.get area
  let deductions := deducted scoring.penalties here
  { area := area
    earned := Quantity.roundTo 100 (earnedOf area band possible deductions)
    possible := possible
    deductions := deductions
    findings := here.map (·.id) }

end AreaScore

/-- The score of a package. -/
structure Quality (α : Type) where
  total : α
  grade : Grade
  passed : Bool
  /-- The scores of the areas, in the order of their names. -/
  areas : List (AreaScore α)
  voice : Voice α
deriving DecidableEq, Repr

namespace Quality

/-- The score of an area. -/
def area? (q : Quality α) (area : Area) : Option (AreaScore α) :=
  q.areas.find? fun s => s.area = area

/-- The points of all areas together, in hundredths. -/
def totalOf (areas : List (AreaScore α)) : α :=
  Quantity.roundTo 100 (Quantity.clampTo (ofNat 100) (Quantity.sum (areas.map (·.earned))))

/-- Scores a package with the findings of all analyzers. -/
def of (config : Config α) (p : Package) (findings : List Finding) : Quality α :=
  let voice := Voice.ofText config.style p.body
  let areas := Area.byName.map (AreaScore.of config.scoring voice.band findings)
  let total := totalOf areas
  { total := total
    grade := config.scoring.gradeBands.grade total
    passed := !(findings.any fun f => f.severity.isBlocking) &&
      Quantity.le config.scoring.passThreshold total
    areas := areas
    voice := voice }

end Quality

end SkillAudit
