import SkillAudit.Proofs.Config.Prepare
import SkillAudit.Proofs.Package.Notes
import SkillAudit.Score.Quality
/-!
# SkillAudit.Proofs.Score.Bounds

How much a package can earn, in the rationals. No area earns less than nothing, and the total lies
between 0 and 100, whatever the penalties are. The pools of the areas sum to 100 if they were scaled,
and nearly so if they were close enough to be left alone. An area earns at most its pool if that is in
whole hundredths and, for style, no findings about it carry negative penalties. Elsewhere it can earn
more: what it earns is rounded and its pool is not, and style is not held below its pool.

* `earned_le_iff` — when an area earns at most its pool;
* `isBounded_of` — the bounds of a score.
-/

namespace SkillAudit

open Quantity

/-! ## Points -/

theorem VoiceBand.credit_le (band : VoiceBand) {pool : Rat} (hpool : 0 ≤ pool) :
    band.credit pool ≤ pool := by
  cases band with
  | full => exact le_refl _
  | half => exact div_le_self hpool (by norm_num)
  | nothing => exact hpool

namespace AreaScore

variable {area : Area} {band : VoiceBand} {possible deductions : Rat}

theorem earnedOf_nonneg (hpossible : 0 ≤ possible) : 0 ≤ earnedOf area band possible deductions := by
  cases area
  case style =>
    rw [earnedOf, atLeastZero_eq_max]
    exact le_max_left _ _
  all_goals exact clampTo_nonneg hpossible _

/-- What an area earns before it is held above zero and rounded. -/
def credited (area : Area) (band : VoiceBand) (possible deductions : Rat) : Rat :=
  match area with
  | .style => band.credit possible - deductions
  | _ => min possible (possible - deductions)

theorem earnedOf_eq_max (hpossible : 0 ≤ possible) :
    earnedOf area band possible deductions = max 0 (credited area band possible deductions) := by
  cases area
  case style => exact atLeastZero_eq_max _
  all_goals exact clampTo_eq_max_min hpossible _

/-- Rounding does not take an area above its pool if it earns less than half a hundredth more than
    the whole hundredths of the pool. -/
theorem earned_le_iff (hpossible : 0 ≤ possible) :
    roundTo 100 (earnedOf area band possible deductions) ≤ possible ↔
      credited area band possible deductions < wholeHundredths possible + 1 / 200 := by
  have hwhole := wholeHundredths_nonneg hpossible
  rw [roundTo_le_iff (earnedOf_nonneg hpossible), earnedOf_eq_max hpossible, max_lt_iff,
    and_iff_right (by linarith)]

/-- Before rounding an area earns at most its pool; for style this takes deductions that are not
    negative. -/
theorem earnedOf_le (hpossible : 0 ≤ possible) (hstyle : area = .style → 0 ≤ deductions) :
    earnedOf area band possible deductions ≤ possible := by
  cases area
  case style =>
    have hcredit := band.credit_le hpossible
    have hdeductions := hstyle rfl
    rw [earnedOf, atLeastZero_eq_max]
    exact max_le hpossible (by linarith)
  all_goals exact clampTo_le hpossible _

end AreaScore

/-! ## Pools -/

theorem Area.byName_perm_all : Area.byName.Perm Area.all := by
  decide

namespace Quality

/-- The pools of a score are the weights. -/
theorem map_possible_of (config : Config Rat) (p : Package) (findings : List Finding) :
    (Quality.of config p findings).areas.map (·.possible) =
      Area.byName.map config.scoring.weights.get := by
  rw [Quality.of, List.map_map]
  rfl

theorem sum_possible_of (config : Config Rat) (p : Package) (findings : List Finding) :
    ((Quality.of config p findings).areas.map (·.possible)).sum = config.scoring.weights.sum := by
  rw [map_possible_of, Weights.sum_eq_sum_map]
  exact (Area.byName_perm_all.map _).sum_eq

/-! ## Areas of a score -/

/-- The score of an area, under the wording of the body. -/
theorem area?_eq_of {α : Type} [Quantity α] (config : Config α) (p : Package)
    (findings : List Finding) (area : Area) :
    (Quality.of config p findings).area? area =
      some (AreaScore.of config.scoring (Voice.ofText config.style p.body).band findings area) := by
  cases area <;> rfl

theorem exists_of_mem_areas {config : Config Rat} {p : Package} {findings : List Finding}
    {s : AreaScore Rat} (hs : s ∈ (Quality.of config p findings).areas) :
    ∃ area, s = AreaScore.of config.scoring (Voice.ofText config.style p.body).band findings area := by
  obtain ⟨area, -, rfl⟩ := List.mem_map.mp hs
  exact ⟨area, rfl⟩

/-! ## The total -/

theorem total_mem (areas : List (AreaScore Rat)) : 0 ≤ totalOf areas ∧ totalOf areas ≤ 100 := by
  have htop : (0 : Rat) ≤ ofNat 100 := by norm_num
  exact ⟨roundTo_nonneg (clampTo_nonneg htop _),
    roundTo_le (clampTo_le htop _) (isHundredths_natCast 100)⟩

/-! ## Scores -/

/-- How far a score keeps within its bounds, where `weights` are those that were asked for. -/
structure IsBounded (weights : Weights Rat) (q : Quality Rat) : Prop where
  /-- There is one score for each of the five areas. -/
  areas_eq : q.areas.map (·.area) = Area.byName
  /-- The pools sum to 100 up to a thousandth. -/
  sum_near : |(q.areas.map (·.possible)).sum - 100| < 1 / 1000
  /-- Weights that can be used as they are keep their sum. -/
  sum_eq_sum : weights.isValid = true → (q.areas.map (·.possible)).sum = weights.sum
  /-- Others give pools that sum to exactly 100, in whole hundredths. -/
  sum_eq : weights.isValid = false →
    (q.areas.map (·.possible)).sum = 100 ∧ ∀ s ∈ q.areas, IsHundredths s.possible
  nonneg : ∀ s ∈ q.areas, 0 ≤ s.possible ∧ 0 ≤ s.earned
  /-- An area earns at most its pool if that is in whole hundredths. -/
  earned_le : ∀ s ∈ q.areas, (s.area = .style → 0 ≤ s.deductions) → IsHundredths s.possible →
    s.earned ≤ s.possible
  /-- Another pool can be exceeded, by rounding or in style. It is not if what is credited to the area
      is less than half a hundredth above the whole hundredths of the pool. -/
  earned_le_iff : ∀ s ∈ q.areas, s.earned ≤ s.possible ↔
    AreaScore.credited s.area q.voice.band s.possible s.deductions <
      wholeHundredths s.possible + 1 / 200
  total_nonneg : 0 ≤ q.total
  total_le : q.total ≤ 100

/-- The bounds of every score under prepared settings. -/
theorem isBounded_of {c config : Config Rat} (h : c.prepare = .ok config) (p : Package)
    (findings : List Finding) :
    (Quality.of config p findings).IsBounded c.scoring.weights where
  areas_eq := by
    rw [Quality.of, List.map_map]
    rfl
  sum_near := by
    rw [sum_possible_of]
    exact (Config.weights_of_prepare h).2
  sum_eq_sum hvalid := by
    rw [sum_possible_of, Config.weights_eq_of_prepare h, Weights.settled_of_isValid hvalid]
  sum_eq hinvalid := by
    have hnormal : config.scoring.weights = c.scoring.weights.normalize := by
      rw [Config.weights_eq_of_prepare h, Weights.settled, hinvalid]
      rfl
    have hsum := (Weights.isUsable_iff.mp (Config.prepare_eq_ok.mp h).1).2
    refine ⟨by rw [sum_possible_of, hnormal, Weights.sum_normalize hsum], fun s hs => ?_⟩
    obtain ⟨area, rfl⟩ := exists_of_mem_areas hs
    rw [AreaScore.of, hnormal]
    exact Weights.isHundredths_normalize hsum area
  nonneg s hs := by
    obtain ⟨area, rfl⟩ := exists_of_mem_areas hs
    have hget := (Config.weights_of_prepare h).1 area
    exact ⟨hget, roundTo_nonneg (AreaScore.earnedOf_nonneg hget)⟩
  earned_le s hs hstyle hwhole := by
    obtain ⟨area, rfl⟩ := exists_of_mem_areas hs
    have hget := (Config.weights_of_prepare h).1 area
    exact roundTo_le (AreaScore.earnedOf_le hget hstyle) hwhole
  earned_le_iff s hs := by
    obtain ⟨area, rfl⟩ := exists_of_mem_areas hs
    exact AreaScore.earned_le_iff ((Config.weights_of_prepare h).1 area)
  total_nonneg := (total_mem _).1
  total_le := (total_mem _).2

/-! ### Pools that are left alone -/

/-- A package whose body is one instruction. -/
def briefNotes : Package := .notes .named "Run what you can.\n" []

/-- A finding about its wording. -/
def hedging : Finding where
  rule := "weak-phrases"
  category := .style
  severity := .low
  message := "Body uses 1 weak phrases (limit 0)"
  location := some ⟨"SKILL.md", none⟩
  suggestion := some "Replace 'you can'/'you should' with direct imperatives"

/-- Settings with weights that sum to 100 and are in thousandths. -/
def oddPools : Config Rat :=
  { Config.default with
    scoring :=
      { ScoringConfig.default with weights := ⟨20006 / 1000, 30, 20, 15, 14994 / 1000⟩ } }

/-- They are prepared as they are. -/
theorem prepare_oddPools : oddPools.prepare = .ok oddPools :=
  Config.prepare_of_isValid (by decide +kernel) (by decide +kernel) (by decide +kernel)

/-- What is said of the bounds of scores holds of the package under these settings. -/
theorem isBounded_oddPools :
    oddPools.prepare = .ok oddPools ∧
      (Quality.of oddPools briefNotes [hedging]).IsBounded oddPools.scoring.weights :=
  ⟨prepare_oddPools, isBounded_of prepare_oddPools briefNotes [hedging]⟩

/-- Without any finding structure earns 20.01 of its pool of 20.006, because what it earns is
    rounded. -/
theorem exceeds_oddPools :
    oddPools.prepare = .ok oddPools ∧
      ((Quality.of oddPools briefNotes []).areas.map (·.possible)).sum = 100 ∧
      ∃ s ∈ (Quality.of oddPools briefNotes []).areas,
        s.area = .structural ∧ s.deductions = 0 ∧ s.possible = 20006 / 1000 ∧
          s.earned = 2001 / 100 := by
  refine ⟨prepare_oddPools, ?_, ?_⟩
  · rw [sum_possible_of]
    decide +kernel
  · exact ⟨_, List.mem_map_of_mem (a := .structural) (by decide), rfl, by decide +kernel,
      by decide +kernel, by decide +kernel⟩

end Quality

end SkillAudit
