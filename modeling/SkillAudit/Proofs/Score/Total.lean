import SkillAudit.Proofs.Config.Fairness
import SkillAudit.Proofs.Score.Monotone
/-!
# SkillAudit.Proofs.Score.Total

How a total adds up, in the rationals. If the pools divide 100 points in whole hundredths, then what an
area earns lies between nothing and its pool even after rounding, so that the five areas together
earn whole hundredths between 0 and 100: holding the total in that interval and rounding it once more
changes nothing. It is full exactly when every area earns its whole pool.
-/

namespace SkillAudit

open Quantity

namespace AreaScore

variable {scoring : ScoringConfig Rat} {area : Area} {band : VoiceBand} {findings : List Finding}

/-- What an area earns is rounded up to its whole pool at most. -/
theorem earned_mem (hweights : scoring.weights.IsWhole)
    (hpenalties : ∀ s, 0 ≤ scoring.penalties.get s) :
    0 ≤ (of scoring band findings area).earned ∧
      (of scoring band findings area).earned ≤ (of scoring band findings area).possible := by
  have hpossible := hweights.nonneg area
  have hdeductions := deducted_nonneg hpenalties (findingsIn area findings)
  exact ⟨roundTo_nonneg (earnedOf_nonneg hpossible),
    roundTo_le (earnedOf_le hpossible fun _ => hdeductions) (hweights.isHundredths area)⟩

theorem isHundredths_earned : IsHundredths (of scoring band findings area).earned :=
  isHundredths_roundTo _

end AreaScore

namespace Quality

variable {config : Config Rat} {p : Package} {findings : List Finding}

theorem earned_mem_of_mem (hweights : config.scoring.weights.IsWhole)
    (hpenalties : ∀ s, 0 ≤ config.scoring.penalties.get s) {s : AreaScore Rat}
    (hs : s ∈ (Quality.of config p findings).areas) : 0 ≤ s.earned ∧ s.earned ≤ s.possible := by
  obtain ⟨area, rfl⟩ := exists_of_mem_areas hs
  exact AreaScore.earned_mem hweights hpenalties

theorem isHundredths_sum_earned (config : Config Rat) (p : Package) (findings : List Finding) :
    IsHundredths ((Quality.of config p findings).areas.map (·.earned)).sum := by
  refine .sum fun x hx => ?_
  obtain ⟨s, hs, rfl⟩ := List.mem_map.mp hx
  obtain ⟨area, rfl⟩ := exists_of_mem_areas hs
  exact AreaScore.isHundredths_earned

/-- The areas earn at most 100 points together, and exactly as many if and only if each earns its
    pool. -/
theorem sum_earned_le {areas : List (AreaScore Rat)} (hle : ∀ s ∈ areas, s.earned ≤ s.possible) :
    (areas.map (·.earned)).sum ≤ (areas.map (·.possible)).sum ∧
      ((areas.map (·.earned)).sum = (areas.map (·.possible)).sum ↔
        ∀ s ∈ areas, s.earned = s.possible) := by
  refine ⟨List.sum_le_sum hle, fun heq s hs => ?_, fun h => ?_⟩
  · by_contra hne
    have hlt := List.sum_lt_sum _ _ hle ⟨s, hs, lt_of_le_of_ne (hle s hs) hne⟩
    exact hlt.ne heq
  · rw [List.map_congr_left h]

/-! ## Sums -/

/-- What it means for a score to add up. -/
structure AddsUp (q : Quality Rat) : Prop where
  /-- There is one score for each of the five areas. -/
  areas_eq : q.areas.map (·.area) = Area.byName
  /-- The total is exactly what they earn together. -/
  total_eq : q.total = (q.areas.map (·.earned)).sum
  /-- It is full if and only if every area that has a pool earns all of it. -/
  total_eq_iff : q.total = 100 ↔ ∀ s ∈ q.areas, s.possible ≠ 0 → s.earned = s.possible

/-- Where the pools divide 100 points in whole hundredths, as the default weights and all scaled ones
    do, and no penalty is negative, every score adds up. -/
theorem addsUp_of (hweights : config.scoring.weights.IsWhole)
    (hpenalties : ∀ s, 0 ≤ config.scoring.penalties.get s) (p : Package)
    (findings : List Finding) : (Quality.of config p findings).AddsUp := by
  have hmem (s : AreaScore Rat) (hs : s ∈ (Quality.of config p findings).areas) :=
    earned_mem_of_mem hweights hpenalties hs
  obtain ⟨hle, hfull⟩ := sum_earned_le fun s hs => (hmem s hs).2
  rw [sum_possible_of, hweights.sum_eq] at hle hfull
  have hnonneg : 0 ≤ ((Quality.of config p findings).areas.map (·.earned)).sum := by
    refine List.sum_nonneg fun x hx => ?_
    obtain ⟨s, hs, rfl⟩ := List.mem_map.mp hx
    exact (hmem s hs).1
  have htotal : (Quality.of config p findings).total =
      ((Quality.of config p findings).areas.map (·.earned)).sum := by
    rw [total_of, clampTo_of_mem hnonneg hle,
      roundTo_of_isHundredths (isHundredths_sum_earned config p findings)]
  refine ⟨by rw [Quality.of, List.map_map]; rfl, htotal, ?_⟩
  rw [htotal, hfull]
  refine forall₂_congr fun s hs => ⟨fun h _ => h, fun h => ?_⟩
  by_cases hzero : s.possible = 0
  · -- An area without a pool earns nothing, which is all of it.
    exact le_antisymm (hmem s hs).2 (hzero.trans_le (hmem s hs).1)
  · exact h hzero

/-- Settings that give three areas a third of the points each, with a penalty that is no whole number
    of hundredths. -/
def thirdPools : Config Rat :=
  { Config.default with
    scoring :=
      { ScoringConfig.default with
        weights := (⟨1, 1, 0, 0, 1⟩ : Weights Rat).normalize
        penalties := ⟨10, 6, 4, 1 / 3, 0⟩ } }

/-- A package one of whose three sentences is an instruction, which earns half the points of
    style. -/
def mixedNotes : Package := .notes .named "Run it. It works. It is fine.\n" []

/-- The default pools are whole, and so are those of a third each. Half of a pool of 33.33, less a
    third, is rounded to 16.33, and the total is 83. -/
theorem addsUp_mixedNotes :
    (Config.default : Config Rat).scoring.weights.IsWhole ∧
      thirdPools.scoring.weights.IsWhole ∧ (∀ s, 0 ≤ thirdPools.scoring.penalties.get s) ∧
      (Quality.of thirdPools mixedNotes [hedging]).AddsUp ∧
      (Quality.of thirdPools mixedNotes [hedging]).total = 83 := by
  have hget : ∀ a, 0 ≤ (⟨1, 1, 0, 0, 1⟩ : Weights Rat).get a := by
    intro a
    cases a <;> decide +kernel
  have hweights : thirdPools.scoring.weights.IsWhole :=
    Weights.isWhole_normalize (by decide +kernel) hget
  have hpenalties : ∀ s, 0 ≤ thirdPools.scoring.penalties.get s := by
    intro s
    cases s <;> decide +kernel
  exact ⟨Weights.isWhole_default, hweights, hpenalties,
    addsUp_of hweights hpenalties mixedNotes [hedging], by decide +kernel⟩

end Quality

end SkillAudit
