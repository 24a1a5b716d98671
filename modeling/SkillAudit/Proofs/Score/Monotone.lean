import Mathlib.Algebra.Order.BigOperators.Group.List
import Mathlib.Data.List.Perm.Subperm
import SkillAudit.Proofs.Score.Bounds
/-!
# SkillAudit.Proofs.Score.Monotone

What further findings do to a score, in the rationals. They deduct more from their areas, and every
step from there on keeps the order: holding what an area earns within its pool, rounding it, adding
the areas up, and looking for the first grade that is reached, however the grades are laid out. So no
further finding raises what an area earns, the total or the grade, or makes a package pass; and the
order of the findings is nothing to a score.
-/

namespace SkillAudit

open Quantity

/-! ## Grades -/

/-- The place of a grade, counted from the best one. -/
def Grade.rank : Grade → Nat
  | a => 0
  | b => 1
  | c => 2
  | d => 3
  | f => 4

/-- A higher score has no worse grade, in whatever order the bands are. -/
theorem GradeBands.rank_grade_le (bands : GradeBands Rat) {low high : Rat} (h : low ≤ high) :
    (bands.grade high).rank ≤ (bands.grade low).rank := by
  have hreach {bound : Rat} (hlow : le bound low = true) : le bound high = true :=
    decide_eq_true ((of_decide_eq_true hlow).trans h)
  -- A band that the higher score misses is missed by the lower one, too.
  have hmiss {bound : Rat} (hhigh : ¬le bound high = true) : ¬le bound low = true :=
    mt hreach hhigh
  unfold grade
  by_cases ha : le bands.a high = true
  · rw [if_pos ha]
    exact Nat.zero_le _
  rw [if_neg ha, if_neg (hmiss ha)]
  by_cases hb : le bands.b high = true
  · rw [if_pos hb]
    split_ifs <;> decide
  rw [if_neg hb, if_neg (hmiss hb)]
  by_cases hc : le bands.c high = true
  · rw [if_pos hc]
    split_ifs <;> decide
  rw [if_neg hc, if_neg (hmiss hc)]
  by_cases hd : le bands.d high = true
  · rw [if_pos hd]
    split_ifs <;> decide
  rw [if_neg hd, if_neg (hmiss hd)]

namespace AreaScore

variable {penalties : Penalties Rat} {F G : List Finding}

/-! ## Deductions -/

/-- What findings deduct is the sum of their penalties. -/
theorem deducted_eq_sum (penalties : Penalties Rat) (findings : List Finding) :
    deducted penalties findings = (findings.map fun f => penalties.get f.severity).sum := by
  have hfold (acc : Rat) : findings.foldl (fun sum f => sum + penalties.get f.severity) acc =
      acc + (findings.map fun f => penalties.get f.severity).sum := by
    induction findings generalizing acc with
    | nil => simp
    | cons f fs ih => rw [List.foldl_cons, ih, List.map_cons, List.sum_cons, add_assoc]
  exact (hfold _).trans (zero_add _)

/-- Their order does not matter. -/
theorem deducted_eq_of_perm (h : F.Perm G) : deducted penalties F = deducted penalties G := by
  rw [deducted_eq_sum, deducted_eq_sum]
  exact (h.map _).sum_eq

/-- Further findings deduct nothing back. -/
theorem deducted_le_of_subperm (hpenalties : ∀ s, 0 ≤ penalties.get s) (h : F.Subperm G) :
    deducted penalties F ≤ deducted penalties G := by
  obtain ⟨F', hperm, hsub⟩ := h
  rw [← deducted_eq_of_perm hperm, deducted_eq_sum, deducted_eq_sum]
  refine (hsub.map _).sum_le_sum fun x hx => ?_
  obtain ⟨f, -, rfl⟩ := List.mem_map.mp hx
  exact hpenalties f.severity

/-- Without negative penalties nothing negative is deducted. -/
theorem deducted_nonneg (hpenalties : ∀ s, 0 ≤ penalties.get s) (findings : List Finding) :
    0 ≤ deducted penalties findings :=
  deducted_le_of_subperm hpenalties (List.nil_sublist findings).subperm

/-! ## Areas -/

variable {scoring : ScoringConfig Rat} {area : Area} {band : VoiceBand}

/-- An area from which more is deducted earns no more. -/
theorem earnedOf_anti {possible less more : Rat} (hpossible : 0 ≤ possible) (h : less ≤ more) :
    earnedOf area band possible more ≤ earnedOf area band possible less := by
  cases area
  case style => exact atLeastZero_mono (sub_le_sub_left h _)
  all_goals exact clampTo_mono hpossible (sub_le_sub_left h _)

/-- With further findings an area earns no more. -/
theorem earned_of_anti (hweights : ∀ a, 0 ≤ scoring.weights.get a)
    (hpenalties : ∀ s, 0 ≤ scoring.penalties.get s) (h : F.Subperm G) :
    (of scoring band G area).earned ≤ (of scoring band F area).earned :=
  roundTo_mono (earnedOf_anti (hweights area) (deducted_le_of_subperm hpenalties (h.filter _)))

/-- In another order the findings deduct the same. -/
theorem deductions_of_perm (h : F.Perm G) :
    (of scoring band F area).deductions = (of scoring band G area).deductions :=
  deducted_eq_of_perm (h.filter _)

/-- The area earns the same, too. -/
theorem earned_of_perm (h : F.Perm G) :
    (of scoring band F area).earned = (of scoring band G area).earned := by
  simp only [of, findingsIn, deducted_eq_of_perm (h.filter _)]

end AreaScore

/-! ## Scores -/

namespace Quality

variable {config : Config Rat} {p : Package} {F G : List Finding}

/-- What it means for a score to be no better than another. -/
structure IsNoBetter (q r : Quality Rat) : Prop where
  area : ∀ area, ∃ s t, q.area? area = some s ∧ r.area? area = some t ∧ s.earned ≤ t.earned
  total_le : q.total ≤ r.total
  rank_le : r.grade.rank ≤ q.grade.rank
  passed : q.passed = true → r.passed = true

/-- What it means for two scores to agree in all numbers, in the grade and in the verdict. -/
structure Agrees (q r : Quality Rat) : Prop where
  area : ∀ area, ∃ s t, q.area? area = some s ∧ r.area? area = some t ∧
    s.earned = t.earned ∧ s.deductions = t.deductions
  total_eq : q.total = r.total
  grade_eq : q.grade = r.grade
  passed_eq : q.passed = r.passed

/-- The total is what the areas earn together, held between 0 and 100 and rounded. -/
theorem total_of (config : Config Rat) (p : Package) (findings : List Finding) :
    (Quality.of config p findings).total =
      roundTo 100 (clampTo 100 ((Quality.of config p findings).areas.map (·.earned)).sum) := by
  rw [← sum_eq_sum]
  rfl

/-- With further findings the total is no higher. -/
theorem total_of_anti (hweights : ∀ a, 0 ≤ config.scoring.weights.get a)
    (hpenalties : ∀ s, 0 ≤ config.scoring.penalties.get s) (h : F.Subperm G) :
    (Quality.of config p G).total ≤ (Quality.of config p F).total := by
  have hsum : ((Quality.of config p G).areas.map (·.earned)).sum ≤
      ((Quality.of config p F).areas.map (·.earned)).sum := by
    simp only [Quality.of, List.map_map]
    exact List.sum_le_sum fun area _ => AreaScore.earned_of_anti hweights hpenalties h
  rw [total_of, total_of]
  exact roundTo_mono (clampTo_mono (by norm_num) hsum)

/-- In another order the findings give the same total. -/
theorem total_of_perm (h : F.Perm G) :
    (Quality.of config p F).total = (Quality.of config p G).total := by
  have hearned : (Quality.of config p F).areas.map (·.earned) =
      (Quality.of config p G).areas.map (·.earned) := by
    simp only [Quality.of, List.map_map]
    exact List.map_congr_left fun area _ => AreaScore.earned_of_perm h
  rw [total_of, total_of, hearned]

/-- A package passes if none of its findings is blocking and the total reaches the threshold. -/
theorem passed_of_iff :
    (Quality.of config p F).passed = true ↔
      (∀ f ∈ F, f.severity.isBlocking = false) ∧
        config.scoring.passThreshold ≤ (Quality.of config p F).total := by
  simp [Quality.of, le]

/-- With further findings no score is better. -/
theorem isNoBetter_of_subperm (hweights : ∀ a, 0 ≤ config.scoring.weights.get a)
    (hpenalties : ∀ s, 0 ≤ config.scoring.penalties.get s) (h : F.Subperm G) :
    (Quality.of config p G).IsNoBetter (Quality.of config p F) where
  area area := ⟨_, _, area?_eq_of config p G area, area?_eq_of config p F area,
    AreaScore.earned_of_anti hweights hpenalties h⟩
  total_le := total_of_anti hweights hpenalties h
  rank_le := config.scoring.gradeBands.rank_grade_le (total_of_anti hweights hpenalties h)
  passed := by
    rw [passed_of_iff, passed_of_iff]
    rintro ⟨hblocking, hthreshold⟩
    exact ⟨fun f hf => hblocking f (h.subset hf),
      hthreshold.trans (total_of_anti hweights hpenalties h)⟩

/-- In another order the findings give the same score. -/
theorem agrees_of_perm (h : F.Perm G) :
    (Quality.of config p F).Agrees (Quality.of config p G) where
  area area := ⟨_, _, area?_eq_of config p F area, area?_eq_of config p G area,
    AreaScore.earned_of_perm h, AreaScore.deductions_of_perm h⟩
  total_eq := total_of_perm h
  grade_eq := congrArg config.scoring.gradeBands.grade (total_of_perm h)
  passed_eq := by
    rw [Bool.eq_iff_iff, passed_of_iff, passed_of_iff, total_of_perm h]
    simp only [h.mem_iff]

end Quality

/-! ## Settings -/

/-- What it means for settings to score a package monotonically. -/
structure Config.ScoresMonotonically (config : Config Rat) (p : Package) : Prop where
  /-- Further findings make no score better. -/
  of_subperm : ∀ F G : List Finding, F.Subperm G →
    (Quality.of config p G).IsNoBetter (Quality.of config p F)
  /-- The order of the findings changes nothing. -/
  of_perm : ∀ F G : List Finding, F.Perm G →
    (Quality.of config p F).Agrees (Quality.of config p G)

/-- Prepared settings without negative penalties score every package monotonically. -/
theorem Config.scoresMonotonically_of_prepare {c config : Config Rat} (h : c.prepare = .ok config)
    (hpenalties : ∀ s, 0 ≤ config.scoring.penalties.get s) (p : Package) :
    config.ScoresMonotonically p where
  of_subperm _ _ := Quality.isNoBetter_of_subperm (Config.weights_of_prepare h).1 hpenalties
  of_perm _ _ := Quality.agrees_of_perm

/-- Settings in which the bands of the grades are not in order: the one of B lies above the one of
    A, and the one of D above the one of C. -/
def Config.crossedBands : Config Rat :=
  { Config.default with
    scoring := { ScoringConfig.default with gradeBands := ⟨99, 100, 60, 70⟩ } }

/-- They score a package monotonically: a second finding about its wording takes it from A to C. -/
theorem Config.scoresMonotonically_crossedBands :
    crossedBands.prepare = .ok crossedBands ∧
      (∀ s, 0 ≤ crossedBands.scoring.penalties.get s) ∧
      crossedBands.ScoresMonotonically Quality.briefNotes ∧
      (Quality.of crossedBands Quality.briefNotes [Quality.hedging]).grade = .a ∧
      (Quality.of crossedBands Quality.briefNotes [Quality.hedging, Quality.hedging]).grade = .c := by
  have hprepare : crossedBands.prepare = .ok crossedBands :=
    prepare_of_isValid (by decide +kernel) (by decide +kernel) (by decide +kernel)
  have hpenalties : ∀ s, 0 ≤ crossedBands.scoring.penalties.get s := by
    intro s
    cases s <;> exact Nat.cast_nonneg _
  exact ⟨hprepare, hpenalties,
    scoresMonotonically_of_prepare hprepare hpenalties Quality.briefNotes, by decide +kernel,
    by decide +kernel⟩

end SkillAudit
