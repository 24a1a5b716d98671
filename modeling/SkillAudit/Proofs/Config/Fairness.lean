import SkillAudit.Proofs.Config.Normalize
/-!
# SkillAudit.Proofs.Config.Fairness

How fairly scaling divides 100 points. The pools are whole hundredths that sum to exactly 100; every
area has its exact share rounded, but for one with the largest rounded share, which takes what the
rounding of the other four leaves over and is off by four halves of a hundredth at most. Pools of
this kind are a fixed point of scaling, so that to scale twice is to scale once.
-/

namespace SkillAudit.Weights

open Quantity

/-! ## Whole pools -/

/-- Whether pools divide 100 points in whole hundredths. -/
structure IsWhole (w : Weights Rat) : Prop where
  nonneg : ∀ a, 0 ≤ w.get a
  isHundredths : ∀ a, IsHundredths (w.get a)
  sum_eq : w.sum = 100

/-- The default weights are such pools. -/
theorem isWhole_default : (default : Weights Rat).IsWhole where
  nonneg a := by cases a <;> exact Nat.cast_nonneg _
  isHundredths a := by cases a <;> exact isHundredths_natCast _
  sum_eq := by decide +kernel

/-- Scaled weights are such pools. -/
theorem isWhole_normalize {w : Weights Rat} (hsum : 0 < w.sum) (hget : ∀ a, 0 ≤ w.get a) :
    w.normalize.IsWhole :=
  ⟨normalize_nonneg hsum hget, isHundredths_normalize hsum, sum_normalize hsum⟩

/-! ## Exact shares -/

/-- The share of an area in 100 points, before rounding. -/
def exactShare (w : Weights Rat) (a : Area) : Rat := 100 * w.get a / w.sum

theorem share_eq (w : Weights Rat) (a : Area) : w.share a = roundTo 100 (w.exactShare a) := by
  have hexact : w.get a * (100 / w.sum) = w.exactShare a := by
    rw [exactShare, mul_div_left_comm, mul_div_assoc]
  exact congrArg (roundTo 100) hexact

theorem sum_exactShare {w : Weights Rat} (hsum : 0 < w.sum) :
    (Area.all.map w.exactShare).sum = 100 := by
  rw [← sum_exact hsum]
  exact congrArg List.sum (List.map_congr_left fun a _ => by rw [exactShare]; ring)

/-- The areas other than one. -/
theorem length_others (a : Area) : (Area.all.filter (· != a)).length = 4 := by
  cases a <;> rfl

/-- Sums over areas are as near as their terms are, once for each area. -/
theorem abs_sum_map_sub_le {f g : Area → Rat} {bound : Rat} (h : ∀ a, |f a - g a| ≤ bound)
    (areas : List Area) : |(areas.map f).sum - (areas.map g).sum| ≤ areas.length * bound := by
  induction areas with
  | nil => simp
  | cons a areas ih =>
    have hsplit : ((a :: areas).map f).sum - ((a :: areas).map g).sum =
        (f a - g a) + ((areas.map f).sum - (areas.map g).sum) := by
      simp only [List.map_cons, List.sum_cons]
      ring
    calc |((a :: areas).map f).sum - ((a :: areas).map g).sum|
        ≤ |f a - g a| + |(areas.map f).sum - (areas.map g).sum| := hsplit ▸ abs_add_le _ _
      _ ≤ bound + areas.length * bound := add_le_add (h a) ih
      _ = (a :: areas).length * bound := by
        rw [List.length_cons]
        push_cast
        ring

/-- The pool that takes what is left over is off by what the four others are off together. -/
theorem abs_get_normalize_largest_sub_le {w : Weights Rat} (hsum : 0 < w.sum) :
    |w.normalize.get w.largest - w.exactShare w.largest| ≤ 1 / 50 := by
  have hnear (a : Area) : |w.exactShare a - w.share a| ≤ 1 / 200 := by
    rw [share_eq, abs_sub_comm]
    exact abs_roundTo_sub_le _
  have hothers := abs_sum_map_sub_le hnear (Area.all.filter (· != w.largest))
  have hexact := sum_map_all w.exactShare w.largest
  rw [sum_exactShare hsum] at hexact
  rw [length_others] at hothers
  have hdiff : w.normalize.get w.largest - w.exactShare w.largest =
      ((Area.all.filter (· != w.largest)).map w.exactShare).sum -
        ((Area.all.filter (· != w.largest)).map w.share).sum := by
    rw [get_normalize_largest hsum, restOf]
    linarith
  rw [hdiff]
  exact hothers.trans_eq (by norm_num)

/-! ## Scaling twice -/

/-- Weights are the same if they are so for every area. -/
theorem ext_get {v w : Weights Rat} (h : ∀ a, v.get a = w.get a) : v = w := by
  obtain ⟨_, _, _, _, _⟩ := v
  obtain ⟨_, _, _, _, _⟩ := w
  simp only [mk.injEq]
  exact ⟨h .structural, h .content, h .efficiency, h .security, h .style⟩

/-- Whole pools are their own shares, -/
theorem IsWhole.share_eq_get {w : Weights Rat} (hw : w.IsWhole) (a : Area) :
    w.share a = w.get a := by
  have hexact : w.exactShare a = w.get a := by
    rw [exactShare, hw.sum_eq, mul_div_cancel_left₀ _ (by norm_num)]
  rw [share_eq, hexact, roundTo_of_isHundredths (hw.isHundredths a)]

/-- and so they are left as they are. -/
theorem IsWhole.normalize_eq {w : Weights Rat} (hw : w.IsWhole) : w.normalize = w := by
  have hsum : 0 < w.sum := by
    rw [hw.sum_eq]
    norm_num
  refine ext_get fun a => ?_
  by_cases ha : a = w.largest
  · have hrest : w.get w.largest + w.restOf = 100 := by
      rw [← hw.sum_eq, sum_eq_sum_map, sum_map_all w.get w.largest, restOf,
        List.map_congr_left fun b _ => hw.share_eq_get b]
    rw [ha, get_normalize_largest hsum, ← hrest, add_sub_cancel_right]
  · rw [get_normalize hsum, if_neg ha, hw.share_eq_get]

/-! ## Fair division -/

/-- What it means for pools to divide 100 points fairly by weights. -/
structure DividesFairly (w pools : Weights Rat) : Prop where
  /-- No pool is negative, each is a whole number of hundredths, and they sum to exactly 100. -/
  isWhole : pools.IsWhole
  isValid : pools.isValid = true
  /-- Every area but one has its exact share, rounded to hundredths. -/
  get_eq : ∀ a, a ≠ w.largest → pools.get a = roundTo 100 (w.exactShare a)
  /-- It is off by half a hundredth at most. -/
  near : ∀ a, a ≠ w.largest → |pools.get a - w.exactShare a| ≤ 5 / 1000
  /-- The one that takes what is left over has the largest of the rounded shares, -/
  largest : ∀ a, roundTo 100 (w.exactShare a) ≤ roundTo 100 (w.exactShare w.largest)
  /-- and is off by two hundredths at most. -/
  near_largest : |pools.get w.largest - w.exactShare w.largest| ≤ 2 / 100
  /-- To divide by the pools changes nothing. -/
  normalize_eq : pools.normalize = pools

/-- Scaling divides 100 points fairly, whatever the weights are. -/
theorem dividesFairly_normalize {w : Weights Rat} (hget : ∀ a, 0 ≤ w.get a) (hsum : 0 < w.sum) :
    w.DividesFairly w.normalize where
  isWhole := isWhole_normalize hsum hget
  isValid := isValid_normalize hsum hget
  get_eq a ha := by rw [get_normalize hsum, if_neg ha, share_eq]
  near a ha := by
    rw [get_normalize hsum, if_neg ha, share_eq]
    exact (abs_roundTo_sub_le _).trans_eq (by norm_num)
  largest a := by
    rw [← share_eq, ← share_eq]
    exact w.share_le_share_largest a
  near_largest := (abs_get_normalize_largest_sub_le hsum).trans_eq (by norm_num)
  normalize_eq := (isWhole_normalize hsum hget).normalize_eq

/-- Weights that sum to 100, four of which are half a hundredth above a whole one. -/
def fourHalves : Weights Rat := ⟨5998 / 100, 10005 / 1000, 10005 / 1000, 10005 / 1000, 10005 / 1000⟩

/-- The four are rounded up, and the first area is two whole hundredths below its exact share. -/
theorem dividesFairly_fourHalves :
    (∀ a, 0 ≤ fourHalves.get a) ∧ 0 < fourHalves.sum ∧
      fourHalves.DividesFairly fourHalves.normalize ∧
      fourHalves.exactShare fourHalves.largest - fourHalves.normalize.get fourHalves.largest =
        2 / 100 := by
  have hget : ∀ a, 0 ≤ fourHalves.get a := by
    intro a
    cases a <;> decide +kernel
  have hsum : 0 < fourHalves.sum := by decide +kernel
  exact ⟨hget, hsum, dividesFairly_normalize hget hsum, by decide +kernel⟩

end SkillAudit.Weights
