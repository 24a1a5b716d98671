import Mathlib.Algebra.BigOperators.Ring.List
import Mathlib.Tactic.FieldSimp
import SkillAudit.Config.Prepare
import SkillAudit.Proofs.Number.Rounding
/-!
# SkillAudit.Proofs.Config.Normalize

Weights scaled to 100 points, in the rationals. Every share is off by at most half a hundredth, and
the largest area takes up what the rounding leaves over: the weights then sum to exactly 100 in whole
hundredths, and none of them is negative, because the largest share is far above all that can be
left over.
-/

namespace SkillAudit.Weights

open Quantity

/-! ## Sums -/

@[simp] theorem get_ofFn {β : Type} (f : Area → β) (a : Area) : (ofFn f).get a = f a := by
  cases a <;> rfl

/-- The sum of weights is that over the areas. -/
theorem sum_eq_sum_map (w : Weights Rat) : w.sum = (Area.all.map w.get).sum := by
  simp only [Area.all, List.map_cons, List.map_nil, List.sum_cons, List.sum_nil, get]
  have h : w.sum = w.structural + w.content + w.efficiency + w.security + w.style := rfl
  rw [h]
  ring

theorem mem_all (a : Area) : a ∈ Area.all := by
  cases a <;> decide

/-- A sum over the areas is one of them and the others. -/
theorem sum_map_all (f : Area → Rat) (a : Area) :
    (Area.all.map f).sum = f a + ((Area.all.filter (· != a)).map f).sum := by
  cases a <;> simp [Area.all] <;> ring

/-! ## Validity -/

theorem allNonNegative_iff {w : Weights Rat} : w.allNonNegative = true ↔ ∀ a, 0 ≤ w.get a := by
  have hfinite (x : Rat) : isFinite x = true := by
    simp only [isFinite, reading, Reading.ofRat]
    split <;> rfl
  have hle (x : Rat) : le (ofNat 0) x = true ↔ 0 ≤ x := by
    simp [le]
  simp only [allNonNegative, List.all_eq_true, hfinite, Bool.true_and, hle]
  exact ⟨fun h a => h a (mem_all a), fun h a _ => h a⟩

/-- Weights can be used as they are if none is negative and they sum to nearly 100. -/
theorem isValid_iff {w : Weights Rat} :
    w.isValid = true ↔ (∀ a, 0 ≤ w.get a) ∧ |w.sum - 100| < 1 / 1000 := by
  have habs (x : Rat) : Quantity.abs x = |x| := by
    unfold Quantity.abs
    split
    · next h => exact (abs_of_neg (of_decide_eq_true h)).symm
    · next h => exact (abs_of_nonneg (not_lt.mp fun hx => h (decide_eq_true hx))).symm
  have hbound : (fraction 1 3 : Rat) = 1 / 1000 := by decide +kernel
  rw [isValid, Bool.and_eq_true, allNonNegative_iff, habs, hbound]
  exact and_congr_right fun _ => decide_eq_true_iff

/-! ## Shares -/

/-- The shares before rounding sum to 100. -/
theorem sum_exact {w : Weights Rat} (hw : 0 < w.sum) :
    (Area.all.map fun a => w.get a * (100 / w.sum)).sum = 100 := by
  rw [List.sum_map_mul_right, ← sum_eq_sum_map]
  field_simp

/-- A share is off by at most half a hundredth. -/
theorem abs_share_sub_le (w : Weights Rat) (a : Area) :
    |w.share a - w.get a * (100 / w.sum)| ≤ 1 / 200 :=
  abs_roundTo_sub_le _

/-- The choice of the largest keeps the larger of two as it goes through the areas. -/
theorem le_foldl_larger (f : Area → Rat) (areas : List Area) (first : Area) :
    f first ≤ f (areas.foldl (fun best a => if lt (f best) (f a) then a else best) first) ∧
      ∀ a ∈ areas,
        f a ≤ f (areas.foldl (fun best a => if lt (f best) (f a) then a else best) first) := by
  induction areas generalizing first with
  | nil => exact ⟨le_refl _, nofun⟩
  | cons b areas ih =>
    have hb : f first ≤ f (if lt (f first) (f b) then b else first) ∧
        f b ≤ f (if lt (f first) (f b) then b else first) := by
      split
      · next h => exact ⟨(of_decide_eq_true h).le, le_refl _⟩
      · next h => exact ⟨le_refl _, not_lt.mp fun hx => h (decide_eq_true hx)⟩
    obtain ⟨hfirst, hrest⟩ := ih (if lt (f first) (f b) then b else first)
    refine ⟨hb.1.trans hfirst, fun a ha => ?_⟩
    obtain rfl | ha := List.mem_cons.mp ha
    · exact hb.2.trans hfirst
    · exact hrest a ha

/-- No share is larger than that of the largest area. -/
theorem share_le_share_largest (w : Weights Rat) (a : Area) : w.share a ≤ w.share w.largest := by
  obtain ⟨hfirst, hrest⟩ := le_foldl_larger w.share (Area.all.drop 1) .structural
  cases a
  · exact hfirst
  all_goals exact hrest _ (by decide)

/-! ## Scaled weights -/

/-- What the areas other than the largest one take. -/
def restOf (w : Weights Rat) : Rat := ((Area.all.filter (· != w.largest)).map w.share).sum

/-- The largest area takes what the others leave, and the others take their shares. -/
theorem get_normalize {w : Weights Rat} (hw : 0 < w.sum) (a : Area) :
    w.normalize.get a = if a = w.largest then roundTo 100 (100 - w.restOf) else w.share a := by
  have hle : le w.sum (ofNat 0) = false := decide_eq_false (not_le.mpr hw)
  rw [normalize, hle, sum_eq_sum]
  simp only [Bool.false_eq_true, if_false, get_ofFn]
  rfl

theorem isHundredths_restOf (w : Weights Rat) : IsHundredths w.restOf := by
  refine .sum fun x hx => ?_
  obtain ⟨a, -, rfl⟩ := List.mem_map.mp hx
  exact isHundredths_roundTo _

/-- What the others leave is whole hundredths, which rounding does not change. -/
theorem get_normalize_largest {w : Weights Rat} (hw : 0 < w.sum) :
    w.normalize.get w.largest = 100 - w.restOf := by
  rw [get_normalize hw, if_pos rfl]
  exact roundTo_of_isHundredths ((isHundredths_natCast 100).sub w.isHundredths_restOf)

/-- The others leave at least nothing. -/
theorem restOf_le {w : Weights Rat} (hw : 0 < w.sum) : w.restOf ≤ 100 := by
  have hexact := sum_exact hw
  have hshares := sum_map_all w.share w.largest
  simp only [Area.all, List.map_cons, List.map_nil, List.sum_cons, List.sum_nil] at hexact hshares
  have hnear (a : Area) := abs_le.mp (w.abs_share_sub_le a)
  have hlargest := w.share_le_share_largest
  have hrest : w.restOf = ((Area.all.filter (· != w.largest)).map w.share).sum := rfl
  simp only [Area.all] at hrest
  rw [← hrest] at hshares
  linarith [(hnear .structural).1, (hnear .structural).2, (hnear .content).1, (hnear .content).2,
    (hnear .efficiency).1, (hnear .efficiency).2, (hnear .security).1, (hnear .security).2,
    (hnear .style).1, (hnear .style).2, hlargest .structural, hlargest .content,
    hlargest .efficiency, hlargest .security, hlargest .style]

/-- Scaled weights are whole hundredths. -/
theorem isHundredths_normalize {w : Weights Rat} (hw : 0 < w.sum) (a : Area) :
    IsHundredths (w.normalize.get a) := by
  rw [get_normalize hw]
  split
  · exact isHundredths_roundTo _
  · exact isHundredths_roundTo _

/-- Scaled weights sum to exactly 100. -/
theorem sum_normalize {w : Weights Rat} (hw : 0 < w.sum) : w.normalize.sum = 100 := by
  have hothers : (Area.all.filter (· != w.largest)).map w.normalize.get =
      (Area.all.filter (· != w.largest)).map w.share := by
    refine List.map_congr_left fun a ha => ?_
    have hne : a ≠ w.largest := by simpa using (List.mem_filter.mp ha).2
    rw [get_normalize hw, if_neg hne]
  rw [sum_eq_sum_map, sum_map_all _ w.largest, hothers, get_normalize_largest hw]
  exact sub_add_cancel _ _

/-- Scaling makes no weight negative. -/
theorem normalize_nonneg {w : Weights Rat} (hw : 0 < w.sum) (hget : ∀ a, 0 ≤ w.get a) (a : Area) :
    0 ≤ w.normalize.get a := by
  rw [get_normalize hw]
  split
  · exact roundTo_nonneg (sub_nonneg.mpr (restOf_le hw))
  · exact roundTo_nonneg (mul_nonneg (hget a) (div_nonneg (by norm_num) hw.le))

/-- Scaled weights can be used as they are. -/
theorem isValid_normalize {w : Weights Rat} (hw : 0 < w.sum) (hget : ∀ a, 0 ≤ w.get a) :
    w.normalize.isValid = true := by
  rw [isValid_iff]
  refine ⟨normalize_nonneg hw hget, ?_⟩
  rw [sum_normalize hw, sub_self, abs_zero]
  norm_num

end SkillAudit.Weights
