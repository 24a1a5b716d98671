import Mathlib.Data.Rat.Floor
import Mathlib.Tactic.Linarith
import Mathlib.Tactic.Positivity
import SkillAudit.Number.Quantity
/-!
# SkillAudit.Proofs.Number.Rounding

Rounding in the rationals. The nearest whole number is never more than a half away, keeps the order
and leaves whole numbers alone, and so does rounding to hundredths, at a hundredth of the scale.
Rounding at any other scale and taking the whole part as a count keep the order, too. Holding a
number in an interval and summing a list are what they are called.
-/

namespace SkillAudit.Quantity

/-! ## Whole numbers -/

/-- A whole number is a rational. -/
@[simp] theorem ofNat_rat (n : Nat) : (ofNat n : Rat) = n := rfl

/-- Below zero the nearest whole number is that of the opposite number, turned back. -/
theorem roundHalfAway_neg (x : Rat) : roundHalfAway (-x) = -roundHalfAway x := by
  obtain hx | rfl | hx := lt_trichotomy x 0
  · simp [roundHalfAway, hx, hx.le]
  · decide +kernel
  · simp [roundHalfAway, hx, hx.le]

/-- Above zero the nearest whole number is found by adding a half and dropping the rest. -/
theorem roundHalfAway_of_nonneg {x : Rat} (hx : 0 ≤ x) :
    roundHalfAway x = (⌊x + 1 / 2⌋ : Int) := by
  rw [roundHalfAway, if_neg hx.not_gt]
  rfl

/-- A whole number is its own nearest one. -/
theorem roundHalfAway_intCast (n : Int) : roundHalfAway n = n := by
  have hpos (k : Int) (hk : 0 ≤ k) : roundHalfAway k = k := by
    rw [roundHalfAway_of_nonneg (by exact_mod_cast hk), Int.floor_intCast_add]
    norm_num
  obtain hn | hn := le_total 0 n
  · exact hpos n hn
  · have h := hpos (-n) (by omega)
    rw [Int.cast_neg, roundHalfAway_neg] at h
    exact neg_injective h

/-- The nearest whole number is whole. -/
theorem exists_roundHalfAway_eq (x : Rat) : ∃ n : Int, roundHalfAway x = n := by
  unfold roundHalfAway
  split
  · exact ⟨-(-x + 1 / 2).floor, by push_cast; rfl⟩
  · exact ⟨(x + 1 / 2).floor, rfl⟩

/-- Rounding does not take a number below zero. -/
theorem roundHalfAway_nonneg {x : Rat} (hx : 0 ≤ x) : 0 ≤ roundHalfAway x := by
  rw [roundHalfAway_of_nonneg hx]
  exact_mod_cast Int.floor_nonneg.mpr (by linarith)

/-- The nearest whole number is at most a half away. -/
theorem abs_roundHalfAway_sub_le (x : Rat) : |roundHalfAway x - x| ≤ 1 / 2 := by
  have hpos (y : Rat) (hy : 0 ≤ y) : |roundHalfAway y - y| ≤ 1 / 2 := by
    rw [roundHalfAway_of_nonneg hy, abs_le]
    have hle := Int.floor_le (y + 1 / 2)
    have hlt := Int.lt_floor_add_one (y + 1 / 2)
    constructor <;> linarith
  obtain hx | hx := le_total 0 x
  · exact hpos x hx
  · have h := hpos (-x) (by linarith)
    rwa [roundHalfAway_neg, ← abs_neg, neg_sub_neg, neg_sub] at h

/-- The nearest whole number grows with the number. -/
theorem roundHalfAway_mono {x y : Rat} (h : x ≤ y) : roundHalfAway x ≤ roundHalfAway y := by
  have hpos (a b : Rat) (ha : 0 ≤ a) (hab : a ≤ b) : roundHalfAway a ≤ roundHalfAway b := by
    rw [roundHalfAway_of_nonneg ha, roundHalfAway_of_nonneg (ha.trans hab)]
    exact_mod_cast Int.floor_mono (by linarith)
  have hneg (a : Rat) (ha : a ≤ 0) : roundHalfAway a ≤ 0 := by
    have := roundHalfAway_nonneg (x := -a) (by linarith)
    rw [roundHalfAway_neg] at this
    linarith
  obtain hx | hx := le_total 0 x
  · exact hpos x y hx h
  · obtain hy | hy := le_total 0 y
    · exact (hneg x hx).trans (roundHalfAway_nonneg hy)
    · have := hpos (-y) (-x) (by linarith) (by linarith)
      rw [roundHalfAway_neg, roundHalfAway_neg] at this
      linarith

/-- Rounding at any scale keeps the order. -/
theorem roundTo_mono {scale : Nat} {x y : Rat} (h : x ≤ y) : roundTo scale x ≤ roundTo scale y := by
  have hscale : (0 : Rat) ≤ scale := Nat.cast_nonneg scale
  have hscaled := roundHalfAway_mono (mul_le_mul_of_nonneg_right h hscale)
  exact div_le_div_of_nonneg_right hscaled hscale

/-! ## Counts -/

/-- The count that a rational stands for. -/
theorem toCount_rat (x : Rat) : toCount x = min ⌊x⌋.toNat Reading.largestCount := by
  have hreading : toCount x = (Reading.ofRat x).count := rfl
  rw [hreading, Reading.ofRat]
  split
  · next hx =>
    have hfloor : ⌊x⌋ ≤ 0 := (Int.floor_lt.mpr (by simpa using hx)).le
    rw [Int.toNat_of_nonpos hfloor, Nat.zero_min]
    rfl
  · rfl

/-- A larger number stands for a larger count. -/
theorem toCount_mono {x y : Rat} (h : x ≤ y) : toCount x ≤ toCount y := by
  rw [toCount_rat, toCount_rat]
  exact min_le_min_right _ (Int.toNat_le_toNat (Int.floor_mono h))

/-! ## Hundredths -/

/-- Whether a number is a whole number of hundredths. -/
def IsHundredths (x : Rat) : Prop := ∃ n : Int, x = n / 100

/-- Rounding to hundredths is rounding a hundred times the number. -/
theorem roundTo_eq (x : Rat) : roundTo 100 x = roundHalfAway (x * 100) / 100 := rfl

/-- What is rounded is in whole hundredths. -/
theorem isHundredths_roundTo (x : Rat) : IsHundredths (roundTo 100 x) := by
  obtain ⟨n, hn⟩ := exists_roundHalfAway_eq (x * 100)
  exact ⟨n, by rw [roundTo_eq, hn]⟩

/-- Whole numbers are in whole hundredths. -/
theorem isHundredths_natCast (n : Nat) : IsHundredths n :=
  ⟨n * 100, by push_cast; ring⟩

theorem IsHundredths.add {x y : Rat} (hx : IsHundredths x) (hy : IsHundredths y) :
    IsHundredths (x + y) := by
  obtain ⟨m, rfl⟩ := hx
  obtain ⟨n, rfl⟩ := hy
  exact ⟨m + n, by push_cast; ring⟩

theorem IsHundredths.sub {x y : Rat} (hx : IsHundredths x) (hy : IsHundredths y) :
    IsHundredths (x - y) := by
  obtain ⟨m, rfl⟩ := hx
  obtain ⟨n, rfl⟩ := hy
  exact ⟨m - n, by push_cast; ring⟩

/-- Whole hundredths add up to whole hundredths. -/
theorem IsHundredths.sum {xs : List Rat} (h : ∀ x ∈ xs, IsHundredths x) : IsHundredths xs.sum := by
  induction xs with
  | nil => exact isHundredths_natCast 0
  | cons x xs ih =>
    rw [List.sum_cons]
    exact (h x List.mem_cons_self).add (ih fun y hy => h y (List.mem_cons_of_mem x hy))

/-- Whole hundredths stay as they are. -/
theorem roundTo_of_isHundredths {x : Rat} (hx : IsHundredths x) : roundTo 100 x = x := by
  obtain ⟨n, rfl⟩ := hx
  rw [roundTo_eq, div_mul_cancel₀ _ (by norm_num), roundHalfAway_intCast]

/-- Rounding to hundredths does not take a number below zero. -/
theorem roundTo_nonneg {x : Rat} (hx : 0 ≤ x) : 0 ≤ roundTo 100 x := by
  have := roundHalfAway_nonneg (x := x * 100) (by linarith)
  rw [roundTo_eq]
  positivity

/-- Rounding to hundredths moves a number by at most half of one. -/
theorem abs_roundTo_sub_le (x : Rat) : |roundTo 100 x - x| ≤ 1 / 200 := by
  have h := abs_le.mp (abs_roundHalfAway_sub_le (x * 100))
  rw [roundTo_eq, abs_le]
  constructor <;> linarith

/-- A number up to a whole number of hundredths is rounded to one up to it. -/
theorem roundTo_le {x y : Rat} (h : x ≤ y) (hy : IsHundredths y) : roundTo 100 x ≤ y :=
  (roundTo_mono h).trans_eq (roundTo_of_isHundredths hy)

/-- The whole hundredths of a number, without what is left over. -/
def wholeHundredths (x : Rat) : Rat := (⌊x * 100⌋ : Int) / 100

/-- Dropping what is left over does not take a number below zero. -/
theorem wholeHundredths_nonneg {x : Rat} (hx : 0 ≤ x) : 0 ≤ wholeHundredths x := by
  have hfloor : 0 ≤ ⌊x * 100⌋ := Int.floor_nonneg.mpr (by positivity)
  exact div_nonneg (Int.cast_nonneg hfloor) (by norm_num)

/-- What is rounded stays up to a number if it is less than half a hundredth above the whole
    hundredths of that number. -/
theorem roundTo_le_iff {x y : Rat} (hx : 0 ≤ x) :
    roundTo 100 x ≤ y ↔ x < wholeHundredths y + 1 / 200 := by
  have hscaled : 0 ≤ x * 100 := by positivity
  rw [roundTo_eq, roundHalfAway_of_nonneg hscaled, div_le_iff₀ (by norm_num), ← Int.le_floor,
    Int.floor_le_iff, wholeHundredths]
  constructor <;> intro h <;> linarith

/-! ## Intervals and sums -/

/-- What is held in an interval from zero is not below it. -/
theorem clampTo_nonneg {top : Rat} (htop : 0 ≤ top) (x : Rat) : 0 ≤ clampTo top x := by
  unfold clampTo
  split
  · exact le_refl _
  · next h =>
    split
    · exact htop
    · exact not_lt.mp fun hx => h (decide_eq_true hx)

/-- Nor is it above the top of the interval. -/
theorem clampTo_le {top : Rat} (htop : 0 ≤ top) (x : Rat) : clampTo top x ≤ top := by
  unfold clampTo
  split
  · exact htop
  · split
    · exact le_refl _
    · next h => exact not_lt.mp fun hx => h (decide_eq_true hx)

/-- Holding a number in an interval in terms of the greater and the lesser of two numbers. -/
theorem clampTo_eq_max_min {top : Rat} (htop : 0 ≤ top) (x : Rat) :
    clampTo top x = max 0 (min top x) := by
  unfold clampTo
  split
  · next h =>
    have hx : x < 0 := of_decide_eq_true h
    exact (max_eq_left ((min_le_right _ _).trans hx.le)).symm
  · next h =>
    have hx : 0 ≤ x := not_lt.mp fun hx => h (decide_eq_true hx)
    split
    · next h =>
      rw [min_eq_left (of_decide_eq_true h).le, max_eq_right htop]
    · next h =>
      rw [min_eq_right (not_lt.mp fun hlt => h (decide_eq_true hlt)), max_eq_right hx]

/-- A number in the interval stays as it is. -/
theorem clampTo_of_mem {top x : Rat} (hx : 0 ≤ x) (htop : x ≤ top) : clampTo top x = x := by
  rw [clampTo_eq_max_min (hx.trans htop), min_eq_right htop, max_eq_right hx]

/-- A larger number is held in an interval at a place as high at least. -/
theorem clampTo_mono {top x y : Rat} (htop : 0 ≤ top) (h : x ≤ y) :
    clampTo top x ≤ clampTo top y := by
  rw [clampTo_eq_max_min htop, clampTo_eq_max_min htop]
  exact max_le_max_left 0 (min_le_min_left top h)

/-- Holding a number above zero takes the greater of the two. -/
theorem atLeastZero_eq_max (x : Rat) : atLeastZero x = max 0 x := by
  unfold atLeastZero
  split
  · next h => exact (max_eq_right (of_decide_eq_true h).le).symm
  · next h => exact (max_eq_left (not_lt.mp fun hx => h (decide_eq_true hx))).symm

/-- Holding numbers above zero keeps their order. -/
theorem atLeastZero_mono {x y : Rat} (h : x ≤ y) : atLeastZero x ≤ atLeastZero y := by
  rw [atLeastZero_eq_max, atLeastZero_eq_max]
  exact max_le_max_left 0 h

/-- Adding numbers up from the left, from a zero with a sign, is their sum. -/
theorem sum_eq_sum (xs : List Rat) : sum xs = xs.sum := by
  have hfold (acc : Rat) : xs.foldl (· + ·) acc = acc + xs.sum := by
    induction xs generalizing acc with
    | nil => simp
    | cons x xs ih => rw [List.foldl_cons, ih, List.sum_cons, add_assoc]
  have hzero : (-ofNat 0 : Rat) = 0 := by decide +kernel
  exact (hfold _).trans (by rw [hzero, zero_add])

end SkillAudit.Quantity
