import SkillAudit.Text.Char
/-!
# SkillAudit.Proofs.Text.Char

The code points of white space are few, and none of them is that of a letter or a number.
-/

namespace SkillAudit.Text

/-- The code points of white space. -/
def blanks : List Nat :=
  [32] ++ List.range' 9 5 ++ [0x85, 0xA0, 0x1680] ++ List.range' 0x2000 11 ++
    [0x2028, 0x2029, 0x202F, 0x205F, 0x3000]

theorem isBlank_iff {c : Char} : isBlank c ↔ c.toNat ∈ blanks := by
  have hcontrol : c.toNat < 9 + 5 ↔ c.toNat ≤ 13 := Nat.lt_succ_iff
  have hspace : c.toNat < 0x2000 + 11 ↔ c.toNat ≤ 0x200A := Nat.lt_succ_iff
  simp only [isBlank, blanks, Bool.or_eq_true, Bool.and_eq_true, beq_iff_eq, decide_eq_true_eq,
    List.mem_append, List.mem_cons, List.not_mem_nil, or_false, List.mem_range'_1, hcontrol,
    hspace, or_assoc]

/-- No letter or number is white space. -/
theorem isBlank_eq_false_of_isLetterOrNumber {c : Char} (h : isLetterOrNumber c) :
    isBlank c = false := by
  have hblanks : ∀ n ∈ blanks, isLetterOrNumber (Char.ofNat n) = false := by decide +kernel
  refine Bool.eq_false_iff.mpr fun hblank => ?_
  rw [← Char.ofNat_toNat c, hblanks c.toNat (isBlank_iff.mp hblank)] at h
  cases h

end SkillAudit.Text
