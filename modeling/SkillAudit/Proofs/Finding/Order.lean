import SkillAudit.Finding
/-!
# SkillAudit.Proofs.Finding.Order

The order of reports is a total preorder, so that sorting by it gives a sorted permutation and
loses, adds and repeats nothing. It looks at neither category nor suggestion: where these follow
from rule and message, findings that it does not tell apart are the same, and so the sorted list
depends on what is reported alone, and not on the order in which it comes.
-/

namespace SkillAudit

/-- No two severities share a place in the order. -/
theorem Severity.rank_injective : Function.Injective Severity.rank := by
  intro s t h
  cases s <;> cases t <;> first | rfl | cases h

namespace Finding

/-! ## Comparisons -/

/-- Missing values in front: the order that core gives optional values. -/
theorem compareOption_eq_compare {α : Type} [Ord α] (a b : Option α) :
    compareOption compare a b = compare a b := by
  cases a <;> cases b <;> rfl

/-- The order of reports as a chain of comparisons, the later ones deciding ties. -/
theorem reportOrder_eq_compareLex :
    reportOrder =
      compareLex (compareLex (compareLex (compareLex
        (fun a b => compare b.severity.rank a.severity.rank)
        (compareOn file?)) (compareOn line?)) (compareOn rule)) (compareOn message) := by
  funext a b
  simp only [reportOrder, compareOption_eq_compare]
  rfl

/-- By severity the graver finding comes first. -/
instance : Std.TransCmp fun a b : Finding => compare b.severity.rank a.severity.rank :=
  inferInstanceAs (Std.TransCmp fun a b => compareOn (fun f : Finding => f.severity.rank) b a)

instance : Std.TransCmp reportOrder := by
  rw [reportOrder_eq_compareLex]
  infer_instance

/-! ## Sorting -/

/-- Nothing is lost, added or repeated. -/
theorem sort_perm (findings : List Finding) : (sort findings).Perm findings :=
  List.mergeSort_perm _ _

/-- No finding stands behind one that it should stand in front of. -/
theorem pairwise_sort (findings : List Finding) :
    (sort findings).Pairwise fun a b => (reportOrder a b).isLE := by
  have hle (a b : Finding) : (reportOrder a b != .gt) = (reportOrder a b).isLE := by
    cases reportOrder a b <;> rfl
  simp only [sort, hle]
  refine List.pairwise_mergeSort ?_ ?_ findings
  · intro a b c hab hbc
    exact Std.TransCmp.isLE_trans hab hbc
  · intro a b
    have hswap : reportOrder b a = (reportOrder a b).swap := Std.OrientedCmp.eq_swap
    rw [hswap]
    cases reportOrder a b <;> rfl

/-! ## Ties -/

/-- The place of a finding is made up of its file and its line. -/
theorem location_eq_iff {f g : Finding} :
    f.location = g.location ↔ f.file? = g.file? ∧ f.line? = g.line? := by
  refine ⟨fun h => by rw [file?, line?, h]; exact ⟨rfl, rfl⟩, fun ⟨hfile, hline⟩ => ?_⟩
  rw [file?, file?] at hfile
  rw [line?, line?] at hline
  cases hf : f.location with
  | none => cases hg : g.location <;> simp_all
  | some a =>
    cases hg : g.location with
    | none => simp_all
    | some b =>
      cases a
      cases b
      simp_all

/-- The order does not tell two findings apart exactly when severity, place, rule and message are the
    same. -/
theorem reportOrder_eq_eq {f g : Finding} :
    reportOrder f g = .eq ↔
      f.severity = g.severity ∧ f.location = g.location ∧ f.rule = g.rule ∧
        f.message = g.message := by
  simp only [reportOrder, compareOption_eq_compare, Ordering.then_eq_eq,
    Std.LawfulEqCmp.compare_eq_iff_eq, location_eq_iff, Severity.rank_injective.eq_iff, and_assoc,
    eq_comm (a := g.severity)]

/-! ## Consistent findings -/

/-- Whether rule and message decide category and suggestion among some findings. -/
def Consistent (findings : List Finding) : Prop :=
  ∀ f ∈ findings, ∀ g ∈ findings, f.rule = g.rule → f.message = g.message →
    f.category = g.category ∧ f.suggestion = g.suggestion

variable {xs ys : List Finding}

/-- Findings that the order does not tell apart are the same. -/
theorem Consistent.eq_of_reportOrder (h : Consistent xs) {f g : Finding} (hf : f ∈ xs) (hg : g ∈ xs)
    (heq : reportOrder f g = .eq) : f = g := by
  obtain ⟨hseverity, hlocation, hrule, hmessage⟩ := reportOrder_eq_eq.mp heq
  obtain ⟨hcategory, hsuggestion⟩ := h f hf g hg hrule hmessage
  cases f
  cases g
  simp_all

/-- Findings of one category whose suggestions follow from their rules. -/
theorem Consistent.of_rule {category : Category} (suggest : String → Option String)
    (h : ∀ f ∈ xs, f.category = category ∧ f.suggestion = suggest f.rule) : Consistent xs := by
  intro f hf g hg hrule _
  refine ⟨(h f hf).1.trans (h g hg).1.symm, ?_⟩
  rw [(h f hf).2, (h g hg).2, hrule]

theorem Consistent.subset (h : Consistent ys) (hsub : xs ⊆ ys) : Consistent xs :=
  fun f hf g hg => h f (hsub hf) g (hsub hg)

/-- Findings under some rules, whose messages decide category and suggestion. -/
structure Under (rules : List String) (findings : List Finding) : Prop where
  rule_mem : ∀ f ∈ findings, f.rule ∈ rules
  consistent : Consistent findings

/-- Findings under different rules have nothing to agree on. -/
theorem Under.append {rs ss : List String} (hx : Under rs xs) (hy : Under ss ys)
    (hrules : (rs ++ ss).Nodup) : Under (rs ++ ss) (xs ++ ys) where
  rule_mem f hf := by
    obtain hf | hf := List.mem_append.mp hf
    · exact List.mem_append_left ss (hx.rule_mem f hf)
    · exact List.mem_append_right rs (hy.rule_mem f hf)
  consistent := by
    have hne : ∀ f ∈ xs, ∀ g ∈ ys, f.rule ≠ g.rule := fun f hf g hg =>
      (List.nodup_append.mp hrules).2.2 _ (hx.rule_mem f hf) _ (hy.rule_mem g hg)
    intro f hf g hg hrule
    obtain hf | hf := List.mem_append.mp hf <;> obtain hg | hg := List.mem_append.mp hg
    · exact hx.consistent f hf g hg hrule
    · exact absurd hrule (hne f hf g hg)
    · exact absurd hrule.symm (hne g hg f hf)
    · exact hy.consistent f hf g hg hrule

/-! ## Sorting consistent findings -/

/-- Two lists in order that hold the same findings are the same. -/
theorem Consistent.eq_of_perm (h : Consistent xs)
    (hx : xs.Pairwise fun a b => (reportOrder a b).isLE)
    (hy : ys.Pairwise fun a b => (reportOrder a b).isLE) (hperm : xs.Perm ys) : xs = ys := by
  refine List.Perm.eq_of_pairwise (fun f g hf hg hfg hgf => ?_) hx hy hperm
  exact h.eq_of_reportOrder hf (hperm.mem_iff.mpr hg) (Std.OrientedCmp.isLE_antisymm hfg hgf)

/-- The sorted list does not depend on the order in which the findings come. -/
theorem Consistent.sort_eq_sort (h : Consistent ys) (hperm : xs.Perm ys) : sort xs = sort ys := by
  have hsorted : (sort xs).Perm (sort ys) :=
    (sort_perm xs).trans (hperm.trans (sort_perm ys).symm)
  have hx : Consistent (sort xs) := h.subset fun f hf =>
    hperm.mem_iff.mp ((sort_perm xs).mem_iff.mp hf)
  exact hx.eq_of_perm (pairwise_sort xs) (pairwise_sort ys) hsorted

/-- Sorting some of the findings gives what sorting all of them gives of these. -/
theorem Consistent.filter_sort (h : Consistent xs) (p : Finding → Bool) :
    (sort xs).filter p = sort (xs.filter p) := by
  have hperm : ((sort xs).filter p).Perm (sort (xs.filter p)) :=
    ((sort_perm xs).filter p).trans (sort_perm (xs.filter p)).symm
  have hx : Consistent ((sort xs).filter p) := h.subset fun f hf =>
    (sort_perm xs).mem_iff.mp ((List.mem_filter.mp hf).1)
  exact hx.eq_of_perm ((pairwise_sort xs).filter p) (pairwise_sort _) hperm

end Finding

end SkillAudit
