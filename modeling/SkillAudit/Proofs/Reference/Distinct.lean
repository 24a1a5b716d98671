import Mathlib.Data.List.Induction
import SkillAudit.Reference.Graph
/-!
# SkillAudit.Proofs.Reference.Distinct

Dropping the repetitions of citations. What is left is a sublist, that of the citations which are
the same as none in front of them, and it is left too of any part of the citations that is chosen by
something that repetitions share, such as their sources.
-/

namespace SkillAudit.Citation

/-- Citations are the same if source, line and target are. -/
theorem sameAs_iff {a b : Citation} :
    a.sameAs b ↔
      a.source = b.source ∧ a.mention.line = b.mention.line ∧
        a.mention.target = b.mention.target := by
  simp [sameAs, and_assoc]

theorem sameAs_comm (a b : Citation) : a.sameAs b = b.sameAs a := by
  rw [Bool.eq_iff_iff, sameAs_iff, sameAs_iff]
  simp only [eq_comm]

theorem any_sameAs_congr {a b : Citation} (h : a.sameAs b) (seen : List Citation) :
    seen.any a.sameAs = seen.any b.sameAs := by
  obtain ⟨hsource, hline, htarget⟩ := sameAs_iff.mp h
  have hsame : a.sameAs = b.sameAs := by
    funext c
    rw [sameAs, sameAs, hsource, hline, htarget]
  rw [hsame]

theorem distinctFrom_sublist (seen citations : List Citation) :
    (distinctFrom seen citations).Sublist citations := by
  induction citations generalizing seen with
  | nil => exact List.Sublist.slnil
  | cons c rest ih =>
    rw [distinctFrom]
    split
    · exact (ih seen).cons c
    · exact (ih (c :: seen)).cons_cons c

theorem mem_of_mem_distinct {c : Citation} {citations : List Citation}
    (h : c ∈ distinct citations) : c ∈ citations :=
  (distinctFrom_sublist [] citations).subset h

/-! ## First occurrences -/

/-- The citations that are the same as none in front of them. -/
def firsts (citations : List Citation) : List Citation :=
  (citations.zipIdx.filter fun (c, i) => !(citations.take i).any c.sameAs).map (·.1)

/-- A citation at the end is kept unless it has been seen or is the same as one in front of it. -/
theorem distinctFrom_concat (seen citations : List Citation) (c : Citation) :
    distinctFrom seen (citations ++ [c]) =
      distinctFrom seen citations ++
        if seen.any c.sameAs || citations.any c.sameAs then [] else [c] := by
  induction citations generalizing seen with
  | nil => simp [distinctFrom]
  | cons d rest ih =>
    rw [List.cons_append, distinctFrom, distinctFrom]
    split
    · next hd =>
      -- what is the same as `d` has been seen, for `d` has been
      have hseen : (seen.any c.sameAs || (d :: rest).any c.sameAs) =
          (seen.any c.sameAs || rest.any c.sameAs) := by
        by_cases hc : c.sameAs d
        · simp [any_sameAs_congr hc, hd]
        · simp [hc]
      rw [ih, hseen]
    · have hseen : ((d :: seen).any c.sameAs || rest.any c.sameAs) =
          (seen.any c.sameAs || (d :: rest).any c.sameAs) := by
        rw [List.any_cons, List.any_cons, Bool.or_assoc, Bool.or_left_comm]
      rw [ih, hseen, List.cons_append]

theorem firsts_concat (citations : List Citation) (c : Citation) :
    firsts (citations ++ [c]) =
      firsts citations ++ if citations.any c.sameAs then [] else [c] := by
  have hbefore : citations.zipIdx.filter
        (fun (d, i) => !((citations ++ [c]).take i).any d.sameAs) =
      citations.zipIdx.filter fun (d, i) => !(citations.take i).any d.sameAs := by
    refine List.filter_congr fun ⟨d, i⟩ hd => ?_
    have hi : i ≤ citations.length := by
      have hlt := (List.mem_zipIdx hd).2.1
      omega
    simp only [List.take_append_of_le_length hi]
  have hlast : (citations ++ [c]).take (0 + citations.length) = citations := by
    rw [Nat.zero_add, List.take_left]
  rw [firsts, List.zipIdx_append, List.filter_append, hbefore, List.map_append, firsts,
    List.zipIdx_singleton, List.filter_cons, List.filter_nil]
  simp only [hlast]
  cases citations.any c.sameAs <;> rfl

/-- What is left are the first occurrences. -/
theorem distinct_eq_firsts (citations : List Citation) : distinct citations = firsts citations := by
  induction citations using List.reverseRecOn with
  | nil => rfl
  | append_singleton citations c ih =>
    rw [firsts_concat, ← ih]
    exact distinctFrom_concat [] citations c

/-! ## Parts -/

section

variable {q : Citation → Bool} (hq : ∀ a b, a.sameAs b → q a = q b)

include hq

/-- Only citations of the same part are repetitions of one of it. -/
theorem any_sameAs_filter (seen : List Citation) {c : Citation} (hc : q c) :
    (seen.filter q).any c.sameAs = seen.any c.sameAs := by
  rw [List.any_filter]
  congr 1
  funext d
  cases hsame : c.sameAs d with
  | false => rw [Bool.and_false]
  | true => rw [← hq c d hsame, hc, Bool.and_true]

/-- Choosing a part and dropping repetitions can be done in either order. -/
theorem distinctFrom_filter (seen citations : List Citation) :
    (distinctFrom seen citations).filter q =
      distinctFrom (seen.filter q) (citations.filter q) := by
  induction citations generalizing seen with
  | nil => rfl
  | cons c rest ih =>
    by_cases hc : q c
    · rw [List.filter_cons_of_pos hc, distinctFrom, distinctFrom, any_sameAs_filter hq seen hc]
      split
      · exact ih seen
      · rw [List.filter_cons_of_pos hc, ih, List.filter_cons_of_pos hc]
    · rw [List.filter_cons_of_neg hc, distinctFrom]
      split
      · exact ih seen
      · rw [List.filter_cons_of_neg hc, ih, List.filter_cons_of_neg hc]

theorem distinct_filter (citations : List Citation) :
    (distinct citations).filter q = distinct (citations.filter q) :=
  distinctFrom_filter hq [] citations

end

/-! ## Changes -/

/-- Renaming citations without making any the same commutes with dropping repetitions. -/
theorem distinctFrom_map {φ : Citation → Citation} (hφ : ∀ a b, (φ a).sameAs (φ b) = a.sameAs b)
    (seen citations : List Citation) :
    distinctFrom (seen.map φ) (citations.map φ) = (distinctFrom seen citations).map φ := by
  induction citations generalizing seen with
  | nil => rfl
  | cons c rest ih =>
    have hany : (seen.map φ).any (φ c).sameAs = seen.any c.sameAs := by
      rw [List.any_map]
      exact congrArg seen.any (funext fun d => hφ c d)
    rw [List.map_cons, distinctFrom, distinctFrom, hany, ih, ← List.map_cons, ih]
    split
    · rfl
    · rw [List.map_cons]

/-- Only what has been seen decides what is dropped, and only of the citations to come. -/
theorem distinctFrom_congr {seen seen' citations : List Citation}
    (h : ∀ c ∈ citations, seen.any c.sameAs = seen'.any c.sameAs) :
    distinctFrom seen citations = distinctFrom seen' citations := by
  induction citations generalizing seen seen' with
  | nil => rfl
  | cons c rest ih =>
    have hrest : ∀ d ∈ rest, seen.any d.sameAs = seen'.any d.sameAs := fun d hd =>
      h d (List.mem_cons_of_mem c hd)
    have hnext : ∀ d ∈ rest, (c :: seen).any d.sameAs = (c :: seen').any d.sameAs := by
      intro d hd
      rw [List.any_cons, List.any_cons, hrest d hd]
    rw [distinctFrom, distinctFrom, h c List.mem_cons_self, ih hrest, ih hnext]

/-- Citations are read on with the ones in front of them seen. -/
theorem exists_distinctFrom_append (seen xs : List Citation) :
    ∃ seen', (∀ d ∈ seen', d ∈ seen ∨ d ∈ xs) ∧
      ∀ ys, distinctFrom seen (xs ++ ys) = distinctFrom seen xs ++ distinctFrom seen' ys := by
  induction xs generalizing seen with
  | nil => exact ⟨seen, fun d hd => .inl hd, fun ys => rfl⟩
  | cons c xs ih =>
    by_cases hc : seen.any c.sameAs
    · obtain ⟨seen', hseen, happend⟩ := ih seen
      refine ⟨seen', fun d hd => (hseen d hd).imp_right (List.mem_cons_of_mem c), fun ys => ?_⟩
      rw [List.cons_append, distinctFrom, if_pos hc, distinctFrom, if_pos hc, happend]
    · obtain ⟨seen', hseen, happend⟩ := ih (c :: seen)
      refine ⟨seen', fun d hd => ?_, fun ys => ?_⟩
      · obtain hd | hd := hseen d hd
        · obtain rfl | hd := List.mem_cons.mp hd
          · exact .inr List.mem_cons_self
          · exact .inl hd
        · exact .inr (List.mem_cons_of_mem c hd)
      · rw [List.cons_append, distinctFrom, if_neg hc, distinctFrom, if_neg hc, happend,
          List.cons_append]

/-- A citation that is put between others and is the same as none of them changes nothing about
    them. -/
theorem exists_distinct_cons {c : Citation} {xs ys : List Citation}
    (h : ∀ d ∈ xs ++ ys, ¬d.sameAs c) :
    ∃ before behind, distinct (xs ++ ys) = before ++ behind ∧
      distinct (xs ++ c :: ys) = before ++ c :: behind := by
  obtain ⟨seen, hseen, happend⟩ := exists_distinctFrom_append [] xs
  refine ⟨distinctFrom [] xs, distinctFrom seen ys, happend ys, ?_⟩
  have hfresh : ¬seen.any c.sameAs := by
    intro hany
    obtain ⟨d, hd, hsame⟩ := List.any_eq_true.mp hany
    rw [sameAs_comm] at hsame
    obtain hd | hd := hseen d hd
    · cases hd
    · exact h d (List.mem_append_left ys hd) hsame
  have hbehind : distinctFrom (c :: seen) ys = distinctFrom seen ys := by
    refine distinctFrom_congr fun d hd => ?_
    have hne : d.sameAs c = false := Bool.eq_false_iff.mpr (h d (List.mem_append_right xs hd))
    rw [List.any_cons, hne, Bool.false_or]
  rw [distinct, happend, distinctFrom, if_neg hfresh, hbehind]

end SkillAudit.Citation
