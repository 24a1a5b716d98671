import SkillAudit.Reference.Resolution
/-!
# SkillAudit.Proofs.Reference.Resolution

The forms that a resolution takes. Looking up a path answers with a file or a folder; the ends of
paths answer with a file or with nothing; only a scheme leads out of the package. A target that is
not relative leads out of the package or nowhere, whatever the package holds.
-/

namespace SkillAudit

/-- A resolution without a path leads out of the package or nowhere. -/
theorem Resolution.path?_eq_none_iff {r : Resolution} :
    r.path? = none ↔ r = .external ∨ r = .broken := by
  cases r <;> simp [path?]

namespace Package

variable {p : Package} {folder target : String} {r : Resolution}

/-- What is found at a path is the file there, or the folder there. -/
theorem find?_cases {path : String} (h : p.find? path = some r) :
    r = .file path ∨ r = .folder path := by
  unfold find? at h
  split at h
  · cases h
    exact .inl rfl
  · split at h
    · cases h
      exact .inr rfl
    · cases h

/-- What is looked up is a file or a folder. -/
theorem lookUp?_cases (h : p.lookUp? folder target = some r) :
    ∃ path, r = .file path ∨ r = .folder path := by
  rw [lookUp?, Option.orElse_eq_or, Option.or_eq_some_iff] at h
  obtain hfrom | ⟨-, hroot⟩ := h
  · obtain ⟨path, -, hfind⟩ := Option.bind_eq_some_iff.mp hfrom
    exact ⟨path, find?_cases hfind⟩
  · obtain ⟨path, -, hfind⟩ := Option.bind_eq_some_iff.mp hroot
    exact ⟨path, find?_cases hfind⟩

/-- The ends of paths lead to one of the files whose paths end so, or nowhere. -/
theorem lookUpEnding_cases (p : Package) (folder target : String) :
    p.lookUpEnding folder target = .broken ∨
      ∃ first others, p.endingIn target = first :: others ∧
        p.lookUpEnding folder target = .ending first others := by
  unfold lookUpEnding
  split
  · exact .inl rfl
  · split
    · exact .inl rfl
    · next first others h => exact .inr ⟨first, others, h, rfl⟩

/-- Whether a target can be the path of something in the package: it has no scheme, is not empty,
    and does not start at the root of the system. -/
def IsRelative (target : String) : Prop :=
  Target.hasScheme target.toList = false ∧ target ≠ "" ∧ target.startsWith "/" = false

theorem resolve_of_isRelative (h : IsRelative target) :
    p.resolve folder target = (p.lookUp? folder target).getD (p.lookUpEnding folder target) := by
  obtain ⟨hscheme, hne, hroot⟩ := h
  simp [resolve, hscheme, hne, hroot]

theorem resolve_of_not_isRelative (h : ¬IsRelative target) :
    p.resolve folder target =
      if Target.hasScheme target.toList then .external else .broken := by
  unfold resolve
  split
  · rfl
  · next hscheme =>
    refine if_pos ?_
    simp only [IsRelative, hscheme] at h
    simpa [Classical.or_iff_not_imp_left] using h

/-- A target leads out of the package exactly when it carries a scheme. -/
theorem resolve_eq_external_iff :
    p.resolve folder target = .external ↔ Target.hasScheme target.toList := by
  by_cases h : IsRelative target
  · rw [resolve_of_isRelative h, h.1]
    cases hlook : p.lookUp? folder target with
    | some r => obtain ⟨path, rfl | rfl⟩ := lookUp?_cases hlook <;> simp
    | none =>
      obtain hend | ⟨first, others, -, hend⟩ := lookUpEnding_cases p folder target <;> simp [hend]
  · rw [resolve_of_not_isRelative h]
    split <;> simp [*]

end Package

end SkillAudit
