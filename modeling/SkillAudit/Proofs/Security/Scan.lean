import SkillAudit.Proofs.Finding.Order
import SkillAudit.Proofs.Security.Line
/-!
# SkillAudit.Proofs.Security.Scan

Which findings a security scan can report: those of rules about scanned lines, those about the
permissions that the front matter declares, and the one about guidance on input.
-/

namespace SkillAudit

/-- No two rules share an identifier. -/
theorem SecurityRule.id_injective : Function.Injective SecurityRule.id := by
  intro r s h
  revert h
  cases r <;> cases s <;> decide

namespace Scan

open Text

/-! ## Findings -/

/-- Whether a rule is to report a line: it is in force and matches the line in its context, and it
    is not the rule of dynamic code on a line that the rule of shell commands, being in force,
    matches too. -/
def Fires (config : SecurityConfig) (r : SecurityRule) (context : LineContext) (text : List Char) :
    Prop :=
  r ∈ SecurityRule.ofLines ∧ config.enables r.id ∧ r.accepts context text ∧
    ¬(r = .dynamicCodeExecution ∧ config.enables SecurityRule.shellInterpolation.id ∧
      SecurityRule.shellInterpolation.accepts context text)

theorem mem_matched {config : SecurityConfig} {l : Line} {r : SecurityRule} :
    r ∈ matched config l ↔
      r ∈ SecurityRule.ofLines ∧ config.enables r.id ∧ r.accepts l.context l.text := by
  rw [matched, List.mem_filter, Bool.and_eq_true]

/-- The rules that are left of those that match are the ones that are to report the line. -/
theorem mem_withoutSuperseded_matched {config : SecurityConfig} {l : Line} {r : SecurityRule} :
    r ∈ withoutSuperseded (matched config l) ↔ Fires config r l.context l.text := by
  have hshell : .shellInterpolation ∈ matched config l ↔
      config.enables SecurityRule.shellInterpolation.id ∧
        SecurityRule.shellInterpolation.accepts l.context l.text := by
    rw [mem_matched, and_iff_right (by decide)]
  rw [withoutSuperseded, List.mem_filter, mem_matched, Fires, and_assoc, and_assoc]
  refine and_congr_right fun _ => and_congr_right fun _ => and_congr_right fun _ => ?_
  by_cases hr : r = .dynamicCodeExecution
  · subst hr
    simp [SecurityRule.supersededBy?, hshell, imp_iff_not_or]
  · have hnone : r.supersededBy? = none := by
      cases r <;> first | rfl | exact absurd rfl hr
    simp [hnone, hr]

/-- The findings about a line are those of the rules that are to report it. -/
theorem mem_findingsOf {config : SecurityConfig} {l : Line} {f : Finding} :
    f ∈ findingsOf config l ↔
      ∃ r, Fires config r l.context l.text ∧ f = finding r l.file l.number l.text := by
  simp only [findingsOf, List.mem_map, mem_withoutSuperseded_matched, eq_comm]

/-- The finding on guidance is about the first line of the body that speaks of input. -/
theorem guidanceFinding?_eq_some {p : Package} {f : Finding} (h : guidanceFinding? p = some f) :
    ∃ i line, (lines p.body.toList)[i]? = some line ∧
      f = finding .promptInjectionGuidance p.manifestPath (p.bodyStartLine + i) line := by
  unfold guidanceFinding? at h
  split at h
  · cases h
  · obtain ⟨⟨n, line⟩, hfind, rfl⟩ := Option.map_eq_some_iff.mp h
    obtain ⟨i, hi, rfl⟩ := mem_numberedLines.mp (List.mem_of_find?_eq_some hfind)
    exact ⟨i, line, hi, rfl⟩

end Scan

/-- The finding on the permissions of a key names the manifest and the line of the key. -/
theorem Permission.finding?_eq_some {p : Package} {key : String} {f : Finding}
    (h : Permission.finding? p key = some f) :
    f.rule = SecurityRule.broadPermission.id ∧
      f.location = some ⟨p.manifestPath, p.frontMatter.lineOf? key⟩ := by
  unfold Permission.finding? at h
  split at h
  · cases h
  · cases h
    exact ⟨rfl, rfl⟩

namespace SecurityReport

/-- What a scan reports: findings about lines, about permissions, and about guidance. -/
theorem mem_findings {p : Package} {config : SecurityConfig} {f : Finding} :
    f ∈ (ofPackage p config).findings ↔
      (∃ l ∈ Scan.ofPackage p, f ∈ Scan.findingsOf config l) ∨
        (config.enables SecurityRule.broadPermission.id ∧
          ∃ key ∈ Permission.keys, Permission.finding? p key = some f) ∨
        config.enables SecurityRule.promptInjectionGuidance.id ∧
          Scan.guidanceFinding? p = some f := by
  simp only [ofPackage, List.mem_append, List.mem_flatMap, List.mem_ite_nil_right,
    Permission.findings, List.mem_filterMap, Option.mem_toList, or_assoc]

/-- Every finding of a scan is that of one of its rules. -/
theorem rule_of_mem_findings {p : Package} {config : SecurityConfig} {f : Finding}
    (h : f ∈ (ofPackage p config).findings) : ∃ r : SecurityRule, f.rule = r.id := by
  obtain ⟨l, -, hf⟩ | ⟨-, key, -, hf⟩ | ⟨-, hf⟩ := mem_findings.mp h
  · obtain ⟨r, -, rfl⟩ := Scan.mem_findingsOf.mp hf
    exact ⟨r, rfl⟩
  · exact ⟨.broadPermission, (Permission.finding?_eq_some hf).1⟩
  · obtain ⟨i, line, -, rfl⟩ := Scan.guidanceFinding?_eq_some hf
    exact ⟨.promptInjectionGuidance, rfl⟩

/-- The rules of the findings of scans. -/
def rules : List String := SecurityRule.all.map (·.id)

/-- What is suggested under a rule. -/
def suggest (rule : String) : Option String :=
  (SecurityRule.ofId? rule).map (·.suggestion)

theorem suggest_id (r : SecurityRule) : suggest r.id = some r.suggestion := by
  cases r <;> rfl

/-- Every finding of a scan is in the category of scans, with the suggestion of its rule. -/
theorem suggestion_of_mem {p : Package} {config : SecurityConfig} {f : Finding}
    (h : f ∈ (ofPackage p config).findings) :
    f.category = .security ∧ f.suggestion = suggest f.rule := by
  have hfinding (r : SecurityRule) (file : String) (n : Nat) (line : List Char) :
      (Scan.finding r file n line).category = .security ∧
        (Scan.finding r file n line).suggestion = suggest (Scan.finding r file n line).rule :=
    ⟨rfl, (suggest_id r).symm⟩
  obtain ⟨l, -, hf⟩ | ⟨-, key, -, hf⟩ | ⟨-, hf⟩ := mem_findings.mp h
  · obtain ⟨r, -, rfl⟩ := Scan.mem_findingsOf.mp hf
    exact hfinding r _ _ _
  · unfold Permission.finding? at hf
    split at hf
    · cases hf
    · cases hf
      exact ⟨rfl, (suggest_id .broadPermission).symm⟩
  · obtain ⟨i, line, -, rfl⟩ := Scan.guidanceFinding?_eq_some hf
    exact hfinding .promptInjectionGuidance _ _ _

theorem under_rules (p : Package) (config : SecurityConfig) :
    Finding.Under rules (ofPackage p config).findings where
  rule_mem f hf := by
    obtain ⟨r, hr⟩ := rule_of_mem_findings hf
    have hall : r ∈ SecurityRule.all := by cases r <;> decide
    rw [hr]
    exact List.mem_map_of_mem hall
  consistent := .of_rule suggest fun _ hf => suggestion_of_mem hf

end SecurityReport

end SkillAudit
