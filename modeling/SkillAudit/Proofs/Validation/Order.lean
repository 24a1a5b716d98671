import SkillAudit.Proofs.Budget
import SkillAudit.Proofs.Check.Basic
import SkillAudit.Proofs.Package.Notes
import SkillAudit.Proofs.Reference.Message
import SkillAudit.Proofs.Security.Scan
import SkillAudit.Validation
/-!
# SkillAudit.Proofs.Validation.Order

The findings of a report do not depend on the order in which the analyzers end. Each analyzer has
its own rules, and under each rule the message decides category and suggestion; so the order of
reports, which looks at neither, leaves no two different findings of a package undecided. Of the
security findings alone a report shows what sorting these alone gives.
-/

namespace SkillAudit

variable {α : Type} [Quantity α]

namespace Analysis

omit [Quantity α] in
/-- No two analyzers share a rule. -/
theorem nodup_rules :
    (ReferenceGraph.rules ++ SecurityReport.rules ++ BudgetReport.rules ++
      (Check.all : List (Check α)).map (·.name)).Nodup := by
  rw [Check.map_name_all]
  decide +kernel

/-- Findings of a package that say the same thing suggest the same thing. -/
theorem consistent_findings (config : Config α) (p : Package) :
    Finding.Consistent (Analysis.of config p).findings := by
  have hnodup := nodup_rules (α := α)
  have hrest := (List.nodup_append.mp hnodup).1
  have hlines := (ReferenceGraph.under_rules p config.references).append
    (SecurityReport.under_rules p config.security) (List.nodup_append.mp hrest).1
  have hfiles := hlines.append (BudgetReport.under_rules p config.budget) hrest
  exact (hfiles.append (Check.under_names p config) hnodup).consistent

/-- The findings in the category of scans are those of the scan. -/
theorem filter_security (config : Config α) (p : Package) :
    ((Analysis.of config p).findings.filter fun f => f.category = .security) =
      (SecurityReport.ofPackage p config.security).findings := by
  have hother {fs : List Finding} (h : ∀ f ∈ fs, f.category ≠ .security) :
      (fs.filter fun f => f.category = .security) = [] :=
    List.filter_eq_nil_iff.mpr fun f hf => by simpa using h f hf
  have hreferences : ∀ f ∈ (ReferenceGraph.ofPackage p config.references).findings,
      f.category ≠ .security := fun f hf => by
    rw [(ReferenceGraph.rule_and_category_of_mem hf).2]
    decide
  have hbudget : ∀ f ∈ (BudgetReport.ofPackage p config.budget).findings,
      f.category ≠ .security := fun f hf => by
    rw [(BudgetReport.suggestion_of_mem hf).1]
    decide
  have hsecurity : ((SecurityReport.ofPackage p config.security).findings.filter
      fun f => f.category = .security) = (SecurityReport.ofPackage p config.security).findings :=
    List.filter_eq_self.mpr fun f hf => by simp [(SecurityReport.suggestion_of_mem hf).1]
  simp only [Analysis.of, findings, List.filter_append, hother hreferences, hother hbudget,
    hother fun f hf => Check.category_ne_security hf, hsecurity, List.nil_append, List.append_nil]

/-- However the findings of the analyzers are mixed, sorting gives the list of the report. -/
theorem sort_eq_sort_of_perm (config : Config α) (p : Package) {found : List Finding}
    (h : found.Perm (Analysis.of config p).findings) :
    Finding.sort found = Finding.sort (Analysis.of config p).findings :=
  (consistent_findings config p).sort_eq_sort h

/-- The security findings of a report stand in it as they do in a scan of their own. -/
theorem filter_security_sort (config : Config α) (p : Package) :
    ((Report.of config p).findings.filter fun f => f.category = .security) =
      Finding.sort (SecurityReport.ofPackage p config.security).findings := by
  rw [← filter_security]
  exact (consistent_findings config p).filter_sort _

/-! ### Analyzers that end in reverse -/

/-- A package whose manifest names a file by the end of two paths, and lacks what it should have. -/
def twinNotes : Package :=
  .notes .named "See `guide.md`.\n" [("new/guide.md", ""), ("old/guide.md", "")]

/-- Its findings, the last analyzer first. -/
def reversedTwins : List Finding :=
  let a := Analysis.of (Config.default : Config Rat) twinNotes
  a.checks ++ (a.budget.findings ++ (a.security.findings ++ a.references.findings))

theorem sort_reversedTwins :
    reversedTwins ≠ (Analysis.of (Config.default : Config Rat) twinNotes).findings ∧
      Finding.sort reversedTwins =
        Finding.sort (Analysis.of (Config.default : Config Rat) twinNotes).findings := by
  have hne : reversedTwins ≠ (Analysis.of (Config.default : Config Rat) twinNotes).findings := by
    decide +kernel
  have hperm : reversedTwins.Perm (Analysis.of (Config.default : Config Rat) twinNotes).findings := by
    refine List.perm_append_comm.trans (.append_right _ ?_)
    refine List.perm_append_comm.trans (.append_right _ ?_)
    exact List.perm_append_comm
  exact ⟨hne, sort_eq_sort_of_perm Config.default twinNotes hperm⟩

end Analysis

end SkillAudit
