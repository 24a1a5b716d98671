import SkillAudit.Proofs.Budget
import SkillAudit.Proofs.Check.Basic
import SkillAudit.Proofs.Finding.Order
import SkillAudit.Proofs.Reference.Graph
import SkillAudit.Proofs.Score.Bounds
import SkillAudit.Proofs.Security.Scan
import SkillAudit.Validation
/-!
# SkillAudit.Proofs.Validation.Accounting

The books of a report: the findings of the analyzers all arrive in it, in order and once each; the
summary counts every one of them under its severity; the score charges every one of them to one
area; and the graph has as many broken edges as the report has broken references.
-/

namespace SkillAudit

open Quantity (ofNat)

/-! ## The summary -/

namespace Summary

/-- How many findings of a severity a summary counts. -/
def count (s : Summary) : Severity → Nat
  | .critical => s.critical
  | .high => s.high
  | .medium => s.medium
  | .low => s.low
  | .info => s.info

theorem count_of (findings : List Finding) (severity : Severity) :
    (Summary.of findings).count severity = findings.countP (·.severity == severity) := by
  cases severity <;> rfl

/-- Every finding is counted under one severity. -/
theorem add_counts_of (findings : List Finding) :
    let s := Summary.of findings
    s.critical + s.high + s.medium + s.low + s.info = findings.length := by
  simp only [Summary.of]
  induction findings with
  | nil => rfl
  | cons f fs ih =>
    simp only [List.countP_cons, List.length_cons]
    cases f.severity <;> simp <;> omega

end Summary

/-! ## The score -/

namespace AreaScore

/-- The findings of all areas are the findings charged, each one once. -/
theorem flatMap_findingsIn_perm (findings : List Finding) :
    (Area.byName.flatMap fun area => findingsIn area findings).Perm findings := by
  rw [List.perm_iff_count]
  intro f
  have hcount (area : Area) : (findingsIn area findings).count f =
      if Area.ofCategory f.category = area then findings.count f else 0 := by
    split
    · next harea => exact List.count_filter (by simpa using harea)
    · next harea =>
      rw [List.count_eq_zero, findingsIn, List.mem_filter]
      simp [harea]
  simp only [Area.byName, List.flatMap_cons, List.flatMap_nil, List.count_append, List.count_nil,
    hcount]
  cases Area.ofCategory f.category <;> simp

end AreaScore

namespace Quality

variable {α : Type} [Quantity α]

theorem area?_of (config : Config α) (p : Package) (findings : List Finding) (area : Area) :
    ∃ band, (Quality.of config p findings).area? area =
      some (AreaScore.of config.scoring band findings area) :=
  ⟨_, area?_eq_of config p findings area⟩

end Quality

/-! ## Broken references -/

/-- No rule for security is that of broken references. -/
theorem SecurityRule.id_ne_brokenReference (r : SecurityRule) : r.id ≠ "broken-reference" := by
  cases r <;> decide

namespace Analysis

variable {α : Type} [Quantity α]

/-- Only the analysis of references reports broken references. -/
theorem countP_brokenReference (config : Config α) (p : Package) :
    (Analysis.of config p).findings.countP (·.rule == "broken-reference") =
      (ReferenceGraph.ofPackage p config.references).brokenCount := by
  have hsecurity : (SecurityReport.ofPackage p config.security).findings.countP
      (·.rule == "broken-reference") = 0 := by
    rw [List.countP_eq_zero]
    intro f hf
    obtain ⟨r, hr⟩ := SecurityReport.rule_of_mem_findings hf
    simpa [hr] using r.id_ne_brokenReference
  have hbudget : (BudgetReport.ofPackage p config.budget).findings.countP
      (·.rule == "broken-reference") = 0 := by
    rw [List.countP_eq_zero]
    intro f hf heq
    have hrule := (BudgetReport.isReported_of_mem hf).rule_mem
    rw [beq_iff_eq.mp heq] at hrule
    exact absurd hrule (by decide)
  have hchecks : (Check.findingsOf Check.all p config).countP
      (·.rule == "broken-reference") = 0 := by
    rw [List.countP_eq_zero]
    intro f hf heq
    obtain ⟨c, hc, r, -, rfl⟩ := Check.mem_findingsOf.mp hf
    have hname : c.name ∈ (Check.all : List (Check α)).map (·.name) := List.mem_map_of_mem hc
    have hrule : c.name = "broken-reference" := beq_iff_eq.mp heq
    rw [hrule, Check.map_name_all] at hname
    exact absurd hname (by decide)
  simp only [Analysis.of, findings, List.countP_append, hsecurity, hbudget, hchecks, Nat.add_zero]
  exact (ReferenceGraph.brokenCount_ofPackage p config.references).symm

end Analysis

/-! ## The report -/

namespace Report

variable {α : Type} [Quantity α]

/-- An area is charged with the findings of its categories, in the order of the report, and with
    the sum of their penalties. -/
structure Charges (r : Report α) (penalties : Penalties α) (s : AreaScore α) : Prop where
  findings_eq : s.findings =
    (r.findings.filter fun f => Area.ofCategory f.category = s.area).map (·.id)
  deductions_eq : s.deductions =
    ((r.findings.filter fun f => Area.ofCategory f.category = s.area).map
      fun f => penalties.get f.severity).foldl (· + ·) (ofNat 0)

/-- What it means for a report to lose, repeat and mischarge nothing of what the analyzers find in
    a package. -/
structure Accounts (r : Report α) (config : Config α) (p : Package) : Prop where
  /-- The findings are those of the analyzers, each as often as it is found. -/
  perm : r.findings.Perm
    ((ReferenceGraph.ofPackage p config.references).findings ++
      (SecurityReport.ofPackage p config.security).findings ++
      (BudgetReport.ofPackage p config.budget).findings ++
      Check.findingsOf Check.all p config)
  sorted : r.findings.Pairwise fun a b => (Finding.reportOrder a b).isLE
  total_eq : r.summary.total = r.findings.length
  /-- The counts of the five severities add up to the total. -/
  add_counts : r.summary.critical + r.summary.high + r.summary.medium + r.summary.low +
    r.summary.info = r.summary.total
  count_eq : ∀ severity, r.summary.count severity = r.findings.countP (·.severity == severity)
  /-- Each of the five areas has its score. -/
  area : ∀ area, ∃ s, r.score.area? area = some s ∧ s.area = area ∧
    r.Charges config.scoring.penalties s
  /-- The areas are charged with every finding once. -/
  charged : (r.score.areas.flatMap (·.findings)).Perm (r.findings.map (·.id))
  broken_eq : r.references.brokenCount = r.findings.countP (·.rule == "broken-reference")

theorem charged_of (config : Config α) (p : Package) :
    ((Report.of config p).score.areas.flatMap (·.findings)).Perm
      ((Report.of config p).findings.map (·.id)) := by
  have hareas : (Report.of config p).score.areas.flatMap (·.findings) =
      (Area.byName.flatMap fun area =>
        AreaScore.findingsIn area (Report.of config p).findings).map (·.id) := by
    rw [List.map_flatMap]
    rfl
  rw [hareas]
  exact (AreaScore.flatMap_findingsIn_perm _).map _

/-- The report on a package loses, repeats and mischarges nothing. -/
theorem accounts_of (config : Config α) (p : Package) : (Report.of config p).Accounts config p where
  perm := Finding.sort_perm _
  sorted := Finding.pairwise_sort _
  total_eq := rfl
  add_counts := Summary.add_counts_of _
  count_eq := Summary.count_of _
  area := by
    intro area
    obtain ⟨band, hband⟩ := Quality.area?_of config p (Report.of config p).findings area
    refine ⟨_, hband, rfl, rfl, ?_⟩
    rw [List.foldl_map]
    rfl
  charged := charged_of config p
  broken_eq := by
    have hperm : (Report.of config p).findings.Perm (Analysis.of config p).findings :=
      Finding.sort_perm _
    rw [hperm.countP_eq]
    exact (Analysis.countP_brokenReference config p).symm

end Report

namespace Request

variable {α : Type} [Quantity α]

/-- A request is answered with a report exactly when its settings are in order and its package
    loads, and then with the report on that package. -/
theorem run_eq_ok {top : FileTree} {r : Request α} {report : Report α} :
    r.run top = .ok report ↔
      ∃ config p, r.settings top = .ok config ∧
        Package.load top r.root config.budget.priorities = .ok p ∧ report = .of config p := by
  unfold run
  constructor
  · intro h
    split at h
    · cases h
    · next config hconfig =>
      split at h
      · cases h
      · next p hp =>
        cases h
        exact ⟨config, p, hconfig, hp, rfl⟩
  · rintro ⟨config, p, hconfig, hp, rfl⟩
    simp only [hconfig, hp]

end Request

end SkillAudit
