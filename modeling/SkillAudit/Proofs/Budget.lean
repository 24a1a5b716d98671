import SkillAudit.Budget
import SkillAudit.Proofs.Finding.Order
/-!
# SkillAudit.Proofs.Budget

What the analysis of budgets reports: findings about files as a whole, under four rules, each of
which has its suggestion or none.
-/

namespace SkillAudit.BudgetReport

variable {α : Type} [Quantity α]

/-- The rules of the findings about budgets. -/
def rules : List String :=
  ["budget-warning", "budget-violation", "reference-budget-exceeded", "manifest-too-long"]

/-- A finding about a file is about its size. -/
theorem rule_of_result {results : List (BudgetResult α)} {f : Finding}
    (h : f ∈ results.filterMap (·.finding?)) :
    f.rule = "budget-warning" ∨ f.rule = "budget-violation" := by
  obtain ⟨r, -, hr⟩ := List.mem_filterMap.mp h
  unfold BudgetResult.finding? at hr
  split at hr
  · cases hr
  · cases hr
    exact .inl rfl
  · cases hr
    exact .inr rfl

/-- A finding about the target names the rule for it. -/
theorem rule_of_target {p : Package} {config : BudgetConfig α} {paid : α} {target : Option α}
    {f : Finding} (h : f ∈ (target.bind (targetFinding? p config paid)).toList) :
    f.rule = "reference-budget-exceeded" := by
  obtain ⟨t, -, ht⟩ := Option.bind_eq_some_iff.mp (Option.mem_toList.mp h)
  unfold targetFinding? at ht
  split at ht
  · cases ht
    rfl
  · cases ht

omit [Quantity α] in
/-- A finding about the manifest names the rule for its length. -/
theorem rule_of_length {p : Package} {config : BudgetConfig α} {f : Finding}
    (h : f ∈ (lengthFinding? p config).toList) : f.rule = "manifest-too-long" := by
  obtain ⟨⟨severity, limit⟩, -, rfl⟩ := Option.map_eq_some_iff.mp (Option.mem_toList.mp h)
  rfl

/-- There is one result for each file with a budget. -/
theorem results_ofPackage (p : Package) (config : BudgetConfig α) :
    (ofPackage p config).results = p.budgetedFiles.map fun f =>
      config.evaluate f.path f.tier f.lineCount (p.tokensOf f) := rfl

/-- The findings about files, about the declared number of tokens and about the length of the
    manifest stand one behind the other. -/
theorem findings_ofPackage (p : Package) (config : BudgetConfig α) :
    (ofPackage p config).findings =
      (ofPackage p config).results.filterMap (·.finding?) ++
        ((ofPackage p config).tokenTarget.bind
          (targetFinding? p config (ofPackage p config).paidTokens)).toList ++
        (lengthFinding? p config).toList := rfl

/-- A finding about budgets is about the manifest or another file of the package, without a line. -/
structure IsReported (p : Package) (f : Finding) : Prop where
  rule_mem : f.rule ∈ rules
  location_eq : ∃ path, f.location = some ⟨path, none⟩ ∧
    (path = p.manifestPath ∨ ∃ g ∈ p.files, g.path = path)

/-- A finding about a file is reported at the file. -/
theorem isReported_result {p : Package} {config : BudgetConfig α} {g : PackageFile} {f : Finding}
    {lines tokens : Nat} (hg : g ∈ p.files)
    (h : (config.evaluate g.path g.tier lines tokens).finding? = some f) : IsReported p f := by
  unfold BudgetResult.finding? at h
  split at h
  · cases h
  · cases h
    exact ⟨by simp [rules, BudgetResult.finding], g.path, rfl, .inr ⟨g, hg, rfl⟩⟩
  · cases h
    exact ⟨by simp [rules, BudgetResult.finding], g.path, rfl, .inr ⟨g, hg, rfl⟩⟩

/-- A finding about the target is reported at the manifest. -/
theorem isReported_target {p : Package} {config : BudgetConfig α} {paid target : α} {f : Finding}
    (h : targetFinding? p config paid target = some f) : IsReported p f := by
  unfold targetFinding? at h
  split at h
  · cases h
    exact ⟨by simp [rules], p.manifestPath, rfl, .inl rfl⟩
  · cases h

omit [Quantity α] in
/-- So is one about its length. -/
theorem isReported_length {p : Package} {config : BudgetConfig α} {f : Finding}
    (h : lengthFinding? p config = some f) : IsReported p f := by
  obtain ⟨⟨severity, limit⟩, -, rfl⟩ := Option.map_eq_some_iff.mp h
  exact ⟨by simp [rules], p.manifestPath, rfl, .inl rfl⟩

/-- Every finding about budgets is of this kind. -/
theorem isReported_of_mem {p : Package} {config : BudgetConfig α} {f : Finding}
    (h : f ∈ (ofPackage p config).findings) : IsReported p f := by
  simp only [ofPackage, List.mem_append, List.mem_filterMap, List.mem_map, Option.mem_toList] at h
  obtain (⟨r, ⟨g, hg, rfl⟩, hf⟩ | hf) | hf := h
  · exact isReported_result (List.mem_filter.mp hg).1 hf
  · obtain ⟨target, -, hf⟩ := Option.bind_eq_some_iff.mp hf
    exact isReported_target hf
  · exact isReported_length hf

/-! ## Suggestions -/

/-- What is suggested under a rule. -/
def suggest (rule : String) : Option String :=
  if rule = "reference-budget-exceeded" then
    some "Move detail into references/ files that are loaded on demand"
  else if rule = "manifest-too-long" then some "Split detailed sections into references/"
  else none

/-- A finding suggests what goes with its rule. -/
theorem suggestion_of_mem {p : Package} {config : BudgetConfig α} {f : Finding}
    (h : f ∈ (ofPackage p config).findings) :
    f.category = .budget ∧ f.suggestion = suggest f.rule := by
  simp only [ofPackage, List.mem_append, List.mem_filterMap, Option.mem_toList] at h
  obtain (⟨r, -, hf⟩ | hf) | hf := h
  · unfold BudgetResult.finding? at hf
    split at hf
    · cases hf
    · cases hf
      exact ⟨rfl, rfl⟩
    · cases hf
      exact ⟨rfl, rfl⟩
  · obtain ⟨target, -, hf⟩ := Option.bind_eq_some_iff.mp hf
    unfold targetFinding? at hf
    split at hf
    · cases hf
      exact ⟨rfl, rfl⟩
    · cases hf
  · obtain ⟨⟨severity, limit⟩, -, rfl⟩ := Option.map_eq_some_iff.mp hf
    exact ⟨rfl, rfl⟩

/-- The findings stand under the rules of budgets. -/
theorem under_rules (p : Package) (config : BudgetConfig α) :
    Finding.Under rules (ofPackage p config).findings where
  rule_mem _ hf := (isReported_of_mem hf).rule_mem
  consistent := .of_rule suggest fun _ hf => suggestion_of_mem hf

end SkillAudit.BudgetReport
