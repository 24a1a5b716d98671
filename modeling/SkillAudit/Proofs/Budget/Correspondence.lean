import SkillAudit.Proofs.Budget
import SkillAudit.Proofs.Number.Rounding
import SkillAudit.Proofs.Validation.Manifest
/-!
# SkillAudit.Proofs.Budget.Correspondence

The budgets of files and the findings about them. The status of a file follows from its lines and
tokens, and the reasons that a finding gives are found on their own from the same numbers; there is
a reason exactly if the status is not the best one. So every file of text that is no asset has one
result, and under the rule of its status one finding, which gives a reason.

* `status_eq_violation_iff`, `rank_status_le` — the status of a file, and what makes it worse;
* `reasons_evaluate_eq_nil_iff` — when nothing is wrong about a file;
* `corresponds_of_load` — the results of a package that is read, and its findings.
-/

namespace SkillAudit

/-! ## Statuses -/

namespace BudgetStatus

/-- The place of a status, counted from the best one. -/
def rank : BudgetStatus → Nat
  | ok => 0
  | warning => 1
  | violation => 2

/-- The rule that a status is reported under, and how grave that is. -/
def rule? : BudgetStatus → Option (String × Severity)
  | ok => none
  | warning => some ("budget-warning", .low)
  | violation => some ("budget-violation", .medium)

end BudgetStatus

namespace BudgetConfig

variable {α : Type} [Quantity α] {c : BudgetConfig α} {tier : Tier} {lines tokens : Nat}

omit [Quantity α] in
/-- A file is too short if its tier asks for more lines. -/
theorem tooShort_iff :
    c.tooShort tier lines = true ↔
      0 < c.minLines.get tier ∧ lines < c.minLines.get tier := by
  unfold tooShort minimum?
  by_cases h : 0 < c.minLines.get tier <;> simp [h]

/-- Whether a file has too few lines, or too many tokens. -/
def Violates (c : BudgetConfig α) (tier : Tier) (lines tokens : Nat) : Prop :=
  0 < c.minLines.get tier ∧ lines < c.minLines.get tier ∨ c.tokenCeilings.get tier < tokens

/-- A file is in violation if it is too short or above its ceiling. -/
theorem status_eq_violation_iff :
    c.status tier lines tokens = .violation ↔ c.Violates tier lines tokens := by
  have hcond : (c.tooShort tier lines || decide (c.tokenCeilings.get tier < tokens)) = true ↔
      c.Violates tier lines tokens := by
    rw [Bool.or_eq_true, tooShort_iff, decide_eq_true_iff, Violates]
  rw [← hcond, status]
  split
  · next h => simp [h]
  · next h => split <;> simp [h]

/-- It gets a warning if it is not in violation but near the ceiling. -/
theorem status_eq_warning_iff :
    c.status tier lines tokens = .warning ↔
      ¬c.Violates tier lines tokens ∧ c.nearCeiling tier tokens = true := by
  rw [← status_eq_violation_iff, status]
  split
  · simp
  · split <;> simp [*]

/-- More tokens on fewer lines are no better. -/
theorem rank_status_le (c : BudgetConfig Rat) (tier : Tier) {lines lines' tokens tokens' : Nat}
    (hlines : lines' ≤ lines) (htokens : tokens ≤ tokens') :
    (c.status tier lines tokens).rank ≤ (c.status tier lines' tokens').rank := by
  have hviolates : c.Violates tier lines tokens → c.Violates tier lines' tokens' := by
    unfold Violates
    omega
  have hnear (h : c.nearCeiling tier tokens = true) : c.nearCeiling tier tokens' = true := by
    have hcast : (tokens : Rat) ≤ tokens' := Nat.cast_le.mpr htokens
    exact decide_eq_true ((of_decide_eq_true h).trans_le hcast)
  cases hstatus : c.status tier lines tokens with
  | ok => exact Nat.zero_le _
  | violation => rw [status_eq_violation_iff.mpr (hviolates (status_eq_violation_iff.mp hstatus))]
  | warning =>
    by_cases h : c.Violates tier lines' tokens'
    · rw [status_eq_violation_iff.mpr h]
      decide
    · rw [status_eq_warning_iff.mpr ⟨h, hnear (status_eq_warning_iff.mp hstatus).2⟩]

end BudgetConfig

/-! ## Reasons -/

namespace BudgetResult

variable {α : Type} [Quantity α]

/-- What is wrong about a file. -/
def reasons (r : BudgetResult α) : List String := r.shortage ++ r.excess

variable {c : BudgetConfig α} {file : String} {tier : Tier} {lines tokens : Nat}

/-- Lines are spoken of only where there are too few. -/
theorem shortage_evaluate_eq_nil_iff :
    (c.evaluate file tier lines tokens).shortage = [] ↔ c.tooShort tier lines = false := by
  unfold shortage BudgetConfig.evaluate BudgetConfig.tooShort
  cases c.minimum? tier <;> simp

/-- Tokens are spoken of only where there are too many, or nearly so. -/
theorem excess_evaluate_eq_nil_iff :
    (c.evaluate file tier lines tokens).excess = [] ↔
      tokens ≤ c.tokenCeilings.get tier ∧ c.status tier lines tokens ≠ .warning := by
  unfold excess BudgetConfig.evaluate
  by_cases h : c.tokenCeilings.get tier < tokens
  · simp [h]
  · by_cases hwarning : c.status tier lines tokens = .warning <;> simp [h, hwarning]; omega

/-- Nothing is wrong about a file exactly if its status is the best one. -/
theorem reasons_evaluate_eq_nil_iff :
    (c.evaluate file tier lines tokens).reasons = [] ↔ c.status tier lines tokens = .ok := by
  have hviolation : c.status tier lines tokens = .violation ↔
      c.tooShort tier lines = true ∨ c.tokenCeilings.get tier < tokens := by
    rw [BudgetConfig.status_eq_violation_iff, BudgetConfig.Violates, BudgetConfig.tooShort_iff]
  rw [reasons, List.append_eq_nil_iff, shortage_evaluate_eq_nil_iff, excess_evaluate_eq_nil_iff]
  constructor
  · rintro ⟨hlong, hsmall, hwarning⟩
    cases hstatus : c.status tier lines tokens with
    | ok => rfl
    | warning => exact absurd hstatus hwarning
    | violation =>
      obtain hshort | hlarge := hviolation.mp hstatus
      · rw [hlong] at hshort
        cases hshort
      · omega
  · intro hok
    rw [hok] at hviolation ⊢
    have hnone := mt hviolation.mpr (by decide)
    rw [not_or, Bool.not_eq_true, Nat.not_lt] at hnone
    exact ⟨hnone.1, hnone.2, by decide⟩

/-- A reason is not empty. -/
theorem ne_empty_of_mem_reasons {r : BudgetResult α} {reason : String} (h : reason ∈ r.reasons) :
    reason ≠ "" := by
  rw [reasons, List.mem_append] at h
  unfold shortage excess at h
  obtain h | h := h
  · split at h
    · split at h
      · obtain rfl := List.mem_singleton.mp h
        simp [String.append_eq_empty_iff]
      · cases h
    · cases h
  · simp only at h
    split at h
    · obtain rfl := List.mem_singleton.mp h
      simp [String.append_eq_empty_iff]
    · split at h
      · obtain rfl := List.mem_singleton.mp h
        simp [String.append_eq_empty_iff]
      · cases h

/-- The message that gives the reasons is not empty unless there are none. -/
theorem message_finding_ne_empty {r : BudgetResult α} (h : r.reasons ≠ []) (rule : String)
    (severity : Severity) : (r.finding rule severity).message ≠ "" := by
  have hmessage : (r.finding rule severity).message = String.intercalate "; " r.reasons := rfl
  rw [hmessage]
  obtain ⟨reason, more, hreasons⟩ := List.exists_cons_of_ne_nil h
  have hreason : reason ≠ "" := ne_empty_of_mem_reasons (hreasons ▸ List.mem_cons_self)
  rw [hreasons]
  cases more with
  | nil => rwa [String.intercalate_singleton]
  | cons next more =>
    rw [String.intercalate_cons_cons]
    simp [String.append_eq_empty_iff, hreason]

/-- A file is reported under the rule of its status. -/
theorem finding?_eq_map (r : BudgetResult α) :
    r.finding? = r.status.rule?.map fun e => r.finding e.1 e.2 := by
  unfold finding?
  cases r.status <;> rfl

end BudgetResult

/-! ## Findings -/

namespace BudgetReport

variable {α : Type} [Quantity α] {p : Package} {config : BudgetConfig α}

/-- The findings under the rule of a status are those about the files with this status. -/
theorem filter_rule {status : BudgetStatus} {rule : String} {severity : Severity}
    (h : status.rule? = some (rule, severity)) :
    (ofPackage p config).findings.filter (·.rule == rule) =
      ((ofPackage p config).results.filter (·.status == status)).map
        (·.finding rule severity) := by
  have hrule : rule = "budget-warning" ∨ rule = "budget-violation" := by
    cases status <;> cases h <;> simp
  have hresult (r : BudgetResult α) :
      r.finding?.filter (·.rule == rule) =
        if r.status == status then some (r.finding rule severity) else none := by
    rw [BudgetResult.finding?_eq_map]
    cases hstatus : r.status <;> cases status <;> cases h <;>
      simp [BudgetStatus.rule?, BudgetResult.finding]
  have htarget : (((ofPackage p config).tokenTarget.bind
      (targetFinding? p config (ofPackage p config).paidTokens)).toList.filter
        (·.rule == rule)) = [] := by
    rw [List.filter_eq_nil_iff]
    intro f hf
    rw [rule_of_target hf]
    obtain rfl | rfl := hrule <;> simp
  have hlength : ((lengthFinding? p config).toList.filter (·.rule == rule)) = [] := by
    rw [List.filter_eq_nil_iff]
    intro f hf
    rw [rule_of_length hf]
    obtain rfl | rfl := hrule <;> simp
  rw [findings_ofPackage, List.filter_append, List.filter_append, htarget, hlength,
    List.append_nil, List.append_nil, List.filter_filterMap, ← List.filterMap_eq_map,
    List.filterMap_filter]
  exact List.filterMap_congr fun r _ => hresult r

/-- How many findings there are about a file under a rule. -/
def countAt (r : BudgetReport α) (rule file : String) : Nat :=
  r.findings.countP fun f => f.rule == rule && f.file? == some file

theorem countAt_eq_countP {status : BudgetStatus} {rule : String} {severity : Severity}
    (h : status.rule? = some (rule, severity)) (file : String) :
    (ofPackage p config).countAt rule file =
      (ofPackage p config).results.countP fun r => r.file == file && r.status == status := by
  calc (ofPackage p config).countAt rule file
      = ((ofPackage p config).findings.filter (·.rule == rule)).countP (·.file? == some file) := by
        rw [countAt, List.countP_filter]
        simp only [Bool.and_comm]
    _ = ((ofPackage p config).results.filter (·.status == status)).countP (·.file == file) := by
        rw [filter_rule h, List.countP_map]
        exact List.countP_congr fun r _ => by simp [BudgetResult.finding, Finding.file?]
    _ = (ofPackage p config).results.countP fun r => r.file == file && r.status == status :=
        List.countP_filter

/-- If no two results are about the same file, there is one finding about a file under the rule of
    its status, and none under another one. -/
theorem countAt_eq {status : BudgetStatus} {rule : String} {severity : Severity}
    (h : status.rule? = some (rule, severity))
    (hnodup : ((ofPackage p config).results.map (·.file)).Nodup) {r : BudgetResult α}
    (hr : r ∈ (ofPackage p config).results) :
    (ofPackage p config).countAt rule r.file = if r.status = status then 1 else 0 := by
  have halone : (ofPackage p config).results.filter (·.file == r.file) = [r] := by
    rw [filter_key hnodup, (find?_key_eq_some hnodup).mpr ⟨hr, rfl⟩, Option.toList_some]
  rw [countAt_eq_countP h]
  simp only [Bool.and_comm (_ == r.file)]
  rw [← List.countP_filter, halone, List.countP_singleton]
  simp

theorem countAt_eq_zero {status : BudgetStatus} {rule : String} {severity : Severity}
    (h : status.rule? = some (rule, severity)) {file : String}
    (hfile : ∀ r ∈ (ofPackage p config).results, r.file ≠ file) :
    (ofPackage p config).countAt rule file = 0 := by
  rw [countAt_eq_countP h, List.countP_eq_zero]
  intro r hr
  simp [hfile r hr]

/-- A finding under the rule of a status gives a reason. -/
theorem message_ne_empty {f : Finding} (h : f ∈ (ofPackage p config).findings) {status : BudgetStatus}
    {severity : Severity} (hrule : status.rule? = some (f.rule, severity)) : f.message ≠ "" := by
  have hf : f ∈ (ofPackage p config).findings.filter (·.rule == f.rule) :=
    List.mem_filter.mpr ⟨h, beq_self_eq_true _⟩
  rw [filter_rule hrule] at hf
  obtain ⟨r, hr, hfinding⟩ := List.mem_map.mp hf
  obtain ⟨hresult, hstatus⟩ := List.mem_filter.mp hr
  rw [results_ofPackage] at hresult
  obtain ⟨g, -, rfl⟩ := List.mem_map.mp hresult
  rw [← hfinding]
  refine BudgetResult.message_finding_ne_empty (fun hnone => ?_) _ _
  -- a file about which nothing is wrong has a status without a rule
  have hok := BudgetResult.reasons_evaluate_eq_nil_iff.mp hnone
  have heq : config.status g.tier g.lineCount (p.tokensOf g) = status := beq_iff_eq.mp hstatus
  rw [← heq, hok] at hrule
  cases hrule

/-! ## Correspondence -/

/-- What it means for results and findings to correspond, in a package with these limits. -/
structure Corresponds (p : Package) (config : BudgetConfig Rat) (r : BudgetReport Rat) :
    Prop where
  /-- Every file of text that is no asset has one result. -/
  results_eq : r.results = (p.files.filter fun f => f.role != .asset && f.text.isSome).map fun f =>
    config.evaluate f.path f.tier f.lineCount (p.tokensOf f)
  ordered : r.results.Pairwise fun x y => x.file < y.file
  violation_iff : ∀ x ∈ r.results, x.status = .violation ↔
    0 < config.minLines.get x.tier ∧ x.lines < config.minLines.get x.tier ∨
      config.tokenCeilings.get x.tier < x.tokens
  warning_iff : ∀ x ∈ r.results, x.status = .warning ↔
    x.status ≠ .violation ∧
      (config.tokenCeilings.get x.tier : Rat) * config.warningFraction < x.tokens
  countAt_warning : ∀ x ∈ r.results,
    r.countAt "budget-warning" x.file = if x.status = .warning then 1 else 0
  countAt_violation : ∀ x ∈ r.results,
    r.countAt "budget-violation" x.file = if x.status = .violation then 1 else 0
  ok_iff : ∀ x ∈ r.results, x.status = .ok ↔
    r.countAt "budget-warning" x.file = 0 ∧ r.countAt "budget-violation" x.file = 0
  /-- There is no finding about another file. -/
  countAt_other : ∀ file, (∀ x ∈ r.results, x.file ≠ file) →
    r.countAt "budget-warning" file = 0 ∧ r.countAt "budget-violation" file = 0
  message_ne_empty : ∀ f ∈ r.findings,
    f.rule = "budget-warning" ∨ f.rule = "budget-violation" → f.message ≠ ""
  /-- The status gets no better by more tokens or by fewer lines. -/
  rank_le : ∀ file file' tier lines lines' tokens tokens', lines' ≤ lines → tokens ≤ tokens' →
    (config.evaluate file tier lines tokens).status.rank ≤
      (config.evaluate file' tier lines' tokens').status.rank

/-- The results stand in the order of the files. -/
theorem pairwise_file (config : BudgetConfig α) (h : p.files.Pairwise fun f g => f.path < g.path) :
    (ofPackage p config).results.Pairwise fun x y => x.file < y.file := by
  rw [results_ofPackage, List.pairwise_map]
  exact h.sublist List.filter_sublist

/-- The results of a package that has been read correspond to its findings. -/
theorem corresponds_of_load {top : FileTree} {root : String} {priorities : Priorities}
    (htop : top.IsProper) (h : Package.load top root priorities = .ok p)
    (config : BudgetConfig Rat) : Corresponds p config (ofPackage p config) := by
  have hordered := pairwise_file config (Package.pairwise_path_of_load htop h)
  have hnodup : ((ofPackage p config).results.map (·.file)).Nodup :=
    List.pairwise_map.mpr (hordered.imp fun hlt => Std.ne_of_lt hlt)
  have hstatus (x : BudgetResult Rat) (hx : x ∈ (ofPackage p config).results) :
      x.status = config.status x.tier x.lines x.tokens := by
    rw [results_ofPackage] at hx
    obtain ⟨f, -, rfl⟩ := List.mem_map.mp hx
    rfl
  have hwarning : BudgetStatus.warning.rule? = some ("budget-warning", .low) := rfl
  have hviolation : BudgetStatus.violation.rule? = some ("budget-violation", .medium) := rfl
  exact {
    results_eq := results_ofPackage p config
    ordered := hordered
    violation_iff := by
      intro x hx
      rw [hstatus x hx]
      exact BudgetConfig.status_eq_violation_iff
    warning_iff := by
      intro x hx
      rw [hstatus x hx, BudgetConfig.status_eq_warning_iff, ne_eq,
        BudgetConfig.status_eq_violation_iff]
      exact and_congr_right fun _ => decide_eq_true_iff
    countAt_warning := fun x hx => countAt_eq hwarning hnodup hx
    countAt_violation := fun x hx => countAt_eq hviolation hnodup hx
    ok_iff := by
      intro x hx
      rw [countAt_eq hwarning hnodup hx, countAt_eq hviolation hnodup hx]
      cases x.status <;> simp
    countAt_other := fun file hfile =>
      ⟨countAt_eq_zero hwarning hfile, countAt_eq_zero hviolation hfile⟩
    message_ne_empty := by
      intro f hf hrule
      obtain hrule | hrule := hrule
      · exact message_ne_empty hf (hrule ▸ hwarning)
      · exact message_ne_empty hf (hrule ▸ hviolation)
    rank_le := fun _ _ tier _ _ _ _ hlines htokens =>
      BudgetConfig.rank_status_le config tier hlines htokens }

/-! ### A manifest with too few lines -/

/-- The package in the tree is read, and its manifest is a file with seven lines. -/
theorem exists_manifest_notesTree :
    ∃ p f, Package.load Package.notesTree "notes" [] = .ok p ∧
      p.IncludesManifest Package.notesTree "notes" f ∧ f.tier = .critical ∧
        p.manifestLines = 7 := by
  obtain ⟨p, hp⟩ := Package.load_notesTree
  have hname : (Package.manifestNames.find? fun n =>
      Package.notesTree.hasFile (FileTree.join "notes" n)) = some "SKILL.md" := by decide +kernel
  have hpath : p.manifestPath = "SKILL.md" :=
    Option.some.inj ((Package.find?_manifestPath hp).symm.trans hname)
  have hlink : ¬Package.notesTree.isLinked "notes" p.manifestPath := by
    rw [hpath]
    decide +kernel
  obtain ⟨f, hf⟩ := Package.exists_includesManifest Package.isProper_notesTree hp hlink
  refine ⟨p, f, hp, hf, ?_, ?_⟩
  · rw [Package.tier_of_load hp (List.mem_of_find?_eq_some hf.manifest?_eq), hf.role_eq]
    rfl
  · have hbytes : Package.notesTree.read? (FileTree.join "notes" "SKILL.md") =
        some Package.notesBytes := by decide +kernel
    obtain ⟨text, htext, hread, -⟩ := hf.exists_text
    rw [hpath, hbytes, Option.bind_some, Package.textOf_notesBytes] at hread
    rw [← hf.lineCount_eq, PackageFile.lineCount, htext, ← hread]
    decide +kernel

/-- These are too few, and one finding says so. -/
theorem corresponds_notesTree :
    Package.notesTree.IsProper ∧ ∃ p, Package.load Package.notesTree "notes" [] = .ok p ∧
      Corresponds p .default (ofPackage p .default) ∧
        ∃ x ∈ (ofPackage p (.default : BudgetConfig Rat)).results, x.status = .violation ∧
          (ofPackage p (.default : BudgetConfig Rat)).countAt "budget-violation" x.file = 1 := by
  obtain ⟨p, f, hp, hf, htier, hlines⟩ := exists_manifest_notesTree
  have hcorresponds := corresponds_of_load Package.isProper_notesTree hp .default
  have hresults := hf.results_eq (.default : BudgetConfig Rat)
  rw [hlines, htier] at hresults
  have hx := (List.mem_filter.mp (hresults ▸ List.mem_singleton_self _)).1
  have hshort : 0 < 50 ∧ 7 < 50 := by decide
  have hstatus := (hcorresponds.violation_iff _ hx).mpr (.inl hshort)
  refine ⟨Package.isProper_notesTree, p, hp, hcorresponds, _, hx, hstatus, ?_⟩
  rw [hcorresponds.countAt_violation _ hx, if_pos hstatus]

end BudgetReport

end SkillAudit
