import SkillAudit.Proofs.Validation.Accounting
import SkillAudit.Report.Text
/-!
# SkillAudit.Proofs.Validation.Verdict

Verdicts, codes and counts agree. A package passes by its findings and its total alone; the summary
of its report counts a blocking finding exactly when there is one; an error has a code of its own.
The code of several validations is the gravest of theirs, and the counts under their reports tell
the same: each validation passed, failed or could not be made, and the code is zero exactly when all
of them passed.
-/

namespace SkillAudit

/-! ## Findings -/

/-- The findings that block are the high and the critical ones. -/
theorem Severity.isBlocking_iff {s : Severity} : s.isBlocking ↔ s = .high ∨ s = .critical := by
  cases s <;> decide

/-- A summary counts a blocking finding exactly when there is one. -/
theorem Summary.hasBlocking_of (findings : List Finding) :
    (Summary.of findings).hasBlocking ↔
      ∃ f ∈ findings, f.severity = .high ∨ f.severity = .critical := by
  simp only [hasBlocking, of, Bool.or_eq_true, decide_eq_true_eq, List.countP_pos_iff, beq_iff_eq]
  constructor
  · rintro (⟨f, hf, h⟩ | ⟨f, hf, h⟩)
    · exact ⟨f, hf, .inr h⟩
    · exact ⟨f, hf, .inl h⟩
  · rintro ⟨f, hf, h | h⟩
    · exact .inr ⟨f, hf, h⟩
    · exact .inl ⟨f, hf, h⟩

/-! ## Codes -/

section Codes

variable {α : Type}

/-- A package that passes gives 0, another one 1. -/
theorem Report.exitCode_verdict (r : Report α) :
    r.verdict.exitCode = if r.score.passed then 0 else 1 := by
  unfold verdict
  split <;> rfl

/-- The code is 0 if and only if the package passes. -/
theorem Report.exitCode_verdict_eq_zero_iff (r : Report α) :
    r.verdict.exitCode = 0 ↔ r.score.passed := by
  rw [exitCode_verdict]
  cases r.score.passed <;> simp

namespace Verdict

/-- There is no code above 2. -/
theorem exitCode_le_two (v : Verdict) : v.exitCode ≤ 2 := by
  cases v <;> decide

/-- The worse of two verdicts has the higher code. -/
theorem exitCode_worse (a b : Verdict) : (a.worse b).exitCode = max a.exitCode b.exitCode := by
  cases a <;> cases b <;> rfl

end Verdict

namespace Response

/-- Whether a response is a report on a package that passes. -/
def Passes (r : Response α) : Prop := ∃ report, r = .ok report ∧ report.score.passed

/-- Whether a response is a report on a package that does not pass. -/
def Fails (r : Response α) : Prop := ∃ report, r = .ok report ∧ report.score.passed = false

/-- Whether a response is an error. -/
def IsError (r : Response α) : Prop := ∃ e, r = .error e

/-- Only an error has the code 2, -/
theorem exitCode_eq_two_iff {r : Response α} : (verdict r).exitCode = 2 ↔ IsError r := by
  cases r with
  | error e => exact ⟨fun _ => ⟨e, rfl⟩, fun _ => rfl⟩
  | ok report =>
    rw [verdict, report.exitCode_verdict]
    cases report.score.passed <;> simp [IsError]

/-- only a package that passes the code 0, -/
theorem exitCode_eq_zero_iff {r : Response α} : (verdict r).exitCode = 0 ↔ Passes r := by
  cases r with
  | error e => simp [Passes, verdict, Verdict.exitCode]
  | ok report =>
    rw [verdict, report.exitCode_verdict]
    cases hpassed : report.score.passed <;> simp [Passes, hpassed]

/-- and only one that does not the code 1. -/
theorem exitCode_eq_one_iff {r : Response α} : (verdict r).exitCode = 1 ↔ Fails r := by
  cases r with
  | error e => simp [Fails, verdict, Verdict.exitCode]
  | ok report =>
    rw [verdict, report.exitCode_verdict]
    cases hpassed : report.score.passed <;> simp [Fails, hpassed]

/-! ### Several responses -/

/-- The code of several responses is the greatest of theirs. -/
theorem exitCode_verdictOfAll_le_iff {rs : List (Response α)} {n : Nat} :
    (verdictOfAll rs).exitCode ≤ n ↔ ∀ r ∈ rs, (verdict r).exitCode ≤ n := by
  have hfold (v : Verdict) (rs : List (Response α)) :
      (rs.foldl (fun v r => v.worse (verdict r)) v).exitCode ≤ n ↔
        v.exitCode ≤ n ∧ ∀ r ∈ rs, (verdict r).exitCode ≤ n := by
    induction rs generalizing v with
    | nil => simp
    | cons r rs ih =>
      rw [List.foldl_cons, ih, Verdict.exitCode_worse, Nat.max_le, List.forall_mem_cons, and_assoc]
  exact (hfold .passed rs).trans ⟨fun h => h.2, fun h => ⟨Nat.zero_le n, h⟩⟩

variable {rs : List (Response α)}

/-- It is 0 exactly when every package passes, -/
theorem exitCode_verdictOfAll_eq_zero_iff :
    (verdictOfAll rs).exitCode = 0 ↔ ∀ r ∈ rs, Passes r := by
  rw [← Nat.le_zero, exitCode_verdictOfAll_le_iff]
  simp only [Nat.le_zero, exitCode_eq_zero_iff]

/-- at most 1 exactly when there is no error, -/
theorem exitCode_verdictOfAll_le_one_iff :
    (verdictOfAll rs).exitCode ≤ 1 ↔ ¬∃ r ∈ rs, IsError r := by
  rw [exitCode_verdictOfAll_le_iff, not_exists]
  refine forall_congr' fun r => ?_
  have hle := (verdict r).exitCode_le_two
  rw [not_and, ← exitCode_eq_two_iff]
  refine imp_congr_right fun _ => ?_
  omega

/-- and otherwise 2. -/
theorem exitCode_verdictOfAll_eq_two_iff :
    (verdictOfAll rs).exitCode = 2 ↔ ∃ r ∈ rs, IsError r := by
  have hle := (verdictOfAll rs).exitCode_le_two
  rw [← not_iff_not, ← exitCode_verdictOfAll_le_one_iff]
  omega

/-- Without an error it is 1 exactly when some package does not pass. -/
theorem exitCode_verdictOfAll_eq_one_iff :
    (verdictOfAll rs).exitCode = 1 ↔ (¬∃ r ∈ rs, IsError r) ∧ ∃ r ∈ rs, Fails r := by
  rw [← exitCode_verdictOfAll_le_one_iff]
  have hfails (hle : (verdictOfAll rs).exitCode ≤ 1) :
      (∃ r ∈ rs, Fails r) ↔ (verdictOfAll rs).exitCode ≠ 0 := by
    rw [ne_eq, exitCode_verdictOfAll_eq_zero_iff, not_forall]
    refine exists_congr fun r => ?_
    rw [Classical.not_imp, ← exitCode_eq_one_iff, ← exitCode_eq_zero_iff]
    refine and_congr_right fun hr => ?_
    have := exitCode_verdictOfAll_le_iff.mp hle r hr
    omega
  constructor
  · intro h
    have hle : (verdictOfAll rs).exitCode ≤ 1 := by omega
    exact ⟨hle, (hfails hle).mpr (by omega)⟩
  · rintro ⟨hle, hsome⟩
    have := (hfails hle).mp hsome
    omega

/-! ### Reports in responses -/

@[simp] theorem report?_ok (report : Report α) : report? (.ok report : Response α) = some report :=
  rfl

@[simp] theorem report?_error (e : ValidationError α) :
    report? (.error e : Response α) = none :=
  rfl

/-- A response passes if it is a report that does. -/
theorem passes_iff {r : Response α} : Passes r ↔ (report? r).any (·.score.passed) := by
  cases r <;> simp [Passes]

end Response

end Codes

/-! ## Counts -/

namespace TextReport.Tally

open Response

variable {α : Type}

/-- Every validation passed, failed or could not be made. -/
theorem add_counts_of (rs : List (Response α)) :
    (Tally.of rs).passed + rs.countP (fun r => (report? r).any (!·.score.passed)) +
      (Tally.of rs).errors = (Tally.of rs).total := by
  have hone (r : Response α) :
      (if (report? r).any (·.score.passed) then 1 else 0) +
          (if (report? r).any (!·.score.passed) then 1 else 0) +
        (if (report? r).isNone then 1 else 0) = 1 := by
    cases r with
    | error e => rfl
    | ok report => cases hpassed : report.score.passed <;> simp [hpassed]
  simp only [Tally.of]
  induction rs with
  | nil => rfl
  | cons r rs ih =>
    have hr := hone r
    simp only [List.countP_cons, List.length_cons]
    omega

/-- As many passed as there are exactly when all of them did. -/
theorem passed_eq_total_iff {rs : List (Response α)} :
    (Tally.of rs).passed = (Tally.of rs).total ↔ ∀ r ∈ rs, Passes r := by
  simp only [Tally.of, List.countP_eq_length, passes_iff]

end TextReport.Tally

/-! ## Agreement -/

variable {α : Type} [Quantity α]

/-- A package passes if no finding blocks it and its total reaches the threshold. -/
theorem Quality.passed_of (config : Config α) (p : Package) (findings : List Finding) :
    (Quality.of config p findings).passed ↔
      (∀ f ∈ findings, f.severity ≠ .high ∧ f.severity ≠ .critical) ∧
        Quantity.le config.scoring.passThreshold (Quality.of config p findings).total := by
  simp only [of, Bool.and_eq_true, Bool.not_eq_true', List.any_eq_false, Severity.isBlocking_iff,
    not_or]

/-- What it means for a report to be decided by its findings and the threshold of settings. -/
structure Report.IsDecided (r : Report α) (config : Config α) : Prop where
  exitCode_eq_zero_iff : r.verdict.exitCode = 0 ↔
    (∀ f ∈ r.findings, f.severity ≠ .high ∧ f.severity ≠ .critical) ∧
      Quantity.le config.scoring.passThreshold r.score.total
  /-- The only other code is 1. -/
  exitCode_eq : r.verdict.exitCode = if r.score.passed then 0 else 1
  /-- The summary counts a blocking finding if there is one, and then the package does not pass. -/
  hasBlocking_iff : r.summary.hasBlocking ↔
    ∃ f ∈ r.findings, f.severity = .high ∨ f.severity = .critical
  passed_iff : r.score.passed ↔
    ¬r.summary.hasBlocking ∧ Quantity.le config.scoring.passThreshold r.score.total

/-- Every report is decided by its findings and its total. -/
theorem Report.isDecided_of (config : Config α) (p : Package) :
    (Report.of config p).IsDecided config := by
  have hpassed := Quality.passed_of config p (Report.of config p).findings
  have hblocking := Summary.hasBlocking_of (Report.of config p).findings
  constructor
  case exitCode_eq_zero_iff =>
    exact (Report.of config p).exitCode_verdict_eq_zero_iff.trans hpassed
  case exitCode_eq => exact (Report.of config p).exitCode_verdict
  case hasBlocking_iff => exact hblocking
  case passed_iff =>
    refine hpassed.trans (and_congr_left fun _ => Iff.trans ?_ (not_congr hblocking).symm)
    simp only [not_exists, not_and, not_or]

namespace Request

open Response TextReport

/-- What it means for verdicts, codes and counts to agree about the responses to requests. -/
structure VerdictsAgree (top : FileTree) (rs : List (Request α)) (responses : List (Response α)) :
    Prop where
  /-- There is one response to each request, in the order of the requests. -/
  length_eq : responses.length = rs.length
  getElem?_eq : ∀ i : Nat, responses[i]? = (rs[i]?).map (Request.run top)
  /-- An error has the code 2 and nothing else has. -/
  error_iff : ∀ r ∈ responses, (verdict r).exitCode = 2 ↔ IsError r
  /-- A report is decided by the settings in force for its request. -/
  isDecided : ∀ (i : Nat) (report : Report α), responses[i]? = some (.ok report) →
    ∃ r config, rs[i]? = some r ∧ r.settings top = .ok config ∧ report.IsDecided config
  /-- The code of all is 2 if there is an error, or else 1 if a package does not pass, or else 0. -/
  code_eq_two_iff : (verdictOfAll responses).exitCode = 2 ↔ ∃ r ∈ responses, IsError r
  code_eq_one_iff : (verdictOfAll responses).exitCode = 1 ↔
    (¬∃ r ∈ responses, IsError r) ∧ ∃ r ∈ responses, Fails r
  code_eq_zero_iff : (verdictOfAll responses).exitCode = 0 ↔ ∀ r ∈ responses, Passes r
  /-- The counts are of all responses, and what is left without the ones that passed and the errors
      are those that failed. -/
  total_eq : (Tally.of responses).total = responses.length
  passed_le : (Tally.of responses).passed ≤ (Tally.of responses).total
  errors_le : (Tally.of responses).errors ≤ (Tally.of responses).total - (Tally.of responses).passed
  failed_eq : (Tally.of responses).failed =
    responses.countP fun r => (report? r).any (!·.score.passed)
  add_counts : (Tally.of responses).passed + (Tally.of responses).failed +
    (Tally.of responses).errors = responses.length
  /-- The code is 0 if as many passed as there are. -/
  code_eq_zero_iff_passed : (verdictOfAll responses).exitCode = 0 ↔
    (Tally.of responses).passed = responses.length

/-- Verdicts, codes and counts agree about the responses to any requests. -/
theorem verdictsAgree_runAll (top : FileTree) (rs : List (Request α)) :
    VerdictsAgree top rs (runAll top rs) := by
  have hcounts := Tally.add_counts_of (runAll top rs)
  have hfailed : (Tally.of (runAll top rs)).failed =
      (runAll top rs).countP fun r => (report? r).any (!·.score.passed) := by
    rw [Tally.failed]
    omega
  constructor
  case length_eq => exact List.length_map _
  case getElem?_eq => exact fun i => List.getElem?_map
  case error_iff => exact fun _ _ => exitCode_eq_two_iff
  case isDecided =>
    intro i report h
    rw [runAll, List.getElem?_map, Option.map_eq_some_iff] at h
    obtain ⟨r, hr, hrun⟩ := h
    obtain ⟨config, p, hconfig, -, rfl⟩ := run_eq_ok.mp hrun
    exact ⟨r, config, hr, hconfig, Report.isDecided_of config p⟩
  case code_eq_two_iff => exact exitCode_verdictOfAll_eq_two_iff
  case code_eq_one_iff => exact exitCode_verdictOfAll_eq_one_iff
  case code_eq_zero_iff => exact exitCode_verdictOfAll_eq_zero_iff
  case total_eq => rfl
  case passed_le => omega
  case errors_le => omega
  case failed_eq => exact hfailed
  case add_counts =>
    rw [hfailed]
    exact hcounts
  case code_eq_zero_iff_passed =>
    rw [exitCode_verdictOfAll_eq_zero_iff]
    exact Tally.passed_eq_total_iff.symm

end Request

end SkillAudit
