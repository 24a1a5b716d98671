import Mathlib.Data.List.Flatten
import SkillAudit.Proofs.Package.Notes
import SkillAudit.Proofs.Security.Scan
/-!
# SkillAudit.Proofs.Security.Disabled

What disabling rules does to a security scan. It drops the findings of the disabled rules and leaves
the others where they are, but for one case: a rule that is disabled supersedes nothing, so where the
rule of shell commands is disabled and that of dynamic code is not, a line that both match has a
finding of dynamic code in the place of the dropped one.
-/

namespace SkillAudit

/-- Whether disabling rules can bring findings out: the rule of shell commands is disabled, and the
    rule of dynamic code, which it supersedes, is not. -/
def SecurityConfig.Uncovers (config : SecurityConfig) : Prop :=
  ¬config.enables SecurityRule.shellInterpolation.id ∧
    config.enables SecurityRule.dynamicCodeExecution.id

namespace Scan

variable {config : SecurityConfig} {l : Line}

@[simp] theorem rule_finding (r : SecurityRule) (file : String) (number : Nat) (text : List Char) :
    (finding r file number text).rule = r.id := rfl

theorem enables_all (rule : String) : SecurityConfig.enables ⟨[]⟩ rule = true := rfl

/-! ## Rules that report a line -/

instance (config : SecurityConfig) (r : SecurityRule) (context : LineContext) (text : List Char) :
    Decidable (Fires config r context text) :=
  inferInstanceAs (Decidable (_ ∧ _ ∧ _ ∧ ¬_))

theorem fires_of_ne {r : SecurityRule} (hr : r ≠ .dynamicCodeExecution) {context : LineContext}
    {text : List Char} :
    Fires config r context text ↔
      r ∈ SecurityRule.ofLines ∧ config.enables r.id ∧ r.accepts context text := by
  simp [Fires, hr]

theorem fires_dynamicCodeExecution {context : LineContext} {text : List Char} :
    Fires config .dynamicCodeExecution context text ↔
      config.enables SecurityRule.dynamicCodeExecution.id ∧
        SecurityRule.dynamicCodeExecution.accepts context text ∧
          ¬(config.enables SecurityRule.shellInterpolation.id ∧
            SecurityRule.shellInterpolation.accepts context text) := by
  rw [Fires, and_iff_right (by decide)]
  simp

/-- The finding that a rule has about a line, if it is to report the line. -/
def finding? (config : SecurityConfig) (l : Line) (r : SecurityRule) : Option Finding :=
  if Fires config r l.context l.text then some (finding r l.file l.number l.text) else none

/-- The findings about a line, rule by rule. -/
theorem findingsOf_eq (config : SecurityConfig) (l : Line) :
    findingsOf config l = SecurityRule.ofLines.filterMap (finding? config l) := by
  have hfires : withoutSuperseded (matched config l) =
      SecurityRule.ofLines.filter fun r => Fires config r l.context l.text := by
    rw [withoutSuperseded, matched, List.filter_filter]
    refine List.filter_congr fun r hr => ?_
    rw [Bool.eq_iff_iff, decide_eq_true_iff, ← mem_withoutSuperseded_matched, withoutSuperseded,
      List.mem_filter, matched, List.mem_filter, Bool.and_eq_true, and_iff_right hr, and_comm]
  rw [findingsOf, hfires, ← List.filterMap_eq_map, List.filterMap_filter]
  simp only [decide_eq_true_eq]
  rfl

/-! ## Findings that remain -/

/-- What becomes of a finding about a line when rules are disabled. It remains if its rule is in
    force. One of a shell command gives way to one of dynamic code, if that rule is in force and
    matches the line too; any other is dropped. -/
def remaining? (config : SecurityConfig) (l : Line) (f : Finding) : Option Finding :=
  if config.enables f.rule then some f
  else if f.rule = SecurityRule.shellInterpolation.id ∧
      config.enables SecurityRule.dynamicCodeExecution.id ∧
        SecurityRule.dynamicCodeExecution.accepts l.context l.text then
    some (finding .dynamicCodeExecution l.file l.number l.text)
  else none

/-- Whether the rule of shell commands hides a finding of dynamic code on a line: both match it. -/
def Line.IsContested (l : Line) : Prop :=
  SecurityRule.shellInterpolation.accepts l.context l.text ∧
    SecurityRule.dynamicCodeExecution.accepts l.context l.text

/-- A rule that neither supersedes another one nor is superseded keeps its finding if it is in
    force. -/
theorem finding?_eq_bind {r : SecurityRule} (hdynamic : r ≠ .dynamicCodeExecution)
    (hshell : r ≠ .shellInterpolation) :
    finding? config l r = (finding? ⟨[]⟩ l r).bind (remaining? config l) := by
  have hid : r.id ≠ SecurityRule.shellInterpolation.id := SecurityRule.id_injective.ne hshell
  by_cases haccepts : r ∈ SecurityRule.ofLines ∧ r.accepts l.context l.text
  · cases henables : config.enables r.id <;>
      simp [finding?, fires_of_ne hdynamic, haccepts, remaining?, hid, enables_all, henables]
  · have hnone (config : SecurityConfig) : finding? config l r = none :=
      if_neg fun h => haccepts ⟨h.1, h.2.2.1⟩
    rw [hnone, hnone, Option.bind_none]

/-- The two rules that contest a line are taken together: what is left of the findings of one may be a
    finding of the other. -/
theorem filterMap_finding?_contested (config : SecurityConfig) (l : Line) :
    [.dynamicCodeExecution, .shellInterpolation].filterMap (finding? config l) =
      [.dynamicCodeExecution, .shellInterpolation].filterMap
        fun r => (finding? ⟨[]⟩ l r).bind (remaining? config l) := by
  have hshell : SecurityRule.shellInterpolation ∈ SecurityRule.ofLines := by decide
  have hne : SecurityRule.dynamicCodeExecution.id ≠ SecurityRule.shellInterpolation.id := by decide
  cases hd : config.enables SecurityRule.dynamicCodeExecution.id <;>
    cases hs : config.enables SecurityRule.shellInterpolation.id <;>
    cases had : SecurityRule.dynamicCodeExecution.accepts l.context l.text <;>
    cases has : SecurityRule.shellInterpolation.accepts l.context l.text <;>
    simp [finding?, fires_dynamicCodeExecution, fires_of_ne, remaining?, enables_all, hshell, hne,
      hd, hs, had, has]

/-- The findings about a line are what remains of those that it has while all rules are in force. -/
theorem findingsOf_eq_filterMap (config : SecurityConfig) (l : Line) :
    findingsOf config l = (findingsOf ⟨[]⟩ l).filterMap (remaining? config l) := by
  have hsplit : SecurityRule.ofLines =
      ([.hardcodedSecret] : List SecurityRule) ++
        (([.dynamicCodeExecution, .shellInterpolation] : List SecurityRule) ++
          ([.unsafeDeserialization, .stringBuiltQuery, .outboundNetworkCall, .unsanitizedPath] :
            List SecurityRule)) := rfl
  have hothers {rules : List SecurityRule}
      (h : ∀ r ∈ rules, r ≠ .dynamicCodeExecution ∧ r ≠ .shellInterpolation) :
      rules.filterMap (finding? config l) =
        rules.filterMap fun r => (finding? ⟨[]⟩ l r).bind (remaining? config l) :=
    List.filterMap_congr fun r hr => finding?_eq_bind (h r hr).1 (h r hr).2
  rw [findingsOf_eq, findingsOf_eq, List.filterMap_filterMap, hsplit]
  simp only [List.filterMap_append]
  rw [hothers (by decide), filterMap_finding?_contested, hothers (by decide)]

/-- The findings whose rules are in force all remain. -/
theorem filter_findingsOf_sublist (config : SecurityConfig) (l : Line) :
    ((findingsOf ⟨[]⟩ l).filter fun f => config.enables f.rule).Sublist (findingsOf config l) := by
  rw [findingsOf_eq_filterMap config]
  induction findingsOf ⟨[]⟩ l with
  | nil => exact .slnil
  | cons f fs ih =>
    rw [List.filter_cons]
    split
    · next henables =>
      have hkept : remaining? config l f = some f := if_pos henables
      rw [List.filterMap_cons_some hkept]
      exact ih.cons_cons f
    · cases hother : remaining? config l f with
      | none => rwa [List.filterMap_cons_none hother]
      | some g =>
        rw [List.filterMap_cons_some hother]
        exact ih.cons g

/-- They are merely filtered, unless the line is contested and only the rule of shell commands is
    disabled. -/
theorem findingsOf_eq_filter_iff (config : SecurityConfig) (l : Line) :
    (findingsOf config l = (findingsOf ⟨[]⟩ l).filter fun f => config.enables f.rule) ↔
      ¬(config.Uncovers ∧ l.IsContested) := by
  constructor
  · rintro heq ⟨⟨hshell, hdynamic⟩, hcontested⟩
    have hmem : finding .dynamicCodeExecution l.file l.number l.text ∈ findingsOf config l :=
      mem_findingsOf.mpr ⟨_, fires_dynamicCodeExecution.mpr
        ⟨hdynamic, hcontested.2, fun h => hshell h.1⟩, rfl⟩
    rw [heq, List.mem_filter, mem_findingsOf] at hmem
    obtain ⟨⟨r, hfires, hfinding⟩, -⟩ := hmem
    obtain rfl : SecurityRule.dynamicCodeExecution = r :=
      SecurityRule.id_injective (congrArg Finding.rule hfinding)
    exact (fires_dynamicCodeExecution.mp hfires).2.2 ⟨enables_all _, hcontested.1⟩
  · intro huncovered
    rw [findingsOf_eq_filterMap, ← List.filterMap_eq_filter]
    refine List.filterMap_congr fun f hf => ?_
    have hdropped (henables : ¬config.enables f.rule) :
        ¬(f.rule = SecurityRule.shellInterpolation.id ∧
          config.enables SecurityRule.dynamicCodeExecution.id ∧
            SecurityRule.dynamicCodeExecution.accepts l.context l.text) := by
      rintro ⟨hshell, hdynamic, haccepts⟩
      obtain ⟨r, hfires, rfl⟩ := mem_findingsOf.mp hf
      obtain rfl : r = .shellInterpolation := SecurityRule.id_injective hshell
      exact huncovered ⟨⟨henables, hdynamic⟩, hfires.2.2.1, haccepts⟩
    rw [Option.guard_eq_ite, remaining?]
    split
    · rfl
    · next henables => rw [if_neg (hdropped henables)]

end Scan

namespace SecurityReport

open Scan

/-! ## Findings about a package as a whole -/

/-- The findings of a scan that are not about lines: on permissions, and on guidance. -/
def wholeFindings (p : Package) : List Finding :=
  Permission.findings p ++ (guidanceFinding? p).toList

/-- The findings of one rule are all kept or all dropped. -/
theorem ite_enables {config : SecurityConfig} {rule : String} {findings : List Finding}
    (h : ∀ f ∈ findings, f.rule = rule) :
    (if config.enables rule then findings else []) =
      findings.filter fun f => config.enables f.rule := by
  split
  · next henables =>
    exact (List.filter_eq_self.mpr fun f hf => by rw [h f hf, henables]).symm
  · next henables =>
    exact (List.filter_eq_nil_iff.mpr fun f hf => by rwa [h f hf]).symm

theorem findings_ofPackage (p : Package) (config : SecurityConfig) :
    (ofPackage p config).findings = (Scan.ofPackage p).flatMap (findingsOf config) ++
      (wholeFindings p).filter fun f => config.enables f.rule := by
  have hpermissions : ∀ f ∈ Permission.findings p, f.rule = SecurityRule.broadPermission.id := by
    intro f hf
    obtain ⟨key, -, hkey⟩ := List.mem_filterMap.mp hf
    exact (Permission.finding?_eq_some hkey).1
  have hguidance : ∀ f ∈ (guidanceFinding? p).toList,
      f.rule = SecurityRule.promptInjectionGuidance.id := by
    intro f hf
    obtain ⟨i, line, -, rfl⟩ := guidanceFinding?_eq_some (Option.mem_toList.mp hf)
    rfl
  rw [wholeFindings, List.filter_append, ← ite_enables hpermissions, ← ite_enables hguidance,
    ← List.append_assoc]
  rfl

theorem findings_all (p : Package) :
    (ofPackage p ⟨[]⟩).findings = (Scan.ofPackage p).flatMap (findingsOf ⟨[]⟩) ++ wholeFindings p := by
  have hall : ((wholeFindings p).filter fun f => SecurityConfig.enables ⟨[]⟩ f.rule) =
      wholeFindings p := List.filter_eq_self.mpr fun f _ => enables_all f.rule
  rw [findings_ofPackage, hall]

/-! ## Disabled rules -/

/-- Lists of parts that keep less than others, part by part, make up the same list only if they keep
    all. -/
theorem eq_of_flatMap_eq {α β : Type} {f g : α → List β} {xs : List α}
    (hsub : ∀ x ∈ xs, (f x).Sublist (g x)) (h : xs.flatMap f = xs.flatMap g) :
    ∀ x ∈ xs, f x = g x := by
  induction xs with
  | nil => nofun
  | cons x xs ih =>
    have hx := hsub x List.mem_cons_self
    have hxs : (xs.flatMap f).Sublist (xs.flatMap g) :=
      .flatMap_right xs fun y hy => hsub y (List.mem_cons_of_mem x hy)
    rw [List.flatMap_cons, List.flatMap_cons] at h
    have hlength := congrArg List.length h
    simp only [List.length_append] at hlength
    have hle := hx.length_le
    have hles := hxs.length_le
    obtain ⟨heq, hrest⟩ := List.append_inj h (by omega)
    intro y hy
    obtain rfl | hy := List.mem_cons.mp hy
    · exact heq
    · exact ih (fun z hz => hsub z (List.mem_cons_of_mem x hz)) hrest y hy

/-- What it means for a report to be what disabling rules leaves of another one. -/
structure IsNarrowed (r all : SecurityReport) (p : Package) (config : SecurityConfig) : Prop where
  /-- While all rules are in force, a report has the findings about each line, and those about the
      package as a whole. -/
  findings_all : all.findings = (Scan.ofPackage p).flatMap (findingsOf ⟨[]⟩) ++ wholeFindings p
  /-- Of these the ones remain, in their places, whose rules are in force; and where it is only the
      rule of shell commands that is disabled, its finding about a line that the rule of dynamic code
      matches too is replaced by one of that rule. -/
  findings_eq : r.findings =
    ((Scan.ofPackage p).flatMap fun l => (findingsOf ⟨[]⟩ l).filterMap (remaining? config l)) ++
      (wholeFindings p).filter fun f => config.enables f.rule
  /-- So the findings are merely filtered, unless there is such a line. -/
  filter_iff : (r.findings = all.findings.filter fun f => config.enables f.rule) ↔
    ¬(config.Uncovers ∧ ∃ l ∈ Scan.ofPackage p, l.IsContested)

/-- A scan with rules disabled is the scan with all of them in force, narrowed in this way. -/
theorem isNarrowed_ofPackage (p : Package) (config : SecurityConfig) :
    (ofPackage p config).IsNarrowed (ofPackage p ⟨[]⟩) p config where
  findings_all := findings_all p
  findings_eq := by
    rw [findings_ofPackage, List.flatMap_congr fun l _ => findingsOf_eq_filterMap config l]
  filter_iff := by
    rw [findings_ofPackage, findings_all, List.filter_append, List.filter_flatMap,
      List.append_left_inj]
    constructor
    · rintro heq ⟨huncovers, l, hl, hcontested⟩
      have hline := eq_of_flatMap_eq (fun l _ => filter_findingsOf_sublist config l) heq.symm l hl
      exact (findingsOf_eq_filter_iff config l).mp hline.symm ⟨huncovers, hcontested⟩
    · intro h
      refine List.flatMap_congr fun l hl => (findingsOf_eq_filter_iff config l).mpr ?_
      exact fun hl' => h ⟨hl'.1, l, hl, hl'.2⟩

/-! ### A call that two rules match -/

/-- A package with a script that runs a shell command with a value in it. -/
def listNotes : Package :=
  .notes .named "Run scripts/run.js.\n" [("scripts/run.js", "exec(\x60ls $\x7bdir\x7d\x60);\n")]

/-- Without the rule of shell commands the call is found to be dynamic code, which it is not while all
    rules are in force: the findings are not merely filtered. -/
theorem not_filtered_listNotes :
    (ofPackage listNotes ⟨[]⟩).findings.map (·.rule) = ["shell-interpolation"] ∧
      (ofPackage listNotes ⟨["shell-interpolation"]⟩).findings.map (·.rule) =
        ["dynamic-code-execution"] ∧
      (ofPackage listNotes ⟨["shell-interpolation"]⟩).findings ≠
        (ofPackage listNotes ⟨[]⟩).findings.filter fun f => f.rule ∉ ["shell-interpolation"] := by
  have hall : (ofPackage listNotes ⟨[]⟩).findings.map (·.rule) = ["shell-interpolation"] := by
    decide +kernel
  have hdisabled : (ofPackage listNotes ⟨["shell-interpolation"]⟩).findings.map (·.rule) =
      ["dynamic-code-execution"] := by decide +kernel
  refine ⟨hall, hdisabled, fun heq => ?_⟩
  have hmem : "dynamic-code-execution" ∈
      (ofPackage listNotes ⟨["shell-interpolation"]⟩).findings.map (·.rule) := by simp [hdisabled]
  rw [heq] at hmem
  obtain ⟨f, hf, hrule⟩ := List.mem_map.mp hmem
  have hsame : f.rule ∈ (ofPackage listNotes ⟨[]⟩).findings.map (·.rule) :=
    List.mem_map_of_mem (List.mem_filter.mp hf).1
  rw [hall, hrule] at hsame
  exact absurd hsame (by decide)

end SecurityReport

end SkillAudit
