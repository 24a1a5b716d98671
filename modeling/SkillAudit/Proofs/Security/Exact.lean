import SkillAudit.Proofs.Package.Notes
import SkillAudit.Proofs.Security.Scan
/-!
# SkillAudit.Proofs.Security.Exact

A security scan is exact about lines. Its findings about lines are those of the rules that are to
report a line that stands in the package in a context, one for each such line and rule; a line has
no finding of dynamic code beside one of a shell command, and prose has findings of secrets only.
-/

namespace SkillAudit

/-- Prose is nothing to a rule other than the one about secrets. -/
theorem SecurityRule.eq_hardcodedSecret_of_accepts_prose {r : SecurityRule} {text : List Char}
    (h : r.accepts .prose text) : r = .hardcodedSecret := by
  have hcode (hr : r ≠ .hardcodedSecret) : ∀ m ∈ r.matchers, .prose ∉ m.contexts := by
    cases r <;>
      simp_all [matchers, Matcher.inCode, Matcher.inScripts, Matcher.but, LineContext.code]
  obtain ⟨m, hm, haccepts⟩ := List.any_eq_true.mp h
  by_contra hr
  simp [Matcher.accepts, hcode hr m hm] at haccepts

namespace Scan

variable {p : Package} {config : SecurityConfig}

theorem location_of_mem_findingsOf {l : Line} {f : Finding} (h : f ∈ findingsOf config l) :
    f.location = some ⟨l.file, some l.number⟩ := by
  obtain ⟨r, -, rfl⟩ := mem_findingsOf.mp h
  rfl

/-- No rule reports a line twice. -/
theorem nodup_findingsOf (config : SecurityConfig) (l : Line) :
    ((findingsOf config l).map fun f => (f.location, f.rule)).Nodup := by
  rw [findingsOf, List.map_map]
  refine List.Nodup.map (fun r s h => SecurityRule.id_injective (Prod.mk.inj h).2) ?_
  exact List.Nodup.filter _ (List.Nodup.filter _ (by decide))

end Scan

namespace SecurityReport

open Scan

/-- The findings about lines, of the rules that match lines. -/
def lineFindings (r : SecurityReport) : List Finding :=
  r.findings.filter fun f => f.rule ∈ SecurityRule.ofLines.map SecurityRule.id

/-- Which findings about lines there are to be. -/
structure IsExact (r : SecurityReport) (p : Package) (config : SecurityConfig) : Prop where
  /-- They are those of the lines that stand in the package in a context, and of the rules that are
      to report such a line. -/
  mem_iff (f : Finding) : f ∈ r.lineFindings ↔
    ∃ file number text context rule, Stands p file number text (some context) ∧
      Fires config rule context text ∧ f = finding rule file number text
  /-- A rule reports a line once. -/
  nodup : (r.lineFindings.map fun f => (f.location, f.rule)).Nodup
  /-- Dynamic code and a shell command are not found on the same line. -/
  apart (f g : Finding) : f ∈ r.lineFindings → g ∈ r.lineFindings → f.location = g.location →
    f.rule = SecurityRule.dynamicCodeExecution.id → g.rule ≠ SecurityRule.shellInterpolation.id
  /-- In prose there is nothing to find but secrets. -/
  prose (f : Finding) (file : String) (number : Nat) (text : List Char) : f ∈ r.lineFindings →
    Stands p file number text (some .prose) → f.location = some ⟨file, some number⟩ →
      f.rule = SecurityRule.hardcodedSecret.id

variable {p : Package}

/-- The findings about lines are those that the lines are given one by one. -/
theorem lineFindings_ofPackage (p : Package) (config : SecurityConfig) :
    (ofPackage p config).lineFindings = (Scan.ofPackage p).flatMap (findingsOf config) := by
  have hlines : ((Scan.ofPackage p).flatMap (findingsOf config)).filter
      (fun f => f.rule ∈ SecurityRule.ofLines.map SecurityRule.id) =
        (Scan.ofPackage p).flatMap (findingsOf config) := by
    refine List.filter_eq_self.mpr fun f hf => ?_
    obtain ⟨l, -, hf⟩ := List.mem_flatMap.mp hf
    obtain ⟨r, hr, rfl⟩ := mem_findingsOf.mp hf
    exact decide_eq_true (List.mem_map_of_mem hr.1)
  have hpermissions : (if config.enables SecurityRule.broadPermission.id then
      Permission.findings p else []).filter
        (fun f => f.rule ∈ SecurityRule.ofLines.map SecurityRule.id) = [] := by
    refine List.filter_eq_nil_iff.mpr fun f hf => ?_
    split at hf
    · obtain ⟨key, -, hkey⟩ := List.mem_filterMap.mp hf
      rw [(Permission.finding?_eq_some hkey).1]
      decide
    · cases hf
  have hguidance : (if config.enables SecurityRule.promptInjectionGuidance.id then
      (guidanceFinding? p).toList else []).filter
        (fun f => f.rule ∈ SecurityRule.ofLines.map SecurityRule.id) = [] := by
    refine List.filter_eq_nil_iff.mpr fun f hf => ?_
    split at hf
    · obtain ⟨i, line, -, rfl⟩ := guidanceFinding?_eq_some (Option.mem_toList.mp hf)
      have hrule : SecurityRule.promptInjectionGuidance.id ∉
          SecurityRule.ofLines.map SecurityRule.id := by decide
      exact fun h => hrule (of_decide_eq_true h)
    · cases hf
  rw [lineFindings, ofPackage, List.filter_append, List.filter_append, hlines, hpermissions,
    hguidance, List.append_nil, List.append_nil]

theorem mem_lineFindings {config : SecurityConfig} {f : Finding} :
    f ∈ (ofPackage p config).lineFindings ↔
      ∃ file number text context rule, Stands p file number text (some context) ∧
        Fires config rule context text ∧ f = finding rule file number text := by
  simp only [lineFindings_ofPackage, List.mem_flatMap, mem_ofPackage, mem_findingsOf]
  constructor
  · rintro ⟨l, hl, r, hr, rfl⟩
    exact ⟨l.file, l.number, l.text, l.context, r, hl, hr, rfl⟩
  · rintro ⟨file, n, text, context, r, hl, hr, rfl⟩
    exact ⟨⟨file, n, context, text⟩, hl, r, hr, rfl⟩

/-- A finding about a line is about the line that stands at its location. -/
theorem fires_of_mem_lineFindings (hp : p.IsUnambiguous) {config : SecurityConfig} {f : Finding}
    {file : String} {n : Nat} {text : List Char} {context : Option LineContext}
    (hf : f ∈ (ofPackage p config).lineFindings) (hstands : Stands p file n text context)
    (hlocation : f.location = some ⟨file, some n⟩) :
    ∃ c rule, context = some c ∧ Fires config rule c text ∧ f = finding rule file n text := by
  obtain ⟨file', n', text', c, rule, hstands', hfires, rfl⟩ := mem_lineFindings.mp hf
  cases hlocation
  obtain ⟨rfl, rfl⟩ := hstands.unique hp hstands'
  exact ⟨c, rule, rfl, hfires, rfl⟩

theorem nodup_lineFindings (hp : p.IsUnambiguous) (config : SecurityConfig) :
    ((ofPackage p config).lineFindings.map fun f => (f.location, f.rule)).Nodup := by
  rw [lineFindings_ofPackage, List.map_flatMap, List.nodup_flatMap]
  refine ⟨fun l _ => nodup_findingsOf config l, (pairwise_ofPackage hp).imp fun hne x hx hy => ?_⟩
  obtain ⟨f, hf, rfl⟩ := List.mem_map.mp hx
  obtain ⟨g, hg, heq⟩ := List.mem_map.mp hy
  have hlocation := (Prod.mk.inj heq).1
  rw [location_of_mem_findingsOf hf, location_of_mem_findingsOf hg, Option.some.injEq,
    Location.mk.injEq, Option.some.injEq] at hlocation
  exact hne ⟨hlocation.1.symm, hlocation.2.symm⟩

/-- A security scan is exact about the lines of a package; `Package.isUnambiguous_of_load` has every
    package that is read. -/
theorem isExact_ofPackage (hp : p.IsUnambiguous) (config : SecurityConfig) :
    (ofPackage p config).IsExact p config where
  mem_iff _ := mem_lineFindings
  nodup := nodup_lineFindings hp config
  apart f g hf hg hlocation hdynamic hshell := by
    obtain ⟨file, n, text, c, rule, hstands, hfires, rfl⟩ := mem_lineFindings.mp hf
    obtain ⟨c', rule', hc, hfires', rfl⟩ := fires_of_mem_lineFindings hp hg hstands hlocation.symm
    obtain rfl : rule = .dynamicCodeExecution := SecurityRule.id_injective hdynamic
    obtain rfl : rule' = .shellInterpolation := SecurityRule.id_injective hshell
    cases hc
    exact hfires.2.2.2 ⟨rfl, hfires'.2.1, hfires'.2.2.1⟩
  prose f file n text hf hstands hlocation := by
    obtain ⟨c, rule, hc, hfires, rfl⟩ := fires_of_mem_lineFindings hp hf hstands hlocation
    cases hc
    rw [SecurityRule.eq_hardcodedSecret_of_accepts_prose hfires.2.2.1]
    rfl

/-! ### A package with code in its manifest and in a script -/

/-- The code of a script, with a token on both of its lines. -/
def syncCode : String := "TOKEN = \"tok-1234\"\nrequests.post(url, token=\"tok-1234\")\n"

/-- The script. -/
def syncScript : PackageFile := .ofText "scripts/sync.py" syncCode

/-- A package with that script, and with the token on the line that opens a fence of the
    manifest. -/
def syncNotes : Package :=
  .notes .named "```sh token=\"tok-1234\"\nscripts/sync.py\n```\n" [("scripts/sync.py", syncCode)]

theorem isUnambiguous_syncNotes : syncNotes.IsUnambiguous :=
  Package.isUnambiguous_notes (by decide)

theorem isExact_syncNotes : (ofPackage syncNotes ⟨[]⟩).IsExact syncNotes ⟨[]⟩ :=
  isExact_ofPackage isUnambiguous_syncNotes ⟨[]⟩

end SecurityReport

end SkillAudit
