import SkillAudit.Proofs.Command.Agreement
import SkillAudit.Proofs.Validation.Verdict
/-!
# SkillAudit.Proofs.Command.Scan

Scanning with a smallest severity. What is printed is the sorted list of all findings without the
less grave ones, and the verdict looks at what is printed. A finding that fails a run is left out
only where critical ones alone are asked for, so in all other cases the verdict is that of all
findings.

* `atLeast_eq_filter_sort` — filtering before sorting gives the same list as filtering behind it;
* `meets_iff_of_blocking` — when a finding that fails a run is left out;
* `exists_shows_runScan` — what a scan prints, and how it ends.
-/

namespace SkillAudit

/-- A critical finding of a scan is about a line: those on permissions and on guidance are less
    grave. -/
theorem SecurityReport.exists_line_of_critical {p : Package} {config : SecurityConfig} {f : Finding}
    (h : f ∈ (ofPackage p config).findings) (hcritical : f.severity = .critical) :
    ∃ l ∈ Scan.ofPackage p, f ∈ Scan.findingsOf config l := by
  obtain hline | ⟨-, key, -, hf⟩ | ⟨-, hf⟩ := mem_findings.mp h
  · exact hline
  · unfold Permission.finding? at hf
    split at hf
    · cases hf
    · cases hf
      cases hcritical
  · obtain ⟨i, line, -, rfl⟩ := Scan.guidanceFinding?_eq_some hf
    cases hcritical

namespace Command

/-! ## What is shown -/

variable {least : Option Severity} {findings : List Finding} {f : Finding}

/-- Whether a finding is at least as grave as the smallest severity that is asked for, if one is. -/
def meets (least : Option Severity) (f : Finding) : Bool :=
  least.all fun s => s.rank ≤ f.severity.rank

theorem atLeast_eq_sort_filter (least : Option Severity) (findings : List Finding) :
    atLeast least findings = Finding.sort (findings.filter (meets least)) := by
  cases least with
  | none =>
    have hall : findings.filter (meets none) = findings := List.filter_eq_self.mpr fun _ _ => rfl
    rw [hall]
    rfl
  | some s => rfl

/-- What a scan shows is the sorted list of all its findings without the less grave ones. -/
theorem atLeast_eq_filter_sort (least : Option Severity) (p : Package) (config : SecurityConfig) :
    atLeast least (SecurityReport.ofPackage p config).findings =
      (Finding.sort (SecurityReport.ofPackage p config).findings).filter (meets least) := by
  rw [atLeast_eq_sort_filter]
  exact ((SecurityReport.under_rules p config).consistent.filter_sort _).symm

/-! ## Verdicts -/

/-- A scan fails exactly if something that it shows fails a run. -/
theorem exitCode_scanVerdict (shown : List Finding) :
    (scanVerdict shown).exitCode =
      if ∃ f ∈ shown, f.severity = .high ∨ f.severity = .critical then 1 else 0 := by
  rw [scanVerdict]
  by_cases h : (Summary.of shown).hasBlocking
  · rw [if_pos h, if_pos ((Summary.hasBlocking_of shown).mp h)]
    rfl
  · rw [if_neg h, if_neg (mt (Summary.hasBlocking_of shown).mpr h)]
    rfl

/-- A finding that fails a run is shown unless only critical ones are, and it is not. -/
theorem meets_iff_of_blocking (h : f.severity = .high ∨ f.severity = .critical) :
    meets least f = true ↔ (least = some .critical → f.severity = .critical) := by
  cases least with
  | none => simp [meets]
  | some s => obtain h | h := h <;> cases s <;> simp [meets, h, Severity.rank]

/-- If something fails a run, something that is shown does, unless only critical findings are asked
    for, and there are high ones but no critical one. -/
theorem exists_blocking_meets_iff (least : Option Severity) (findings : List Finding) :
    ((∃ f ∈ findings, (f.severity = .high ∨ f.severity = .critical) ∧ meets least f = true) ↔
        ∃ f ∈ findings, f.severity = .high ∨ f.severity = .critical) ↔
      (least = some .critical → (∃ f ∈ findings, f.severity = .high) →
        ∃ f ∈ findings, f.severity = .critical) := by
  constructor
  · rintro hiff hleast ⟨f, hf, hhigh⟩
    obtain ⟨g, hg, hblocking, hmeets⟩ := hiff.mpr ⟨f, hf, .inl hhigh⟩
    exact ⟨g, hg, (meets_iff_of_blocking hblocking).mp hmeets hleast⟩
  · intro h
    refine ⟨fun ⟨f, hf, hblocking, _⟩ => ⟨f, hf, hblocking⟩, ?_⟩
    rintro ⟨f, hf, hblocking⟩
    by_cases hleast : least = some .critical
    · have hcritical : ∃ g ∈ findings, g.severity = .critical := by
        obtain hhigh | hcritical := hblocking
        · exact h hleast ⟨f, hf, hhigh⟩
        · exact ⟨f, hf, hcritical⟩
      obtain ⟨g, hg, hgrave⟩ := hcritical
      exact ⟨g, hg, .inr hgrave, (meets_iff_of_blocking (.inr hgrave)).mpr fun _ => hgrave⟩
    · exact ⟨f, hf, hblocking, (meets_iff_of_blocking hblocking).mpr fun h => absurd h hleast⟩

/-- A scan fails exactly if a finding that fails a run is among those that it shows. -/
theorem exitCode_scanVerdict_filter (least : Option Severity) (findings : List Finding) :
    (scanVerdict ((Finding.sort findings).filter (meets least))).exitCode =
      if ∃ f ∈ findings, (f.severity = .high ∨ f.severity = .critical) ∧ meets least f = true
        then 1 else 0 := by
  rw [exitCode_scanVerdict]
  refine if_congr ?_ rfl rfl
  simp only [List.mem_filter, (Finding.sort_perm findings).mem_iff, and_assoc]
  exact exists_congr fun f => and_congr_right fun _ => and_comm

/-- This is the code of all findings exactly if nothing that fails a run is left out, or something
    else that does is shown. -/
theorem exitCode_scanVerdict_filter_iff (least : Option Severity) (findings : List Finding) :
    (scanVerdict ((Finding.sort findings).filter (meets least))).exitCode =
        (if ∃ f ∈ findings, f.severity = .high ∨ f.severity = .critical then 1 else 0) ↔
      (least = some .critical → (∃ f ∈ findings, f.severity = .high) →
        ∃ f ∈ findings, f.severity = .critical) := by
  have hcodes (P Q : Prop) [Decidable P] [Decidable Q] :
      ((if P then 1 else 0) = if Q then 1 else 0) ↔ (P ↔ Q) := by
    by_cases hP : P <;> by_cases hQ : Q <;> simp [hP, hQ]
  rw [exitCode_scanVerdict_filter, hcodes, exists_blocking_meets_iff]

/-! ## Scans -/

/-- What it means for an outcome to show the findings of a scan down to a severity. -/
structure Shows (format : ReportFormat) (colours : Bool) (name : String) (least : Option Severity)
    (findings : List Finding) (o : Outcome) : Prop where
  /-- It prints the sorted list of all findings without the less grave ones. -/
  printed_eq : o.printed =
    format.findings colours name ((Finding.sort findings).filter (meets least))
  /-- The code is 1 if something that is printed fails a run, and else 0. -/
  exitCode_eq : o.verdict.exitCode =
    if ∃ f ∈ findings, (f.severity = .high ∨ f.severity = .critical) ∧ meets least f = true
      then 1 else 0
  /-- This is the code of all findings, unless only critical ones are asked for, and there are high
      ones but no critical one. -/
  exitCode_iff :
    o.verdict.exitCode =
        (if ∃ f ∈ findings, f.severity = .high ∨ f.severity = .critical then 1 else 0) ↔
      (least = some .critical → (∃ f ∈ findings, f.severity = .high) →
        ∃ f ∈ findings, f.severity = .critical)

variable {top : FileTree} {path : String} {a : Arguments} {p : Package} {c : Config Rat}

/-- A scan of a package that is read shows its findings. -/
theorem exists_shows_runScan (h : loadFor top path a = .ok (.ok (p, c))) (colours : Bool) :
    ∃ o, runScan (α := Rat) top colours path a = .ok o ∧
      Shows a.format colours p.name a.severity (SecurityReport.ofPackage p c.security).findings
        o := by
  refine ⟨_, runScan_of_ok h colours, ?_⟩
  rw [atLeast_eq_filter_sort]
  exact {
    printed_eq := rfl
    exitCode_eq := exitCode_scanVerdict_filter a.severity _
    exitCode_iff := exitCode_scanVerdict_filter_iff a.severity _ }

/-! ### A scan that leaves out what fails a run -/

/-- A body with code that unpickles data, which is reported as high. -/
def loadingBody : String :=
  "Load them.\n\x60\x60\x60python\nnotes = pickle.loads(data)\n\x60\x60\x60\n"

/-- A manifest with this body. -/
def loadingText : String := "---\nname: notes\n---\n" ++ loadingBody

/-- Its bytes. -/
def loadingBytes : List UInt8 := Utf8.asciiBytes loadingText

/-- The entries of a folder with that manifest only. -/
def loadingEntries : List (String × FileTree) := [("SKILL.md", .file loadingBytes)]

/-- The folder in a tree. -/
def loadingTree : FileTree := .folder [("notes", .folder loadingEntries)]

/-- The lines of the package in the tree. -/
def loadingLines : List Scan.Line :=
  Scan.plain "SKILL.md" .prose FrontMatter.startLine "name: notes\n" ++
    Scan.markdown "SKILL.md" 4 loadingBody

/-- The package in the tree is read, whatever tiers are given to its files, and all that is scanned
    are the lines of its manifest. -/
theorem exists_load_loadingTree (priorities : Priorities) :
    ∃ p, Package.load loadingTree "notes" priorities = .ok p ∧
      Scan.ofPackage p = loadingLines := by
  have hplace : loadingTree.locate? "notes" = some ["notes"] := by decide +kernel
  have hfolder : loadingTree.lookup? "notes" = some (.folder loadingEntries) := by
    rw [FileTree.lookup?, hplace]
    rfl
  have htext : (loadingTree.read? (FileTree.join "notes" "SKILL.md")).bind Package.textOf =
      some loadingText := by
    have hpath : loadingTree.locate? (FileTree.join "notes" "SKILL.md") =
        some ["notes", "SKILL.md"] := by decide +kernel
    have hread : loadingTree.read? (FileTree.join "notes" "SKILL.md") = some loadingBytes := by
      rw [FileTree.read?, FileTree.lookup?, hpath]
      rfl
    rw [hread]
    exact Package.textOf_asciiBytes (by decide +kernel) (by decide +kernel)
  have hparts : ((Manifest.split Yaml.Value.ofText loadingText).toOption.map fun m =>
      (m.frontMatter.raw, m.body, m.bodyStartLine)) = some ("name: notes\n", loadingBody, 4) := by
    decide +kernel
  cases hsplit : Manifest.split Yaml.Value.ofText loadingText with
  | error e =>
    rw [hsplit] at hparts
    cases hparts
  | ok m =>
    rw [hsplit] at hparts
    obtain ⟨hraw, hrest⟩ := Prod.mk.inj (Option.some.inj hparts)
    obtain ⟨hbody, hstart⟩ := Prod.mk.inj hrest
    refine ⟨_, Package.load_of_split hplace hfolder (by decide +kernel) htext hsplit, ?_⟩
    have hfiles : (FileTree.folder loadingEntries).files "" = [("SKILL.md", loadingBytes)] := by
      decide +kernel
    -- the manifest is scanned by its two parts, not as a file
    have hmanifest : Scan.ofFile
        (Package.fileOf "SKILL.md" priorities ("SKILL.md", loadingBytes)) = none := by
      rw [Scan.ofFile]
      cases (Package.fileOf "SKILL.md" priorities ("SKILL.md", loadingBytes)).text <;> rfl
    rw [Scan.ofPackage, Scan.ofManifest]
    simp only [Package.assemble, hfiles, List.mergeSort_singleton, hraw, hbody, hstart,
      List.map_singleton, List.filterMap_cons, hmanifest, List.filterMap_nil, List.flatten_nil,
      List.append_nil]
    rfl

/-- The settings of the package are the default ones. -/
theorem security_baseConfig_loadingTree : (baseConfig loadingTree "notes" none).security = ⟨[]⟩ := by
  decide +kernel

/-- The arguments that ask for the findings of at least some severity. -/
def asking (least : Severity) : Arguments := { severity := some least }

theorem exists_loadFor_loadingTree (least : Severity) :
    ∃ p c, loadFor (α := Rat) loadingTree "notes" (asking least) = .ok (.ok (p, c)) ∧
      Scan.ofPackage p = loadingLines ∧ c.security = ⟨[]⟩ := by
  obtain ⟨p, hp, hlines⟩ :=
    exists_load_loadingTree (baseConfig loadingTree "notes" none).budget.priorities
  exact ⟨p, _, loadFor_of_ok hp rfl, hlines, security_baseConfig_loadingTree⟩

/-- There is one finding about these lines. -/
theorem severity_loadingLines :
    (loadingLines.flatMap (Scan.findingsOf ⟨[]⟩)).map (·.severity) = [.high] := by decide +kernel

/-- So a finding of the package is high, and none is critical. -/
theorem severity_loadingTree {p : Package} (h : Scan.ofPackage p = loadingLines) :
    (∃ f ∈ (SecurityReport.ofPackage p ⟨[]⟩).findings, f.severity = .high) ∧
      ¬∃ f ∈ (SecurityReport.ofPackage p ⟨[]⟩).findings, f.severity = .critical := by
  have hmem (s : Severity) : s ∈ (loadingLines.flatMap (Scan.findingsOf ⟨[]⟩)).map (·.severity) ↔
      s = .high := by rw [severity_loadingLines, List.mem_singleton]
  constructor
  · obtain ⟨f, hf, hhigh⟩ := List.mem_map.mp ((hmem .high).mpr rfl)
    obtain ⟨l, hl, hline⟩ := List.mem_flatMap.mp hf
    exact ⟨f, SecurityReport.mem_findings.mpr (.inl ⟨l, h ▸ hl, hline⟩), hhigh⟩
  · rintro ⟨f, hf, hcritical⟩
    obtain ⟨l, hl, hline⟩ := SecurityReport.exists_line_of_critical hf hcritical
    have hf : f ∈ loadingLines.flatMap (Scan.findingsOf ⟨[]⟩) :=
      List.mem_flatMap.mpr ⟨l, h ▸ hl, hline⟩
    have hhigh := (hmem f.severity).mp (List.mem_map_of_mem hf)
    rw [hcritical] at hhigh
    cases hhigh

/-- The scan fails that asks for high findings. -/
theorem shows_loadingTree :
    ∃ p c, loadFor (α := Rat) loadingTree "notes" (asking .high) = .ok (.ok (p, c)) ∧
      ∃ o, runScan (α := Rat) loadingTree false "notes" (asking .high) = .ok o ∧
        Shows .text false p.name (some .high) (SecurityReport.ofPackage p c.security).findings o ∧
          o.verdict.exitCode = 1 := by
  obtain ⟨p, c, hload, hlines, hsecurity⟩ := exists_loadFor_loadingTree .high
  obtain ⟨o, hrun, hshows⟩ := exists_shows_runScan hload false
  refine ⟨p, c, hload, o, hrun, hshows, ?_⟩
  obtain ⟨f, hf, hhigh⟩ := (severity_loadingTree hlines).1
  have hcode := hshows.exitCode_iff.mpr nofun
  rw [hsecurity, if_pos ⟨f, hf, .inl hhigh⟩] at hcode
  exact hcode

/-- The scan passes that asks for critical findings, of the same package. -/
theorem passes_loadingTree :
    ∃ p c, loadFor (α := Rat) loadingTree "notes" (asking .critical) = .ok (.ok (p, c)) ∧
      (∃ f ∈ (SecurityReport.ofPackage p c.security).findings, f.severity = .high) ∧
        ∃ o, runScan (α := Rat) loadingTree false "notes" (asking .critical) = .ok o ∧
          o.verdict.exitCode = 0 := by
  obtain ⟨p, c, hload, hlines, hsecurity⟩ := exists_loadFor_loadingTree .critical
  obtain ⟨hhigh, hcritical⟩ := severity_loadingTree hlines
  refine ⟨p, c, hload, hsecurity ▸ hhigh, _, runScan_of_ok hload false, ?_⟩
  have hnone : ¬∃ f ∈ (SecurityReport.ofPackage p c.security).findings,
      (f.severity = .high ∨ f.severity = .critical) ∧ meets (some .critical) f = true := by
    rintro ⟨f, hf, hblocking, hmeets⟩
    rw [hsecurity] at hf
    exact hcritical ⟨f, hf, (meets_iff_of_blocking hblocking).mp hmeets rfl⟩
  rw [atLeast_eq_filter_sort]
  exact (exitCode_scanVerdict_filter (some .critical) _).trans (if_neg hnone)

end Command

end SkillAudit
