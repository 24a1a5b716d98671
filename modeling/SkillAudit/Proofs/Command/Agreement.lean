import SkillAudit.Command.Run
import SkillAudit.Proofs.Config.Prepare
import SkillAudit.Proofs.Validation.Location
import SkillAudit.Proofs.Validation.Order
/-!
# SkillAudit.Proofs.Command.Agreement

The commands that look at a package agree about it. Telling tokens and scanning take the settings as
they are found; validating puts the settings of the caller in and prepares the result once more,
which changes nothing else. So all of them read the same package or stop at the same error, and the
tokens and the security findings that are told alone are those of the report.
-/

namespace SkillAudit.Command

/-! ## Settings -/

variable {top : FileTree} {path : String} {file : Option String} {volume : Option Nat}
variable {config : Option (Config Rat)}

/-- The settings that the commands start from. -/
def baseConfig (top : FileTree) (path : String) (config : Option (Config Rat)) : Config Rat :=
  config.getD (Config.discover top path)

/-- Settings with a volume in place of their own, if there is one. -/
def atVolume (volume : Option Nat) (c : Config Rat) : Config Rat :=
  { c with tokens := { c.tokens with monthlyVolume := volume.getD c.tokens.monthlyVolume } }

/-- The request to validate a package with nothing set but the volume. -/
def request (path : String) (config : Option (Config Rat)) (volume : Option Nat) : Request Rat :=
  ⟨path, config, ⟨volume, none, []⟩⟩

/-- A file of settings that is asked for gives prepared settings or ends the command. -/
theorem prepare_of_explicitConfig (h : explicitConfig top file = .ok config) :
    ∀ c, config = some c → c.prepare = .ok c := by
  rintro c rfl
  unfold explicitConfig at h
  split at h
  · cases h
  · split at h
    · next hload =>
      cases h
      exact Config.prepare_of_load hload
    · cases h

/-- Preparing once more changes nothing, so that validating differs by the volume alone. -/
theorem settings_request (h : explicitConfig top file = .ok config) :
    (request path config volume).settings top =
      .ok (atVolume volume (baseConfig top path config)) :=
  Request.settings_eq (prepare_of_explicitConfig h)

/-- The package that the other commands read. -/
theorem loadFor_eq {a : Arguments} (h : explicitConfig top a.config = .ok config) :
    loadFor top path a =
      .ok ((Package.load top path (baseConfig top path config).budget.priorities).map
        fun p => (p, baseConfig top path config)) := by
  unfold loadFor
  rw [h]
  rfl

/-! ## A package that cannot be read -/

section Refused

variable {e : LoadError}
variable (hload : Package.load top path (baseConfig top path config).budget.priorities = .error e)

include hload

/-- Validating a package that cannot be read gives the error. -/
theorem run_request_of_error (h : explicitConfig top file = .ok config) :
    (request path config volume).run top = .error (.load e) := by
  have hpackage : Package.load top (request path config volume).root
      (atVolume volume (baseConfig top path config)).budget.priorities = .error e := hload
  simp only [Request.run, settings_request h, hpackage]

/-- Counting its tokens refuses with the same error. -/
theorem runTokens_of_error {a : Arguments} (h : explicitConfig top a.config = .ok config)
    (colours : Bool) : runTokens (α := Rat) top colours path a = .ok (refusal (α := Rat) colours a e) := by
  unfold runTokens
  rw [loadFor_eq h, hload]
  rfl

/-- So does scanning it. -/
theorem runScan_of_error {a : Arguments} (h : explicitConfig top a.config = .ok config)
    (colours : Bool) : runScan (α := Rat) top colours path a = .ok (refusal (α := Rat) colours a e) := by
  unfold runScan
  rw [loadFor_eq h, hload]
  rfl

end Refused

/-! ## A package that is read -/

section Shown

variable {p : Package}
variable (hload : Package.load top path (baseConfig top path config).budget.priorities = .ok p)

include hload

/-- Validating a package that is read reports on it at the volume that is asked for. -/
theorem run_request_of_ok (h : explicitConfig top file = .ok config) :
    (request path config volume).run top =
      .ok (.of (atVolume volume (baseConfig top path config)) p) := by
  have hpackage : Package.load top (request path config volume).root
      (atVolume volume (baseConfig top path config)).budget.priorities = .ok p := hload
  simp only [Request.run, settings_request h, hpackage]

/-- The other commands read it with the same settings. -/
theorem loadFor_of_ok {a : Arguments} (h : explicitConfig top a.config = .ok config) :
    loadFor top path a = .ok (.ok (p, baseConfig top path config)) := by
  rw [loadFor_eq h, hload]
  rfl

end Shown

/-- Counting its tokens shows those of the package under these settings. -/
theorem runTokens_of_ok {a : Arguments} {p : Package} {c : Config Rat}
    (h : loadFor top path a = .ok (.ok (p, c))) (colours : Bool) :
    runTokens (α := Rat) top colours path a =
      .ok (.printing .passed (a.format.tokens colours p.name (tokensAt a.volume p c))) := by
  unfold runTokens
  rw [h]
  rfl

/-- Scanning it shows its security findings, sorted. -/
theorem runScan_of_ok {a : Arguments} {p : Package} {c : Config Rat}
    (h : loadFor top path a = .ok (.ok (p, c))) (colours : Bool) :
    runScan (α := Rat) top colours path a =
      .ok (.printing
        (scanVerdict (atLeast a.severity (SecurityReport.ofPackage p c.security).findings))
        (a.format.findings colours p.name
          (atLeast a.severity (SecurityReport.ofPackage p c.security).findings))) := by
  unfold runScan
  rw [h]
  rfl

/-- The verdict on a single package is that on all. -/
theorem verdictOfAll_singleton (r : Response Rat) :
    Response.verdictOfAll [r] = Response.verdict r := by
  have hworse (v : Verdict) : Verdict.passed.worse v = v := by cases v <;> rfl
  exact hworse _

/-- Validating one path is running one request. -/
theorem runValidate_singleton {a : Arguments} (h : explicitConfig top a.config = .ok config)
    (hvolume : a.volume = volume) (hthreshold : a.failUnder = none) (htiers : a.priorities = [])
    (houtput : a.output = none) (colours : Bool) :
    runValidate (α := Rat) top colours [path] a =
      .ok (.printing (Response.verdict ((request path config volume).run top))
        (a.format.response colours ((request path config volume).run top))) := by
  subst hvolume
  have hrequest : requests config [path] a = [request path config a.volume] := by
    rw [requests, hthreshold, htiers]
    rfl
  have hresponses : Request.runAll top (requests config [path] a) =
      [(request path config a.volume).run top] := by
    rw [hrequest]
    rfl
  have hprinted : runValidate (α := Rat) top colours [path] a =
      .ok (.printing (Response.verdictOfAll (Request.runAll top (requests config [path] a)))
        (renderAll colours a.format (Request.runAll top (requests config [path] a))).1) := by
    unfold runValidate
    rw [h, houtput]
    rfl
  rw [hprinted, hresponses, verdictOfAll_singleton]
  rfl

/-! ## Agreement -/

/-- The security findings of a report, in its order. -/
def securityFindings (r : Report Rat) : List Finding :=
  r.findings.filter fun f => f.category = .security

/-- With a report the other commands read the package, and look at what the report shows. -/
theorem exists_loadFor_of_report {report : Report Rat} {a : Arguments}
    (h : explicitConfig top a.config = .ok config)
    (hreport : (request path config volume).run top = .ok report) :
    ∃ (p : Package) (c : Config Rat), loadFor top path a = .ok (.ok (p, c)) ∧
      p.name = report.packageName ∧ tokensAt volume p c = report.tokens ∧
        atLeast none (SecurityReport.ofPackage p c.security).findings =
          securityFindings report := by
  cases hload : Package.load top path (baseConfig top path config).budget.priorities with
  | error e =>
    rw [run_request_of_error hload h] at hreport
    cases hreport
  | ok p =>
    rw [run_request_of_ok hload h] at hreport
    cases hreport
    refine ⟨p, baseConfig top path config, loadFor_of_ok hload h, rfl, rfl, ?_⟩
    exact (Analysis.filter_security_sort (atVolume volume (baseConfig top path config)) p).symm

/-- What it means for the commands to agree with the response to a request to validate the package
    at a path, with a file of settings or none, and a volume or none. -/
structure Agree (top : FileTree) (path : String) (file : Option String) (volume : Option Nat)
    (response : Response Rat) : Prop where
  /-- Validating prints the response and ends as it says. -/
  validate : ∀ colours a, a.config = file → a.volume = volume → a.failUnder = none →
    a.priorities = [] → a.output = none →
      runValidate (α := Rat) top colours [path] a =
        .ok (.printing (Response.verdict response) (a.format.response colours response))
  /-- An error is one of reading the package. The other commands print the same response, and all
      end with the code 2. -/
  refused : ∀ e, response = .error e →
    (∃ l, e = .load l) ∧ (Response.verdict response).exitCode = 2 ∧
      ∀ colours a, a.config = file →
        ∃ outcome, runTokens (α := Rat) top colours path a = .ok outcome ∧
          runScan (α := Rat) top colours path a = .ok outcome ∧ outcome.verdict.exitCode = 2 ∧
            outcome = .printing .invalid (a.format.response colours response)
  /-- With a report the other commands read the package. The tokens that they count and the findings
      that they sort are those of the report. -/
  read : ∀ report, response = .ok report → ∀ a, a.config = file →
    ∃ (p : Package) (c : Config Rat), loadFor top path a = .ok (.ok (p, c)) ∧
      p.name = report.packageName ∧ tokensAt volume p c = report.tokens ∧
        atLeast none (SecurityReport.ofPackage p c.security).findings = securityFindings report
  /-- So the tokens that are told are those of the report, -/
  tokens : ∀ report, response = .ok report → ∀ colours a, a.config = file → a.volume = volume →
    runTokens (α := Rat) top colours path a =
      .ok (.printing .passed (a.format.tokens colours report.packageName report.tokens))
  /-- and the findings that a scan shows are its security findings, in its order. -/
  scan : ∀ report, response = .ok report → ∀ colours a, a.config = file → a.severity = none →
    runScan (α := Rat) top colours path a =
      .ok (.printing (scanVerdict (securityFindings report))
        (a.format.findings colours report.packageName (securityFindings report)))

/-- The commands agree about every package, whenever the file of settings can be used. -/
theorem agree_of_explicitConfig (h : explicitConfig top file = .ok config) :
    Agree top path file volume ((request path config volume).run top) where
  validate := by
    rintro colours a rfl hvolume hthreshold htiers houtput
    exact runValidate_singleton h hvolume hthreshold htiers houtput colours
  refused := by
    intro e he
    cases hload : Package.load top path (baseConfig top path config).budget.priorities with
    | error l =>
      rw [run_request_of_error hload h] at he ⊢
      cases he
      refine ⟨⟨l, rfl⟩, rfl, ?_⟩
      rintro colours a rfl
      exact ⟨_, runTokens_of_error hload h colours, runScan_of_error hload h colours, rfl, rfl⟩
    | ok p =>
      rw [run_request_of_ok hload h] at he
      cases he
  read := by
    rintro report hreport a rfl
    exact exists_loadFor_of_report h hreport
  tokens := by
    rintro report hreport colours a rfl rfl
    obtain ⟨p, c, hload, hname, htokens, -⟩ := exists_loadFor_of_report h hreport
    rw [runTokens_of_ok hload, hname, htokens]
  scan := by
    rintro report hreport colours a rfl hseverity
    obtain ⟨p, c, hload, hname, -, hfindings⟩ := exists_loadFor_of_report h hreport
    rw [runScan_of_ok hload, hseverity, hname, hfindings]

/-! ### A package and a file of settings beside it -/

/-- The text of settings with weights that have to be scaled. -/
def thirdsText : String :=
  "\x7b\"scoring\": \x7b\"weights\": \x7b\"structure\": 1, \"content\": 1, \"efficiency\": 1, " ++
    "\"security\": 0, \"style\": 0\x7d\x7d\x7d"

/-- Its bytes. -/
def thirdsBytes : List UInt8 := Utf8.asciiBytes thirdsText

/-- A folder with a package, and the file of settings. -/
def deskTree : FileTree :=
  .folder [("notes", .folder Package.notesEntries), ("thirds.json", .file thirdsBytes)]

/-- The file of settings is read and prepared. -/
theorem load_thirds :
    Config.load deskTree "thirds.json" = .ok Config.thirds.settle := by
  have hread : deskTree.read? "thirds.json" = some thirdsBytes := by decide +kernel
  have hdecode : Utf8.decode? thirdsBytes = some thirdsText.toList := by
    rw [Utf8.decode?, thirdsBytes, Utf8.decode_asciiBytes (by decide +kernel)]
    decide +kernel
  have htext : Config.ofText "thirds.json" (String.ofList thirdsText.toList) = .ok Config.thirds := by
    decide +kernel
  unfold Config.load
  rw [hread, Option.bind_some, hdecode]
  simp only [htext]
  exact Config.prepare_thirds

/-- The package in the folder can be read. -/
theorem load_deskTree (priorities : Priorities) :
    ∃ p, Package.load deskTree "notes" priorities = .ok p := by
  have hplace : deskTree.locate? "notes" = some ["notes"] := by decide +kernel
  have hfolder : deskTree.lookup? "notes" = some (.folder Package.notesEntries) := by
    rw [FileTree.lookup?, hplace]
    rfl
  exact Package.load_notes hplace hfolder (by decide +kernel) (by decide +kernel)

/-- The package is read with these settings, and the commands agree about it. -/
theorem agree_deskTree :
    explicitConfig deskTree (some "thirds.json") = .ok (some Config.thirds.settle) ∧
      (∃ report,
        (request "notes" (some Config.thirds.settle) (some 1000)).run deskTree = .ok report) ∧
        Agree deskTree "notes" (some "thirds.json") (some 1000)
          ((request "notes" (some Config.thirds.settle) (some 1000)).run deskTree) := by
  have hconfig : explicitConfig deskTree (some "thirds.json") =
      .ok (some Config.thirds.settle) := by
    simp only [explicitConfig, load_thirds]
  obtain ⟨p, hp⟩ := load_deskTree
    (baseConfig deskTree "notes" (some Config.thirds.settle)).budget.priorities
  exact ⟨hconfig, ⟨_, run_request_of_ok hp hconfig⟩, agree_of_explicitConfig hconfig⟩

end SkillAudit.Command
