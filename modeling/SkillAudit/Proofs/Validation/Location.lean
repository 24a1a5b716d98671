import SkillAudit.Proofs.Budget
import SkillAudit.Proofs.Check.Basic
import SkillAudit.Proofs.Package.Notes
import SkillAudit.Proofs.Reference.Blocks
import SkillAudit.Proofs.Reference.Graph
import SkillAudit.Proofs.Security.Scan
import SkillAudit.Validation
/-!
# SkillAudit.Proofs.Validation.Location

Where findings and references are said to be, they are. Every file that is named is the manifest or
another file of the package; every line number is that of a line of the file as it was read, the
front matter of the manifest included; and the line of a reference holds its target, as the line of
a security finding is the one that its message shows.
-/

namespace SkillAudit

open Text

/-! ## The lines of a package -/

namespace Package

/-- The texts of a package as they are read from a tree: the manifest is looked up, and the other
    files are met on the way through the folder. -/
inductive HasText (top : FileTree) (root : String) (p : Package) : String → String → Prop where
  | manifest {text : String}
      (read : (top.read? (FileTree.join root p.manifestPath)).bind textOf = some text) :
      HasText top root p p.manifestPath text
  | file {entries : List (String × FileTree)} {path text : String} {bytes : List UInt8}
      (folder : top.lookup? root = some (.folder entries))
      (met : (path, bytes) ∈ (FileTree.folder entries).files "")
      (path_ne : path ≠ p.manifestPath) (text_eq : textOf bytes = some text) :
      HasText top root p path text

/-- Whether a file of a package has a line with a number, as it is read from a tree. -/
def HasLine (top : FileTree) (root : String) (p : Package) (path : String) (n : Nat)
    (l : List Char) : Prop :=
  ∃ text, p.HasText top root path text ∧ LineAt text.toList n l

/-- The number of a line lies within the text. -/
theorem HasLine.le_length {top : FileTree} {root : String} {p : Package} {path : String} {n : Nat}
    {l : List Char} (h : p.HasLine top root path n l) :
    ∃ text, p.HasText top root path text ∧ 1 ≤ n ∧ n ≤ (lines text.toList).length := by
  obtain ⟨text, htext, hl⟩ := h
  exact ⟨text, htext, hl.1, hl.le_length⟩

/-- Whether a path is that of the manifest or of another file. -/
def IsNamed (p : Package) (path : String) : Prop :=
  path = p.manifestPath ∨ ∃ f ∈ p.files, f.path = path

variable {top : FileTree} {root : String} {priorities : Priorities} {p : Package}

/-- The text of the manifest can be split into the parts that the package has. -/
theorem hasText_manifest (h : load top root priorities = .ok p) :
    ∃ text m, p.HasText top root p.manifestPath text ∧
      Manifest.split Yaml.Value.ofText text = .ok m ∧ p.frontMatter = m.frontMatter ∧
        p.body = m.body ∧ p.bodyStartLine = m.bodyStartLine := by
  obtain ⟨entries, manifestPath, text, m, name, -, -, hread, hsplit, rfl⟩ := load_eq_ok h
  exact ⟨text, m, .manifest hread, hsplit, rfl, rfl, rfl⟩

/-- The lines of the front matter have their numbers in the manifest. -/
theorem hasLine_raw (h : load top root priorities = .ok p) {i : Nat} {l : List Char}
    (hl : (lines p.frontMatter.raw.toList)[i]? = some l) :
    p.HasLine top root p.manifestPath (FrontMatter.startLine + i) l := by
  obtain ⟨text, m, htext, hsplit, hfm, -, -⟩ := hasText_manifest h
  rw [hfm] at hl
  exact ⟨text, htext, Manifest.lineAt_raw hsplit hl⟩

/-- The lines of the body have their numbers in the manifest. -/
theorem hasLine_body (h : load top root priorities = .ok p) {i : Nat} {l : List Char}
    (hl : (lines p.body.toList)[i]? = some l) :
    p.HasLine top root p.manifestPath (p.bodyStartLine + i) l := by
  obtain ⟨text, m, htext, hsplit, -, hbody, hstart⟩ := hasText_manifest h
  rw [hbody] at hl
  rw [hstart]
  exact ⟨text, htext, Manifest.lineAt_body hsplit hl⟩

/-- The first line of the front matter is a line of the manifest even if there is none in it. -/
theorem hasLine_startLine (h : load top root priorities = .ok p) :
    ∃ l, p.HasLine top root p.manifestPath FrontMatter.startLine l := by
  obtain ⟨text, m, htext, hsplit, -⟩ := hasText_manifest h
  obtain ⟨l, hl⟩ := Manifest.exists_lineAt_startLine hsplit
  exact ⟨l, text, htext, hl⟩

/-- The lines of another file are numbered from one. -/
theorem hasLine_file (h : load top root priorities = .ok p) {f : PackageFile} (hf : f ∈ p.files)
    (hne : f.path ≠ p.manifestPath) {text : String} (htext : f.text = some text) {i : Nat}
    {l : List Char} (hl : (lines text.toList)[i]? = some l) :
    p.HasLine top root f.path (1 + i) l := by
  obtain ⟨entries, manifestPath, _, m, name, hfolder, -, -, -, rfl⟩ := load_eq_ok h
  obtain ⟨⟨path, bytes⟩, hmet, rfl⟩ := mem_files_assemble.mp hf
  exact ⟨text, .file hfolder hmet hne htext, lineAt_add.mpr hl⟩

/-- The line of a key is a line of the manifest. -/
theorem hasLine_lineOf? (h : load top root priorities = .ok p) {key : String} {n : Nat}
    (hkey : p.frontMatter.lineOf? key = some n) : ∃ l, p.HasLine top root p.manifestPath n l := by
  obtain ⟨i, l, hl, rfl⟩ := FrontMatter.lineOf?_eq_some hkey
  exact ⟨l, hasLine_raw h hl⟩

/-! ## References -/

/-- A reference stands in a file of the package, on a line that holds its target. -/
theorem hasLine_citation (h : load top root priorities = .ok p) {c : Citation}
    (hc : c ∈ Citation.ofPackage p) :
    p.IsNamed c.source ∧
      ∃ l, p.HasLine top root c.source c.mention.line l ∧ c.mention.target.toList <:+: l := by
  have hp := coherent_of_load h
  obtain ⟨hsource, b, hb, hm⟩ | ⟨f, hf, hrole, hsource, t, ht, hm⟩ := Citation.mem_ofPackage.mp hc
  · -- a reference of a block is one of the body, up to the carriage return of its line
    have hbody : c.mention ∈
        Mention.ofLines none p.bodyStartLine ((lines p.body.toList).map dropReturn) := by
      rw [← Block.mentions_ofText, ← hp.blocks_eq]
      exact List.mem_flatMap.mpr ⟨b, hb, hm⟩
    obtain ⟨i, line, hline, hof⟩ := Mention.mem_ofLines hbody
    obtain ⟨hnumber, htarget⟩ := Mention.mem_ofLine hof
    rw [List.getElem?_map] at hline
    obtain ⟨l, hl, rfl⟩ := Option.map_eq_some_iff.mp hline
    refine ⟨.inl hsource, l, ?_, htarget.trans (prefix_dropReturn l).isInfix⟩
    rw [hsource, hnumber]
    exact hasLine_body h hl
  · obtain ⟨i, l, hl, hof⟩ := Mention.mem_ofLines hm
    obtain ⟨hnumber, htarget⟩ := Mention.mem_ofLine hof
    refine ⟨.inr ⟨f, hf, hsource.symm⟩, l, ?_, htarget⟩
    rw [hsource, hnumber]
    exact hasLine_file h hf (hp.path_ne hf (by simp [hrole])) ht hl

/-! ## Scanned lines -/

/-- A line that stands in a package is a line of one of its files, under its number. -/
theorem hasLine_stands (h : load top root priorities = .ok p) {file : String} {n : Nat}
    {text : List Char} {context? : Option LineContext}
    (hl : Scan.Stands p file n text context?) :
    p.IsNamed file ∧ p.HasLine top root file n text := by
  have hp := coherent_of_load h
  cases hl with
  | frontMatter line => exact ⟨.inl rfl, hasLine_raw h line⟩
  | body line _ _ => exact ⟨.inl rfl, hasLine_body h line⟩
  | script mem role read line =>
    exact ⟨.inr ⟨_, mem, rfl⟩, hasLine_file h mem (hp.path_ne mem (by simp [role])) read line⟩
  | reference mem role read line _ _ =>
    exact ⟨.inr ⟨_, mem, rfl⟩, hasLine_file h mem (hp.path_ne mem (by simp [role])) read line⟩

/-- A scanned line is a line of a file of the package, under its number. -/
theorem hasLine_scanned (h : load top root priorities = .ok p) {l : Scan.Line}
    (hl : l ∈ Scan.ofPackage p) :
    p.IsNamed l.file ∧ p.HasLine top root l.file l.number l.text :=
  hasLine_stands h (Scan.mem_ofPackage.mp hl)

end Package

/-! ## Findings -/

/-- Whether a finding names a file of the package, and a line of that file if it names one. -/
def Finding.IsLocated (top : FileTree) (root : String) (p : Package) (f : Finding) : Prop :=
  ∃ path line?, f.location = some ⟨path, line?⟩ ∧ p.IsNamed path ∧
    ∀ n, line? = some n →
      ∃ text, p.HasText top root path text ∧ 1 ≤ n ∧ n ≤ (lines text.toList).length

namespace Finding

variable {top : FileTree} {root path : String} {p : Package} {f : Finding}

/-- A finding about a file as a whole names no line. -/
theorem IsLocated.ofFile (hf : f.location = some ⟨path, none⟩) (hpath : p.IsNamed path) :
    f.IsLocated top root p := ⟨path, none, hf, hpath, nofun⟩

/-- A finding about a line has to name one of its file. -/
theorem IsLocated.ofLine {n : Nat} {l : List Char} (hf : f.location = some ⟨path, some n⟩)
    (hpath : p.IsNamed path) (hl : p.HasLine top root path n l) : f.IsLocated top root p := by
  refine ⟨path, some n, hf, hpath, fun m hm => ?_⟩
  cases hm
  exact hl.le_length

/-- A finding about a key of the front matter names the line of the key if there is one. -/
theorem IsLocated.ofKey {priorities : Priorities} {key : String}
    (h : Package.load top root priorities = .ok p)
    (hf : f.location = some ⟨p.manifestPath, p.frontMatter.lineOf? key⟩) :
    f.IsLocated top root p := by
  cases hkey : p.frontMatter.lineOf? key with
  | none =>
    rw [hkey] at hf
    exact .ofFile hf (.inl rfl)
  | some n =>
    rw [hkey] at hf
    obtain ⟨l, hl⟩ := Package.hasLine_lineOf? h hkey
    exact .ofLine hf (.inl rfl) hl

end Finding

section

variable {top : FileTree} {root : String} {priorities : Priorities} {p : Package}
variable (h : Package.load top root priorities = .ok p)

include h

theorem ReferenceGraph.isLocated_of_mem {config : ReferencesConfig} {f : Finding}
    (hf : f ∈ (ofPackage p config).findings) : f.IsLocated top root p := by
  cases List.mem_append.mp hf with
  | inl hf =>
    obtain ⟨c, hc, hfinding⟩ := List.mem_filterMap.mp hf
    obtain ⟨hnamed, l, hl, -⟩ := Package.hasLine_citation h (Citation.mem_of_mem_distinct hc)
    exact .ofLine (Citation.finding?_location hfinding) hnamed hl
  | inr hf =>
    obtain ⟨path, hpath, rfl⟩ := List.mem_map.mp hf
    obtain ⟨g, hg, rfl⟩ := List.mem_map.mp hpath
    exact .ofFile rfl (.inr ⟨g, (List.mem_filter.mp hg).1, rfl⟩)

theorem SecurityReport.isLocated_of_mem {config : SecurityConfig} {f : Finding}
    (hf : f ∈ (ofPackage p config).findings) : f.IsLocated top root p := by
  obtain ⟨l, hl, hf⟩ | ⟨-, key, -, hf⟩ | ⟨-, hf⟩ := mem_findings.mp hf
  · obtain ⟨r, -, rfl⟩ := Scan.mem_findingsOf.mp hf
    obtain ⟨hnamed, hline⟩ := Package.hasLine_scanned h hl
    exact .ofLine rfl hnamed hline
  · exact .ofKey h (Permission.finding?_eq_some hf).2
  · obtain ⟨i, line, hline, rfl⟩ := Scan.guidanceFinding?_eq_some hf
    exact .ofLine rfl (.inl rfl) (Package.hasLine_body h hline)

omit h in
theorem BudgetReport.isLocated_of_mem {α : Type} [Quantity α] {config : BudgetConfig α}
    {f : Finding} (hf : f ∈ (ofPackage p config).findings) : f.IsLocated top root p := by
  obtain ⟨path, hlocation, hpath⟩ := (isReported_of_mem hf).location_eq
  exact .ofFile hlocation hpath

theorem Check.isLocated_of_mem {α : Type} {config : Config α} {f : Finding}
    (hf : f ∈ findingsOf all p config) : f.IsLocated top root p := by
  obtain ⟨c, hc, r, hr, rfl⟩ := mem_findingsOf.mp hf
  have hlocation : (c.finding r).location = some ⟨r.file, r.line⟩ := rfl
  cases places_of_mem_all hc p config r hr with
  | manifest hfile hline =>
    rw [hfile, hline] at hlocation
    exact .ofFile hlocation (.inl rfl)
  | frontMatter hfile hline =>
    rw [hfile, hline] at hlocation
    obtain ⟨l, hl⟩ := Package.hasLine_startLine h
    exact .ofLine hlocation (.inl rfl) hl
  | key key hfile hline =>
    rw [hfile, hline] at hlocation
    exact .ofKey h hlocation
  | file g hg hfile hline =>
    rw [hfile, hline] at hlocation
    exact .ofFile hlocation (.inr ⟨g, hg, rfl⟩)

/-- The finding of a rule for lines that may show the line shows the one that it names. -/
theorem SecurityReport.message_of_mem {config : SecurityConfig} {f : Finding}
    (hf : f ∈ (ofPackage p config).findings) {r : SecurityRule} (hr : r ∈ SecurityRule.ofLines)
    (hsecret : r ≠ .hardcodedSecret) (hrule : f.rule = r.id) :
    ∃ path n l, f.location = some ⟨path, some n⟩ ∧ p.HasLine top root path n l ∧
      f.message = r.title ++ ": " ++ Scan.snippet l := by
  obtain ⟨l, hl, hf⟩ | ⟨-, key, -, hf⟩ | ⟨-, hf⟩ := mem_findings.mp hf
  · obtain ⟨r', -, rfl⟩ := Scan.mem_findingsOf.mp hf
    obtain rfl : r' = r := SecurityRule.id_injective hrule
    refine ⟨l.file, l.number, l.text, rfl, (Package.hasLine_scanned h hl).2, ?_⟩
    rw [Scan.finding, Scan.message, if_neg hsecret]
  · rw [(Permission.finding?_eq_some hf).1] at hrule
    obtain rfl : SecurityRule.broadPermission = r := SecurityRule.id_injective hrule
    exact absurd hr (by decide)
  · obtain ⟨i, line, -, rfl⟩ := Scan.guidanceFinding?_eq_some hf
    obtain rfl : SecurityRule.promptInjectionGuidance = r := SecurityRule.id_injective hrule
    exact absurd hr (by decide)

end

/-! ## Packages -/

namespace Package

variable {α : Type} [Quantity α]

/-- What it means for an analysis to be true to the places that it names. -/
structure IsFaithful (top : FileTree) (root : String) (config : Config α) (p : Package) : Prop where
  /-- Every finding is in a file of the package, on a line of it if it names one. -/
  located : ∀ f ∈ (Analysis.of config p).findings, f.IsLocated top root p
  /-- Every reference stands on its line. -/
  cited : ∀ e ∈ (Analysis.of config p).references.edges,
    ∃ l, p.HasLine top root e.source e.line l ∧ e.target.toList <:+: l
  /-- A finding of a rule for lines shows the line that it names, unless that is a secret. -/
  shown : ∀ f ∈ (Analysis.of config p).security.findings, ∀ r ∈ SecurityRule.ofLines,
    r ≠ .hardcodedSecret → f.rule = r.id →
      ∃ path n l, f.location = some ⟨path, some n⟩ ∧ p.HasLine top root path n l ∧
        f.message = r.title ++ ": " ++ Scan.snippet l

/-- The analysis of a package that has been read is true to the places that it names. -/
theorem isFaithful_of_load {top : FileTree} {root : String} {priorities : Priorities} {p : Package}
    (h : load top root priorities = .ok p) (config : Config α) : p.IsFaithful top root config where
  located := by
    intro f hf
    obtain hf | hf := List.mem_append.mp hf
    · obtain hf | hf := List.mem_append.mp hf
      · obtain hf | hf := List.mem_append.mp hf
        · exact ReferenceGraph.isLocated_of_mem h hf
        · exact SecurityReport.isLocated_of_mem h hf
      · exact BudgetReport.isLocated_of_mem hf
    · exact Check.isLocated_of_mem h hf
  cited := by
    intro e he
    obtain ⟨c, hc, rfl⟩ := List.mem_map.mp he
    exact (hasLine_citation h (Citation.mem_of_mem_distinct hc)).2
  shown := fun f hf r hr hsecret hrule => SecurityReport.message_of_mem h hf hr hsecret hrule

/-! ### A package in a tree -/

/-- A manifest with a dangling link on a line that ends in a carriage return, and with a code
    span. -/
def notesText : String :=
  "---\nname: notes\n---\n# Notes\n\nSee [a guide](references/guide.md).\r\nRun `eval(input())`.\n"

/-- Its bytes. -/
def notesBytes : List UInt8 := Utf8.asciiBytes notesText

/-- The entries of a folder with that manifest only. -/
def notesEntries : List (String × FileTree) := [("SKILL.md", .file notesBytes)]

/-- The folder in a tree. -/
def notesTree : FileTree := .folder [("notes", .folder notesEntries)]

theorem textOf_notesBytes : textOf notesBytes = some notesText :=
  textOf_asciiBytes (by decide +kernel) (by decide +kernel)

/-- The manifest is read wherever the folder is, and whatever else is in it. -/
theorem load_notes {top : FileTree} {priorities : Priorities}
    {entries : List (String × FileTree)} (hplace : top.locate? "notes" = some ["notes"])
    (hfolder : top.lookup? "notes" = some (.folder entries))
    (hname : (manifestNames.find? fun n => top.hasFile (FileTree.join "notes" n)) =
      some "SKILL.md")
    (hread : top.read? (FileTree.join "notes" "SKILL.md") = some notesBytes) :
    ∃ p, load top "notes" priorities = .ok p := by
  have htext : (top.read? (FileTree.join "notes" "SKILL.md")).bind textOf = some notesText := by
    rw [hread, Option.bind_some, textOf_notesBytes]
  have hok : (Manifest.split Yaml.Value.ofText notesText).isOk := by decide +kernel
  cases hsplit : Manifest.split Yaml.Value.ofText notesText with
  | error e =>
    rw [hsplit] at hok
    cases hok
  | ok m => exact ⟨_, load_of_split hplace hfolder hname htext hsplit⟩

theorem load_notesTree : ∃ p, load notesTree "notes" [] = .ok p := by
  have hplace : notesTree.locate? "notes" = some ["notes"] := by decide +kernel
  have hfolder : notesTree.lookup? "notes" = some (.folder notesEntries) := by
    rw [FileTree.lookup?, hplace]
    rfl
  exact load_notes hplace hfolder (by decide +kernel) (by decide +kernel)

/-- The package in the tree is read, and its analysis is true to the places that it names. -/
theorem isFaithful_notesTree :
    ∃ p, load notesTree "notes" [] = .ok p ∧
      p.IsFaithful notesTree "notes" (Config.default : Config Rat) := by
  obtain ⟨p, hp⟩ := load_notesTree
  exact ⟨p, hp, isFaithful_of_load hp Config.default⟩

end Package

end SkillAudit
