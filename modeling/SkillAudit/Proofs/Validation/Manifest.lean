import SkillAudit.Proofs.Package.Membership
import SkillAudit.Proofs.Validation.Location
/-!
# SkillAudit.Proofs.Validation.Manifest

The manifest in the analyses of a package. Its front matter and its body are always read, but what
is done file by file sees it only if it is one of the files. It is, unless it is a symbolic link.

* `filesOf_manifest`, `results_manifest`, `mem_nodes_manifest` — what there is of the manifest among
  the files of its role, the budgets and the nodes depends on its file;
* `manifest_of_load` — whether a package that has been read includes its manifest.
-/

namespace SkillAudit

theorem Role.ofPath_eq_manifest {manifestPath path : String} :
    ofPath manifestPath path = manifest ↔ path = manifestPath := by
  unfold ofPath
  split
  · simp [*]
  · split
    · simp [*]
    · split <;> simp [*]

namespace Package

/-! ## What depends on the file -/

section

variable {p : Package}

/-- The files of the role of the manifest: its own, if there is one. -/
theorem filesOf_manifest (hp : p.Coherent) (h : (p.files.map (·.path)).Nodup) :
    p.filesOf .manifest = p.manifest?.toList := by
  rw [manifest?, file?, ← filter_key h]
  refine List.filter_congr fun f hf => ?_
  rw [Bool.eq_iff_iff, beq_iff_eq, beq_iff_eq, hp.role_eq f hf, Role.ofPath_eq_manifest]

/-- The budget of the manifest: that of its file, if there is one. -/
theorem results_manifest {α : Type} [Quantity α] (h : (p.files.map (·.path)).Nodup)
    (config : BudgetConfig α) :
    ((BudgetReport.ofPackage p config).results.filter fun r => r.file == p.manifestPath) =
      (p.manifest?.toList.filter fun f => f.role != .asset && f.text.isSome).map fun f =>
        config.evaluate f.path f.tier f.lineCount (p.tokensOf f) := by
  rw [manifest?, file?, ← filter_key h, List.filter_comm, ← budgetedFiles]
  exact List.filter_map

/-- The manifest is a node if there is a file for it. -/
theorem mem_nodes_manifest {edges : List Edge} :
    p.manifestPath ∈ (FileGraph.ofPackage p edges).nodes ↔ p.manifest?.isSome := by
  simp only [FileGraph.ofPackage, FileGraph.ofEdges, List.mem_map, manifest?, file?,
    List.find?_isSome, beq_iff_eq]

end

/-! ## Packages with and without the manifest -/

/-- What it means for a file to be the manifest of a package that was read. -/
structure IncludesManifest (top : FileTree) (root : String) (p : Package) (f : PackageFile) :
    Prop where
  manifest?_eq : p.manifest? = some f
  role_eq : f.role = .manifest
  /-- No other file has the role. -/
  filesOf_eq : p.filesOf .manifest = [f]
  lineCount_eq : f.lineCount = p.manifestLines
  /-- The text is the one that was read and split into front matter and body. -/
  exists_text : ∃ text, f.text = some text ∧
    (top.read? (FileTree.join root p.manifestPath)).bind textOf = some text ∧
    Manifest.split Yaml.Value.ofText text = .ok ⟨p.frontMatter, p.body, p.bodyStartLine⟩
  /-- It has one budget, which counts the tokens of the two parts. -/
  results_eq : ∀ {α : Type} [Quantity α] (config : BudgetConfig α),
    ((BudgetReport.ofPackage p config).results.filter fun r => r.file == p.manifestPath) =
      [config.evaluate p.manifestPath f.tier p.manifestLines
        (Tokens.ofText p.frontMatter.raw + Tokens.ofText p.body)]
  /-- It is a node, so edges can lead from it and to it. -/
  mem_nodes : ∀ edges, p.manifestPath ∈ (FileGraph.ofPackage p edges).nodes

/-- What it means for a package to have no file that is its manifest. -/
structure LacksManifest (p : Package) : Prop where
  manifest?_eq : p.manifest? = none
  filesOf_eq : p.filesOf .manifest = []
  results_eq : ∀ {α : Type} [Quantity α] (config : BudgetConfig α),
    ((BudgetReport.ofPackage p config).results.filter fun r => r.file == p.manifestPath) = []
  not_mem_nodes : ∀ edges, p.manifestPath ∉ (FileGraph.ofPackage p edges).nodes

section

variable {top : FileTree} {root : String} {priorities : Priorities} {p : Package}

theorem exists_includesManifest (htop : top.IsProper) (h : load top root priorities = .ok p)
    (hlink : ¬top.isLinked root p.manifestPath) : ∃ f, p.IncludesManifest top root f := by
  have hp := coherent_of_load h
  have hnodup := (isUnambiguous_of_load htop h).nodup_paths
  obtain ⟨f, text, hf, htext, hread, hsplit, hlines⟩ := exists_manifest? htop h hlink
  obtain ⟨hmem, hpath⟩ := (find?_key_eq_some hnodup).mp hf
  have hrole : f.role = .manifest := by rw [hp.role_eq f hmem, Role.ofPath_eq_manifest, hpath]
  have hcount : f.lineCount = p.manifestLines := by rw [PackageFile.lineCount, htext, hlines]
  refine ⟨f, hf, hrole, ?_, hcount, ⟨text, htext, hread, hsplit⟩, ?_, ?_⟩
  · rw [filesOf_manifest hp hnodup, hf, Option.toList_some]
  · intro α _ config
    have htokens : p.tokensOf f = Tokens.ofText p.frontMatter.raw + Tokens.ofText p.body := by
      rw [tokensOf, hrole]
    rw [results_manifest hnodup, hf, ← hpath, ← hcount, ← htokens]
    simp [hrole, htext]
  · intro edges
    rw [mem_nodes_manifest, hf, Option.isSome_some]

theorem lacksManifest (htop : top.IsProper) (h : load top root priorities = .ok p)
    (hlink : top.isLinked root p.manifestPath) : p.LacksManifest where
  manifest?_eq := manifest?_eq_none htop h hlink
  filesOf_eq := by
    rw [filesOf_manifest (coherent_of_load h) (isUnambiguous_of_load htop h).nodup_paths,
      manifest?_eq_none htop h hlink, Option.toList_none]
  results_eq := by
    intro α _ config
    rw [results_manifest (isUnambiguous_of_load htop h).nodup_paths,
      manifest?_eq_none htop h hlink]
    rfl
  not_mem_nodes := by
    intro edges
    rw [mem_nodes_manifest, manifest?_eq_none htop h hlink]
    simp

/-- A package that has been read includes its manifest if that is a file of the folder, and lacks it
    if that is a link. -/
theorem manifest_of_load (htop : top.IsProper) (h : load top root priorities = .ok p) :
    (¬top.isLinked root p.manifestPath → ∃ f, p.IncludesManifest top root f) ∧
      (top.isLinked root p.manifestPath → p.LacksManifest) :=
  ⟨exists_includesManifest htop h, lacksManifest htop h⟩

end

/-! ### A manifest that is a file, and one that is a link -/

theorem isProper_notesTree : notesTree.IsProper := by
  simp only [notesTree, notesEntries, FileTree.IsProper, FileTree.AreProper, FileTree.IsName]
  decide +kernel

/-- The package in the tree is read, and includes its manifest. -/
theorem manifest_notesTree :
    ∃ p, load notesTree "notes" [] = .ok p ∧ ¬notesTree.isLinked "notes" p.manifestPath ∧
      ∃ f, p.IncludesManifest notesTree "notes" f := by
  obtain ⟨p, hp⟩ := load_notesTree
  have hlink : ¬notesTree.isLinked "notes" p.manifestPath := by
    have hnames : ∀ name ∈ manifestNames, ¬notesTree.isLinked "notes" name := by decide +kernel
    exact hnames _ (coherent_of_load hp).manifestPath_mem
  exact ⟨p, hp, hlink, (manifest_of_load isProper_notesTree hp).1 hlink⟩

/-- The same manifest in a folder, with a link to it. -/
def linkedEntries : List (String × FileTree) :=
  [("SKILL.md", .link "docs/notes.md"), ("docs", .folder [("notes.md", .file notesBytes)])]

/-- The folder in a tree. -/
def linkedTree : FileTree := .folder [("notes", .folder linkedEntries)]

/-- The package in the tree is read, through the link, and does not include its manifest. -/
theorem lacksManifest_linkedTree :
    linkedTree.IsProper ∧ ∃ p, load linkedTree "notes" [] = .ok p ∧
      ¬∃ f, p.IncludesManifest linkedTree "notes" f := by
  have hproper : linkedTree.IsProper := by
    simp only [linkedTree, linkedEntries, FileTree.IsProper, FileTree.AreProper, FileTree.IsName]
    decide +kernel
  have hplace : linkedTree.locate? "notes" = some ["notes"] := by decide +kernel
  have hfolder : linkedTree.lookup? "notes" = some (.folder linkedEntries) := by
    rw [FileTree.lookup?, hplace]
    rfl
  have hname : (manifestNames.find? fun n => linkedTree.hasFile (FileTree.join "notes" n)) =
      some "SKILL.md" := by decide +kernel
  obtain ⟨p, hp⟩ := load_notes hplace hfolder hname (by decide +kernel)
  have hpath : p.manifestPath = "SKILL.md" :=
    Option.some.inj ((find?_manifestPath hp).symm.trans hname)
  have hlink : linkedTree.isLinked "notes" p.manifestPath := by
    rw [hpath]
    decide +kernel
  refine ⟨hproper, p, hp, ?_⟩
  rintro ⟨f, hf⟩
  have hnone := (lacksManifest hproper hp hlink).manifest?_eq
  rw [hf.manifest?_eq] at hnone
  cases hnone

end Package

end SkillAudit
