import SkillAudit.Package.Load
import SkillAudit.Proofs.Package.Manifest
/-!
# SkillAudit.Proofs.Package.Load

What reading a package makes of a tree: the parts of the manifest, the blocks of its body, and the
files of the folder under the roles of their paths.
-/

namespace SkillAudit

namespace Package

/-! ## Packages as they are read -/

/-- What every package that is read keeps to. -/
structure Coherent (p : Package) : Prop where
  /-- The manifest has one of the names for it, so it lies at the root. -/
  manifestPath_mem : p.manifestPath ∈ manifestNames
  /-- The blocks are those of the body. -/
  blocks_eq : p.blocks = Block.ofText p.bodyStartLine p.body
  /-- The role of a file is that of its path. -/
  role_eq : ∀ f ∈ p.files, f.role = Role.ofPath p.manifestPath f.path

/-- A file with another role than the manifest has another path. -/
theorem Coherent.path_ne {p : Package} (hp : p.Coherent) {f : PackageFile} (hf : f ∈ p.files)
    (hrole : f.role ≠ .manifest) : f.path ≠ p.manifestPath := by
  intro hpath
  rw [hp.role_eq f hf, hpath, Role.ofPath, if_pos rfl] at hrole
  exact hrole rfl

/-- The manifest lies at the root. -/
theorem Coherent.folder_manifestPath {p : Package} (hp : p.Coherent) :
    FilePath.folder p.manifestPath = "" := by
  have hnames : ∀ name ∈ manifestNames, FilePath.folder name = "" := by decide +kernel
  exact hnames p.manifestPath hp.manifestPath_mem

/-- The files of a package are those of the tree. -/
theorem mem_files_assemble {name manifestPath text : String} {m : Manifest}
    {priorities : Priorities} {tree : FileTree} {f : PackageFile} :
    f ∈ (assemble name manifestPath text m priorities tree).files ↔
      ∃ entry ∈ tree.files "", f = fileOf manifestPath priorities entry := by
  simp only [assemble, List.mem_map, List.mem_mergeSort, eq_comm]

/-- What is assembled is coherent. -/
theorem coherent_assemble {name manifestPath text : String} {m : Manifest}
    {priorities : Priorities} {tree : FileTree} (h : manifestPath ∈ manifestNames) :
    (assemble name manifestPath text m priorities tree).Coherent where
  manifestPath_mem := h
  blocks_eq := rfl
  role_eq := by
    intro f hf
    obtain ⟨entry, -, rfl⟩ := mem_files_assemble.mp hf
    rfl

/-! ## Reading -/

variable {top : FileTree} {root : String} {priorities : Priorities} {p : Package}

/-- A package that can be read lies in a folder, with a manifest that is text and can be split. -/
theorem load_eq_ok (h : load top root priorities = .ok p) :
    ∃ entries manifestPath text m name,
      top.lookup? root = some (.folder entries) ∧ manifestPath ∈ manifestNames ∧
        (top.read? (FileTree.join root manifestPath)).bind textOf = some text ∧
        Manifest.split Yaml.Value.ofText text = .ok m ∧
        p = assemble name manifestPath text m priorities (.folder entries) := by
  unfold load at h
  split at h
  · next place entries hplace hlookup =>
    split at h
    · cases h
    · next manifestPath hfind =>
      simp only at h
      split at h
      · cases h
      · next m hsplit =>
        cases h
        cases htext : (top.read? (FileTree.join root manifestPath)).bind textOf with
        | none =>
          -- nothing to read counts as an empty text, which has no opening line
          rw [htext] at hsplit
          cases hsplit
        | some text =>
          rw [htext] at hsplit
          exact ⟨entries, manifestPath, text, m, _, hlookup, List.mem_of_find?_eq_some hfind, htext,
            hsplit, rfl⟩
  · cases h

/-- A folder with a manifest that is text and can be split is a package. -/
theorem load_of_split {place : List String} {entries : List (String × FileTree)}
    {manifestPath text : String} {m : Manifest} (hplace : top.locate? root = some place)
    (hfolder : top.lookup? root = some (.folder entries))
    (hname : (manifestNames.find? fun n => top.hasFile (FileTree.join root n)) = some manifestPath)
    (htext : (top.read? (FileTree.join root manifestPath)).bind textOf = some text)
    (hsplit : Manifest.split Yaml.Value.ofText text = .ok m) :
    load top root priorities =
      .ok (assemble ((m.frontMatter.name?.orElse fun _ => place.getLast?).getD root) manifestPath
        text m priorities (.folder entries)) := by
  simp only [load, hplace, hfolder, hname, htext, Option.getD_some, hsplit]

/-- The manifest of a package that is read is the first one that there is. -/
theorem find?_manifestPath (h : load top root priorities = .ok p) :
    (manifestNames.find? fun n => top.hasFile (FileTree.join root n)) = some p.manifestPath := by
  unfold load at h
  split at h
  · split at h
    · cases h
    · next hfind =>
      simp only at h
      split at h
      · cases h
      · cases h
        exact hfind
  · cases h

/-- Every package that is read is coherent. -/
theorem coherent_of_load (h : load top root priorities = .ok p) : p.Coherent := by
  obtain ⟨entries, manifestPath, text, m, name, -, hname, -, -, rfl⟩ := load_eq_ok h
  exact coherent_assemble hname

/-- A file has the tier that its path is given, or else that of its role. -/
theorem tier_of_load (h : load top root priorities = .ok p) {f : PackageFile} (hf : f ∈ p.files) :
    f.tier = (priorities.tier? f.path).getD f.role.tier := by
  obtain ⟨entries, manifestPath, text, m, name, -, -, -, -, rfl⟩ := load_eq_ok h
  obtain ⟨entry, -, rfl⟩ := mem_files_assemble.mp hf
  rfl

end Package

end SkillAudit
