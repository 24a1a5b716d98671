import SkillAudit.Proofs.FileTree.Lookup
import SkillAudit.Proofs.Package.Path
/-!
# SkillAudit.Proofs.Package.Membership

Whether the manifest is one of the files of a package. The manifest is found by a lookup, which
follows links, and the files by a walk, which passes them over. The two see the same in a name of
the folder unless it is that of a link; then the package has a manifest, and no file for it.

* `FileTree.mem_files_folder` — which names of a folder the walk finds;
* `exists_manifest?` — a manifest that is no link is a file of the package, with its text;
* `manifest?_eq_none` — one that is a link is not.
-/

namespace SkillAudit

/-! ## Lists with keys -/

section

variable {β : Type} {key : β → String} {k : String} {xs : List β}

/-- If no two share a key, then what has one is alone with it. -/
theorem filter_key (h : (xs.map key).Nodup) :
    xs.filter (fun x => key x == k) = (xs.find? fun x => key x == k).toList := by
  induction xs with
  | nil => rfl
  | cons x xs ih =>
    obtain ⟨hother, hrest⟩ := List.nodup_cons.mp h
    by_cases hx : key x = k
    · have hnone : xs.filter (fun y => key y == k) = [] := by
        rw [List.filter_eq_nil_iff]
        intro y hy hkey
        exact hother (List.mem_map.mpr ⟨y, hy, (beq_iff_eq.mp hkey).trans hx.symm⟩)
      simp [hx, hnone]
    · simp [hx, ih hrest]

theorem find?_key_eq_some (h : (xs.map key).Nodup) {x : β} :
    (xs.find? fun x => key x == k) = some x ↔ x ∈ xs ∧ key x = k := by
  rw [← Option.mem_toList, ← filter_key h, List.mem_filter, beq_iff_eq]

end

/-! ## What a walk finds -/

namespace FileTree

variable {base name : String} {entries : List (String × FileTree)} {bytes : List UInt8}

theorem child?_eq_some {t : FileTree} (h : (entries.map (·.1)).Nodup) :
    child? name entries = some t ↔ (name, t) ∈ entries := by
  simp only [child?, Option.map_eq_some_iff, find?_key_eq_some h]
  constructor
  · rintro ⟨e, ⟨hmem, rfl⟩, rfl⟩
    exact hmem
  · intro hmem
    exact ⟨(name, t), ⟨hmem, rfl⟩, rfl⟩

theorem mem_filesIn {e : String × List UInt8} :
    e ∈ filesIn base entries ↔
      ∃ e' ∈ entries, isVisible e'.1 ∧ e ∈ files (inside base e'.1) e'.2 := by
  induction entries with
  | nil => simp [filesIn]
  | cons e' rest ih =>
    obtain ⟨name, t⟩ := e'
    rw [filesIn, List.mem_append, ih]
    by_cases hvisible : isVisible name <;> simp [hvisible]

/-- What lies in a folder does not have the path of the folder. -/
theorem not_mem_filesIn (hbase : base ≠ "") (hentries : AreProper entries) :
    (base, bytes) ∉ filesIn base entries := by
  intro h
  obtain ⟨e, -, tail, hpath, -⟩ := leadsFrom_of_mem_filesIn entries hentries _ h
  rw [inside_toList, if_neg hbase] at hpath
  have hlength := congrArg List.length hpath
  simp only [List.length_append, List.length_singleton] at hlength
  omega

theorem mem_files_self {t : FileTree} (hbase : base ≠ "") (ht : t.IsProper) :
    (base, bytes) ∈ files base t ↔ t = file bytes := by
  cases t with
  | file b => simp [files, eq_comm]
  | link target => simp [files]
  | folder entries => simp [files, not_mem_filesIn hbase ht.2]

/-- A walk through a folder finds a file under a visible name exactly if the name stands for it. -/
theorem mem_files_folder (hproper : (folder entries).IsProper) (hname : IsName name)
    (hvisible : isVisible name) :
    (name, bytes) ∈ files "" (folder entries) ↔ child? name entries = some (file bytes) := by
  obtain ⟨hnodup, hentries⟩ := hproper
  have hinside (n : String) : inside "" n = n := rfl
  rw [files, mem_filesIn, child?_eq_some hnodup]
  constructor
  · rintro ⟨e, he, -, hmem⟩
    obtain ⟨hn, ht⟩ := hentries.of_mem he
    -- only the entry of this name leads to a path that is the name
    have hfrom : LeadsFrom (inside "" e.1) name :=
      leadsFrom_of_mem_files (inside_ne_empty hn.1) e.2 ht _ hmem
    have hself : LeadsFrom (inside "" name) name := ⟨[], by simp [hinside], rfl⟩
    obtain rfl : e.1 = name := eq_of_leadsFrom_inside hn hname hfrom hself
    rw [hinside, mem_files_self hn.1 ht] at hmem
    exact hmem ▸ he
  · intro he
    exact ⟨(name, file bytes), he, hvisible, by rw [hinside, files, List.mem_singleton]⟩

/-- Whether it is a link. -/
def isLink : FileTree → Bool
  | link _ => true
  | _ => false

/-- Whether a name in the folder that a path leads to is that of a link. -/
def isLinked (top : FileTree) (path name : String) : Bool :=
  match top.lookup? path with
  | some (folder entries) => (child? name entries).any isLink
  | _ => false

theorem isLinked_iff {top : FileTree} {path : String}
    (hfolder : top.lookup? path = some (folder entries)) :
    top.isLinked path name ↔ ∃ target, child? name entries = some (link target) := by
  simp only [isLinked, hfolder, Option.any_eq_true]
  constructor
  · rintro ⟨_ | target | _, hchild, hlink⟩
    · cases hlink
    · exact ⟨target, hchild⟩
    · cases hlink
  · rintro ⟨target, hchild⟩
    exact ⟨link target, hchild, rfl⟩

end FileTree

/-! ## The manifest among the files -/

namespace Package

open FileTree (child? isLinked)

variable {top : FileTree} {root : String} {priorities : Priorities} {p : Package}

theorem manifestNames_plain : ∀ name ∈ manifestNames,
    FileTree.IsName name ∧ FileTree.isVisible name ∧ name ≠ "." ∧ name ≠ ".." := by
  unfold FileTree.IsName
  decide +kernel

/-- A file is the manifest exactly if the name of the manifest stands for it in the folder. -/
theorem manifest?_assemble {name manifestPath text : String} {m : Manifest}
    {entries : List (String × FileTree)} (hentries : (FileTree.folder entries).IsProper)
    (hpath : manifestPath ∈ manifestNames)
    (hnodup : ((assemble name manifestPath text m priorities (.folder entries)).files.map
      (·.path)).Nodup) {f : PackageFile} :
    (assemble name manifestPath text m priorities (.folder entries)).manifest? = some f ↔
      ∃ bytes, child? manifestPath entries = some (.file bytes) ∧
        f = fileOf manifestPath priorities (manifestPath, bytes) := by
  obtain ⟨hname, hvisible, -⟩ := manifestNames_plain _ hpath
  have hwalk (bytes : List UInt8) : (manifestPath, bytes) ∈ (FileTree.folder entries).files "" ↔
      child? manifestPath entries = some (.file bytes) :=
    FileTree.mem_files_folder hentries hname hvisible
  rw [manifest?, file?, find?_key_eq_some hnodup, mem_files_assemble]
  constructor
  · rintro ⟨⟨⟨path, bytes⟩, he, rfl⟩, hf⟩
    obtain rfl : path = manifestPath := hf
    exact ⟨bytes, (hwalk bytes).mp he, rfl⟩
  · rintro ⟨bytes, hchild, rfl⟩
    exact ⟨⟨_, (hwalk bytes).mpr hchild, rfl⟩, rfl⟩

/-- A manifest that is no link is a file of the package. Its text is the one that was read and split
    into front matter and body. -/
theorem exists_manifest? (htop : top.IsProper) (h : load top root priorities = .ok p)
    (hlink : ¬top.isLinked root p.manifestPath) :
    ∃ f text, p.manifest? = some f ∧ f.text = some text ∧
      (top.read? (FileTree.join root p.manifestPath)).bind textOf = some text ∧
      Manifest.split Yaml.Value.ofText text = .ok ⟨p.frontMatter, p.body, p.bodyStartLine⟩ ∧
      p.manifestLines = (Text.lines text.toList).length := by
  have hnodup := (isUnambiguous_of_load htop h).nodup_paths
  obtain ⟨entries, manifestPath, text, m, name, hfolder, hpath, htext, hsplit, rfl⟩ :=
    load_eq_ok h
  obtain ⟨hname, -, hplain⟩ := manifestNames_plain _ hpath
  have hentries := FileTree.isProper_of_lookup? htop hfolder
  obtain ⟨bytes, hread, hbytes⟩ := Option.bind_eq_some_iff.mp htext
  have hlookup : top.lookup? (FileTree.join root manifestPath) = some (.file bytes) := by
    unfold FileTree.read? at hread
    split at hread
    · next hlookup => rw [hlookup, Option.some.inj hread]
    · cases hread
  have hplace (target : String) : child? manifestPath entries ≠ some (.link target) :=
    fun htarget => hlink ((FileTree.isLinked_iff hfolder).mpr ⟨target, htarget⟩)
  have hchild : child? manifestPath entries = some (.file bytes) := by
    rw [← FileTree.lookup?_join hfolder hplace hname.2 ⟨hname.1, hplain⟩, hlookup]
  exact ⟨_, text, (manifest?_assemble hentries hpath hnodup).mpr ⟨bytes, hchild, rfl⟩, hbytes,
    htext, hsplit, rfl⟩

/-- A manifest that is a link is no file of the package. -/
theorem manifest?_eq_none (htop : top.IsProper) (h : load top root priorities = .ok p)
    (hlink : top.isLinked root p.manifestPath) : p.manifest? = none := by
  have hnodup := (isUnambiguous_of_load htop h).nodup_paths
  obtain ⟨entries, manifestPath, text, m, name, hfolder, hpath, -, -, rfl⟩ := load_eq_ok h
  obtain ⟨target, htarget⟩ := (FileTree.isLinked_iff hfolder).mp hlink
  have hentries := FileTree.isProper_of_lookup? htop hfolder
  rw [Option.eq_none_iff_forall_ne_some]
  intro f hf
  obtain ⟨bytes, hchild, -⟩ := (manifest?_assemble hentries hpath hnodup).mp hf
  have hboth : some (FileTree.file bytes) = some (.link target) := hchild.symm.trans htarget
  cases hboth

end Package

end SkillAudit
