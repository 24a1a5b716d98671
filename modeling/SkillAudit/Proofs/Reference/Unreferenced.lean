import SkillAudit.Proofs.Package.Notes
import SkillAudit.Proofs.Reference.Message
import SkillAudit.Proofs.Reference.Orphan
/-!
# SkillAudit.Proofs.Reference.Unreferenced

The files that are listed as referred to by nothing are exactly those to which no edge of another
file leads, and each of them is reported once. Cycles and repeated references make no difference,
and what a file says about itself does not count.
-/

namespace SkillAudit.ReferenceGraph

variable {p : Package} {config : ReferencesConfig}

/-! ## The list -/

/-- Whether the files of a package that are scripts or reference files include one at a path. -/
def IsReferable (p : Package) (path : String) : Prop :=
  ∃ f ∈ p.files, f.path = path ∧ (f.role = .reference ∨ f.role = .script)

/-- References and scripts need to be referred to, unless they are entry points. -/
theorem needsReference_iff {entrypoints : List String} {f : PackageFile} :
    needsReference entrypoints f ↔
      (f.role = .reference ∨ f.role = .script) ∧ f.path ∉ entrypoints := by
  simp [needsReference]

/-- An edge comes from a file of the package, so it is enough to look for edges. -/
theorem isReferenced_edges_iff (hmanifest : p.hasFile p.manifestPath) {path : String} :
    isReferenced p (ofPackage p config).edges path ↔
      ∃ e ∈ (ofPackage p config).edges, e.source ≠ path ∧ e.resolved = some path := by
  rw [isReferenced_iff]
  constructor
  · rintro ⟨e, he, hresolved, hne, -⟩
    exact ⟨e, he, hne, hresolved⟩
  · rintro ⟨e, he, hne, hresolved⟩
    obtain ⟨c, hc, rfl⟩ := List.mem_map.mp he
    have hfile := Citation.hasFile_source hmanifest (Citation.mem_of_mem_distinct hc)
    exact ⟨_, he, hresolved, hne, hfile⟩

/-- An orphan is a file that may be referred to, is no entry point, and to which no other file
    refers. -/
theorem mem_orphans_iff (hmanifest : p.hasFile p.manifestPath) {path : String} :
    path ∈ (ofPackage p config).orphans ↔
      IsReferable p path ∧ path ∉ (ofPackage p config).entrypoints ∧
        ¬∃ e ∈ (ofPackage p config).edges, e.source ≠ path ∧ e.resolved = some path := by
  have horphans : (ofPackage p config).orphans =
      orphansOf p (ofPackage p config).entrypoints (ofPackage p config).edges := rfl
  rw [← isReferenced_edges_iff hmanifest, horphans, orphansOf_eq]
  simp only [List.mem_map, List.mem_filter, Bool.and_eq_true, needsReference_iff,
    Bool.not_eq_true', Bool.not_eq_true]
  constructor
  · rintro ⟨f, ⟨hf, ⟨hrole, hnamed⟩, halone⟩, rfl⟩
    exact ⟨⟨f, hf, rfl, hrole⟩, hnamed, halone⟩
  · rintro ⟨⟨f, hf, rfl, hrole⟩, hnamed, halone⟩
    exact ⟨f, ⟨hf, ⟨hrole, hnamed⟩, halone⟩, rfl⟩

/-- The list keeps the order of the files. -/
theorem pairwise_orphans (hsorted : p.files.Pairwise fun f g => f.path < g.path) :
    (ofPackage p config).orphans.Pairwise (· < ·) := by
  have hpaths : (p.files.map (·.path)).Pairwise (· < ·) := List.pairwise_map.mpr hsorted
  have hsub : (ofPackage p config).orphans.Sublist (p.files.map (·.path)) :=
    List.filter_sublist.map _
  exact hpaths.sublist hsub

/-! ## The findings -/

/-- The findings about files that nothing refers to stand behind all others, one for each file. -/
theorem filter_orphanFile (p : Package) (config : ReferencesConfig) :
    (ofPackage p config).findings.filter (·.rule == "orphan-file") =
      (ofPackage p config).orphans.map orphanFinding := by
  simp only [ofPackage, List.filter_append]
  have hcited : ((Citation.distinct (Citation.ofPackage p)).filterMap
      (Citation.finding? p)).filter (·.rule == "orphan-file") = [] := by
    rw [List.filter_eq_nil_iff]
    intro f hf
    obtain ⟨c, -, hc⟩ := List.mem_filterMap.mp hf
    obtain hrule | hrule := Citation.rule_of_finding? hc <;> simp [hrule]
  rw [hcited, List.nil_append, List.filter_eq_self]
  intro f hf
  obtain ⟨path, -, rfl⟩ := List.mem_map.mp hf
  rfl

/-- How many findings say of a file that nothing refers to it. -/
def orphanCount (g : ReferenceGraph) (path : String) : Nat :=
  g.findings.countP fun f => f.rule == "orphan-file" && f.file? == some path

theorem orphanCount_eq (hsorted : p.files.Pairwise fun f g => f.path < g.path) (path : String) :
    (ofPackage p config).orphanCount path =
      if path ∈ (ofPackage p config).orphans then 1 else 0 := by
  have hnodup : (ofPackage p config).orphans.Nodup :=
    nodup_of_increasing (pairwise_orphans hsorted)
  calc (ofPackage p config).orphanCount path
      = ((ofPackage p config).findings.filter (·.rule == "orphan-file")).countP
          (·.file? == some path) := by
        rw [orphanCount, List.countP_filter]
        simp only [Bool.and_comm]
    _ = (ofPackage p config).orphans.count path := by
        rw [filter_orphanFile, List.countP_map, List.count]
        exact List.countP_congr fun other _ => by simp [orphanFinding, Finding.file?]
    _ = if path ∈ (ofPackage p config).orphans then 1 else 0 := hnodup.count

/-! ## Exactness -/

/-- What it means for a graph to list the files of a package that nothing refers to. -/
structure ListsUnreferenced (g : ReferenceGraph) (p : Package) : Prop where
  /-- They are the scripts and reference files that are no entry points and to which no edge of
      another file leads. -/
  mem_orphans_iff : ∀ path, path ∈ g.orphans ↔
    IsReferable p path ∧ path ∉ g.entrypoints ∧
      ¬∃ e ∈ g.edges, e.source ≠ path ∧ e.resolved = some path
  /-- They are listed in order, each one once. -/
  pairwise : g.orphans.Pairwise (· < ·)
  /-- They are reported in this order, -/
  reported : g.findings.filter (·.rule == "orphan-file") = g.orphans.map orphanFinding
  /-- each one once, and no other file is. -/
  orphanCount_eq : ∀ path, g.orphanCount path = if path ∈ g.orphans then 1 else 0

/-- The graph of a package whose files are sorted and include the manifest lists exactly the files
    that nothing refers to. -/
theorem listsUnreferenced_ofPackage (hsorted : p.files.Pairwise fun f g => f.path < g.path)
    (hmanifest : p.hasFile p.manifestPath) (config : ReferencesConfig) :
    (ofPackage p config).ListsUnreferenced p where
  mem_orphans_iff _ := mem_orphans_iff hmanifest
  pairwise := pairwise_orphans hsorted
  reported := filter_orphanFile p config
  orphanCount_eq := orphanCount_eq hsorted

/-! ### Guides that refer to one another -/

/-- A package whose manifest refers to a folder only. Two guides refer to each other, one of them
    twice on a line; a third refers to itself, and a script that nothing refers to is an entry
    point. -/
def circularGuides : Package :=
  .notes .named "See [the guides](references).\n"
    [("references/a.md", "[Next](b.md)\n"), ("references/b.md", "[Back](a.md), [back](a.md)\n"),
      ("references/c.md", "[Again](c.md)\n"), ("scripts/run.sh", "make\n")]

/-- Only the guide that refers to itself alone is an orphan. -/
theorem listsUnreferenced_circularGuides :
    (ofPackage circularGuides ⟨["scripts/run.sh"]⟩).orphans = ["references/c.md"] ∧
      (ofPackage circularGuides ⟨["scripts/run.sh"]⟩).ListsUnreferenced circularGuides :=
  ⟨by decide +kernel, listsUnreferenced_ofPackage (by decide +kernel) (by decide +kernel) _⟩

end SkillAudit.ReferenceGraph
