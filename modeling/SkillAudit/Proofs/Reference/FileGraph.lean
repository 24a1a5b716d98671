import SkillAudit.Reference.Graph
/-!
# SkillAudit.Proofs.Reference.FileGraph

What the nodes and arcs of the graph of files tell about its edges. Paths have nodes of their own,
so an arc from another node is an edge from another file: a file is alone in the graph exactly when
no edge from another file of the package leads to it, whatever else leads where.
-/

namespace SkillAudit

namespace FileGraph

variable {nodes : List String} {edges : List Edge} {path : String} {n : Nat}

/-! ## Nodes -/

/-- A node is the place of one path. -/
theorem eq_of_idxOf? {a b : String} (ha : nodes.idxOf? a = some n) (hb : nodes.idxOf? b = some n) :
    a = b := by
  obtain ⟨_, hna, -⟩ := List.idxOf?_eq_some_iff.mp ha
  obtain ⟨_, hnb, -⟩ := List.idxOf?_eq_some_iff.mp hb
  exact hna.symm.trans hnb

theorem exists_idxOf? (h : path ∈ nodes) : ∃ n, nodes.idxOf? path = some n := by
  cases hn : nodes.idxOf? path with
  | none => exact absurd h (List.idxOf?_eq_none_iff.mp hn)
  | some n => exact ⟨n, rfl⟩

theorem mem_of_idxOf? (h : nodes.idxOf? path = some n) : path ∈ nodes := by
  obtain ⟨_, hn, -⟩ := List.idxOf?_eq_some_iff.mp h
  exact hn ▸ List.getElem_mem _

/-! ## Arcs -/

/-- An edge has an arc if it leads from a node to a node. -/
theorem arc?_eq_some {e : Edge} {source target : Nat} :
    arc? nodes e = some (source, target) ↔
      nodes.idxOf? e.source = some source ∧
        ∃ path, e.resolved = some path ∧ nodes.idxOf? path = some target := by
  simp only [arc?, Option.bind_eq_some_iff, Option.map_eq_some_iff, Prod.mk.injEq]
  constructor
  · rintro ⟨s, hs, t, ht, rfl, rfl⟩
    exact ⟨hs, ht⟩
  · rintro ⟨hs, ht⟩
    exact ⟨source, hs, target, ht, rfl, rfl⟩

/-- A node is entered exactly when an edge from another file leads to its path. -/
theorem isEntered_ofEdges (h : nodes.idxOf? path = some n) :
    (ofEdges nodes edges).isEntered n ↔
      ∃ e ∈ edges, e.resolved = some path ∧ e.source ≠ path ∧ e.source ∈ nodes := by
  simp only [isEntered, ofEdges, List.any_eq_true, List.mem_filterMap, Bool.and_eq_true, beq_iff_eq,
    bne_iff_ne]
  constructor
  · rintro ⟨⟨source, target⟩, ⟨e, he, harc⟩, htarget, hne⟩
    obtain ⟨hsource, other, hresolved, hother⟩ := arc?_eq_some.mp harc
    obtain rfl : target = n := htarget
    obtain rfl := eq_of_idxOf? hother h
    refine ⟨e, he, hresolved, ?_, mem_of_idxOf? hsource⟩
    intro hloop
    rw [hloop, h] at hsource
    exact hne (Option.some.inj hsource).symm
  · rintro ⟨e, he, hresolved, hne, hmem⟩
    obtain ⟨source, hsource⟩ := exists_idxOf? hmem
    refine ⟨(source, n), ⟨e, he, arc?_eq_some.mpr ⟨hsource, path, hresolved, h⟩⟩, rfl, ?_⟩
    intro hloop
    obtain rfl : source = n := hloop
    exact hne (eq_of_idxOf? hsource h)

/-- A file is alone exactly when no edge from another file leads to it. -/
theorem isAlone_ofEdges (h : path ∈ nodes) :
    (ofEdges nodes edges).isAlone path ↔
      ¬∃ e ∈ edges, e.resolved = some path ∧ e.source ≠ path ∧ e.source ∈ nodes := by
  obtain ⟨n, hn⟩ := exists_idxOf? h
  have hnode : (ofEdges nodes edges).nodes.idxOf? path = some n := hn
  rw [isAlone, hnode, Option.any_some, Bool.not_eq_true', Bool.eq_false_iff, ne_eq,
    isEntered_ofEdges hn]

end FileGraph

/-! ## Files that nothing refers to -/

namespace ReferenceGraph

variable {p : Package} {entrypoints : List String} {edges : List Edge}

/-- Whether a file of the package, other than the one at `path`, refers to it. -/
def isReferenced (p : Package) (edges : List Edge) (path : String) : Bool :=
  edges.any fun e => e.resolved == some path && e.source != path && p.hasFile e.source

theorem isReferenced_iff {path : String} :
    isReferenced p edges path ↔
      ∃ e ∈ edges, e.resolved = some path ∧ e.source ≠ path ∧ p.hasFile e.source := by
  simp only [isReferenced, List.any_eq_true, Bool.and_eq_true, beq_iff_eq, bne_iff_ne, and_assoc]

/-- A file is alone in the graph of files exactly when no other file refers to it. -/
theorem isAlone_files {f : PackageFile} (hf : f ∈ p.files) :
    (FileGraph.ofPackage p edges).isAlone f.path = !isReferenced p edges f.path := by
  have hfiles (source : String) : source ∈ p.files.map (·.path) ↔ p.hasFile source := by
    simp only [List.mem_map, Package.hasFile, List.any_eq_true, beq_iff_eq]
  rw [Bool.eq_iff_iff, FileGraph.ofPackage, FileGraph.isAlone_ofEdges (List.mem_map_of_mem hf),
    Bool.not_eq_true', Bool.eq_false_iff, ne_eq, isReferenced_iff]
  simp only [hfiles]

/-- The files that should be referred to and are not, without the graph. -/
theorem orphansOf_eq :
    orphansOf p entrypoints edges =
      (p.files.filter fun f => needsReference entrypoints f && !isReferenced p edges f.path).map
        (·.path) := by
  rw [orphansOf]
  refine congrArg _ (List.filter_congr fun f hf => ?_)
  rw [isAlone_files hf]

end ReferenceGraph

end SkillAudit
