import Mathlib.Data.List.Nodup
import SkillAudit.Proofs.Package.Notes
import SkillAudit.Proofs.Reference.FileGraph
import SkillAudit.Proofs.Reference.Graph
/-!
# SkillAudit.Proofs.Reference.Orphan

Deleting a file that nothing refers to. The file answers no lookup that another file makes, so the
other files keep their references, and each of these leads where it led before:

* `resolve_without_path?` — a resolution that does not lead to the file survives it;
* `ofPackage_without` — the citations that are left are those of the other files;
* `edges_without` — so are the edges.
-/

namespace SkillAudit

/-! ## Deleting a file -/

namespace Package

/-- The package without the file at a path; everything else stays. -/
def without (p : Package) (path : String) : Package :=
  { p with files := p.files.filter fun f => f.path != path }

variable {p : Package} {path : String}

/-- Without a file the others are still there. -/
theorem hasFile_without (p : Package) (path other : String) :
    (p.without path).hasFile other = (p.hasFile other && other != path) := by
  rw [Bool.eq_iff_iff]
  simp only [hasFile, without, List.any_filter, List.any_eq_true, Bool.and_eq_true, beq_iff_eq,
    bne_iff_ne]
  constructor
  · rintro ⟨f, hf, hne, rfl⟩
    exact ⟨⟨f, hf, rfl⟩, hne⟩
  · rintro ⟨⟨f, hf, rfl⟩, hne⟩
    exact ⟨f, hf, hne, rfl⟩

/-- What is found elsewhere is still found, and nothing is found where nothing was. -/
theorem find?_without {other : String} (h : ∀ r, p.find? other = some r → r.path? ≠ some path) :
    (p.without path).find? other = p.find? other := by
  have hfolder : (p.without path).hasFolder other = p.hasFolder other := rfl
  by_cases hother : other = path
  · subst hother
    have hfile : p.hasFile other = false := by
      refine Bool.eq_false_iff.mpr fun hfile => ?_
      exact h (.file other) (by rw [find?, if_pos hfile]) rfl
    rw [find?, find?, hasFile_without, hfile, hfolder, Bool.false_and]
  · have hne : (other != path) = true := by rwa [bne_iff_ne]
    rw [find?, find?, hasFile_without, hfolder, hne, Bool.and_true]

theorem bind_find?_without {place : Option String}
    (h : ∀ r, place.bind p.find? = some r → r.path? ≠ some path) :
    place.bind (p.without path).find? = place.bind p.find? := by
  cases place with
  | none => rfl
  | some other => exact find?_without h

/-- What is found from the folder or from the root is still found there. -/
theorem lookUp?_without {folder target : String}
    (h : ∀ r, p.lookUp? folder target = some r → r.path? ≠ some path) :
    (p.without path).lookUp? folder target = p.lookUp? folder target := by
  have hfolder : (FilePath.join? folder target).bind (p.without path).find? =
      (FilePath.join? folder target).bind p.find? := by
    refine bind_find?_without fun r hr => h r ?_
    rw [lookUp?, hr]
    rfl
  unfold lookUp? at h ⊢
  rw [hfolder]
  cases hfound : (FilePath.join? folder target).bind p.find? with
  | some r => rfl
  | none =>
    rw [hfound] at h
    exact bind_find?_without h

/-- Without a file the others end in what they did. -/
theorem endingIn_without (p : Package) (path target : String) :
    (p.without path).endingIn target = (p.endingIn target).filter (· != path) := by
  have hpaths : (p.without path).files.map (·.path) =
      (p.files.map (·.path)).filter (· != path) := by
    rw [List.filter_map]
    rfl
  rw [endingIn, endingIn, hpaths, List.filter_filter, List.filter_filter]
  simp only [Bool.and_comm]

/-- The first file whose path ends in a target is still the first, unless it is the one that is
    gone. -/
theorem lookUpEnding_without_path? {folder target : String}
    (h : (p.lookUpEnding folder target).path? ≠ some path) :
    ((p.without path).lookUpEnding folder target).path? =
      (p.lookUpEnding folder target).path? := by
  unfold lookUpEnding at h ⊢
  split
  · rfl
  · next hleaves =>
    rw [if_neg hleaves] at h
    rw [endingIn_without]
    cases hends : p.endingIn target with
    | nil => rfl
    | cons first others =>
      rw [hends] at h
      have hne : first ≠ path := by
        rintro rfl
        exact h rfl
      have hkeep : (first :: others).filter (· != path) = first :: others.filter (· != path) :=
        List.filter_cons_of_pos (bne_iff_ne.mpr hne)
      rw [hkeep]
      rfl

/-- A resolution that does not lead to the file leads where it did. -/
theorem resolve_without_path? {folder target : String}
    (h : (p.resolve folder target).path? ≠ some path) :
    ((p.without path).resolve folder target).path? = (p.resolve folder target).path? := by
  by_cases hrelative : IsRelative target
  · rw [resolve_of_isRelative hrelative] at h
    have hlook : (p.without path).lookUp? folder target = p.lookUp? folder target := by
      refine lookUp?_without fun r hr => ?_
      rwa [hr, Option.getD_some] at h
    rw [resolve_of_isRelative hrelative, resolve_of_isRelative hrelative, hlook]
    cases hr : p.lookUp? folder target with
    | some r => rfl
    | none =>
      rw [hr, Option.getD_none] at h
      rw [Option.getD_none, Option.getD_none]
      exact lookUpEnding_without_path? h
  · rw [resolve_of_not_isRelative hrelative, resolve_of_not_isRelative hrelative]

end Package

/-! ## Citations -/

namespace Citation

variable {p : Package} {path : String}

theorem filter_ofMentions (source : String) (mentions : List Mention) :
    (ofMentions source mentions).filter (·.source != path) =
      if source != path then ofMentions source mentions else [] := by
  have hconst : ∀ c ∈ ofMentions source mentions, (c.source != path) = (source != path) := by
    intro c hc
    rw [(mem_ofMentions.mp hc).1]
  rw [List.filter_congr hconst]
  cases source != path <;> simp

/-- The citations that are left are those of the other files. -/
theorem ofPackage_without (hpath : path ≠ p.manifestPath) :
    ofPackage (p.without path) = (ofPackage p).filter (·.source != path) := by
  have hmanifest : (p.manifestPath != path) = true := bne_iff_ne.mpr (Ne.symm hpath)
  have hfiles : (p.without path).filesOf .reference =
      (p.filesOf .reference).filter (·.path != path) := by
    rw [Package.filesOf, Package.filesOf, Package.without, List.filter_filter, List.filter_filter]
    simp only [Bool.and_comm]
  rw [ofPackage, ofPackage, hfiles, List.filter_append, filter_ofMentions, if_pos hmanifest]
  congr 1
  induction p.filesOf .reference with
  | nil => rfl
  | cons f fs ih =>
    rw [List.flatMap_cons, List.filter_append, filter_ofMentions, ← ih]
    by_cases hf : (f.path != path) = true
    · rw [List.filter_cons, if_pos hf, if_pos hf, List.flatMap_cons]
    · rw [List.filter_cons, if_neg hf, if_neg hf, List.nil_append]

/-- A citation is made by a file of the package, if the manifest is one. -/
theorem hasFile_source (hmanifest : p.hasFile p.manifestPath) {c : Citation}
    (hc : c ∈ ofPackage p) :
    p.hasFile c.source := by
  obtain ⟨hsource, -⟩ | ⟨f, hf, -, hsource, -⟩ := mem_ofPackage.mp hc
  · rwa [hsource]
  · rw [hsource]
    exact List.any_eq_true.mpr ⟨f, hf, beq_self_eq_true _⟩

end Citation

/-! ## Edges -/

namespace ReferenceGraph

variable {p : Package} {config : ReferencesConfig} {path : String}

/-- A file that nothing refers to is a file of the package, and not the manifest. -/
theorem exists_of_mem_orphans (h : path ∈ (ofPackage p config).orphans) :
    ∃ f ∈ p.files, f.path = path ∧ f.role ≠ .manifest ∧
      isReferenced p (ofPackage p config).edges path = false := by
  simp only [ofPackage, orphansOf_eq] at h
  obtain ⟨f, hf, rfl⟩ := List.mem_map.mp h
  obtain ⟨hmem, hneeds⟩ := List.mem_filter.mp hf
  simp only [Bool.and_eq_true, Bool.not_eq_true'] at hneeds
  refine ⟨f, hmem, rfl, ?_, hneeds.2⟩
  intro hrole
  have hfalse := hneeds.1
  simp [needsReference, hrole] at hfalse

/-- Nothing occurs twice among paths that increase. -/
theorem nodup_of_increasing {paths : List String} (h : paths.Pairwise (· < ·)) : paths.Nodup := by
  rw [List.Nodup]
  refine h.imp fun hlt heq => ?_
  rw [heq] at hlt
  exact String.lt_irrefl _ hlt

/-- Sorted files without repetitions are told apart by their paths. -/
theorem eq_of_path_eq {files : List PackageFile} (h : files.Pairwise fun f g => f.path < g.path)
    {f g : PackageFile} (hf : f ∈ files) (hg : g ∈ files) (hpath : f.path = g.path) : f = g := by
  have hnodup : (files.map (·.path)).Nodup := nodup_of_increasing (List.pairwise_map.mpr h)
  exact List.inj_on_of_nodup_map hnodup hf hg hpath

/-- No other file leads to a file that nothing refers to. -/
theorem resolution_ne_of_orphan (hmanifest : p.hasFile p.manifestPath)
    (h : path ∈ (ofPackage p config).orphans) {c : Citation}
    (hc : c ∈ Citation.distinct (Citation.ofPackage p)) (hsource : c.source ≠ path) :
    (c.resolution p).path? ≠ some path := by
  obtain ⟨f, -, -, -, hfalse⟩ := exists_of_mem_orphans h
  intro hresolved
  have hedge : Edge.ofCitation p c ∈ (ofPackage p config).edges := List.mem_map_of_mem hc
  have hfile := Citation.hasFile_source hmanifest (Citation.mem_of_mem_distinct hc)
  have htrue : isReferenced p (ofPackage p config).edges path := by
    refine List.any_eq_true.mpr ⟨_, hedge, ?_⟩
    simp [Edge.ofCitation, hresolved, hsource, hfile]
  rw [hfalse] at htrue
  cases htrue

/-- Deleting a file that nothing refers to takes away its own references and changes no other one:
    each has its line, target and kind, and leads where it led before. -/
theorem edges_without (hsorted : p.files.Pairwise fun f g => f.path < g.path)
    (hmanifest : ∃ m ∈ p.files, m.path = p.manifestPath ∧ m.role = .manifest)
    (h : path ∈ (ofPackage p config).orphans) :
    (ofPackage (p.without path) config).edges =
      (ofPackage p config).edges.filter (·.source != path) := by
  obtain ⟨m, hm, hmpath, hmrole⟩ := hmanifest
  have hfile : p.hasFile p.manifestPath := List.any_eq_true.mpr ⟨m, hm, beq_iff_eq.mpr hmpath⟩
  have hpath : path ≠ p.manifestPath := by
    obtain ⟨f, hf, rfl, hrole, -⟩ := exists_of_mem_orphans h
    intro hpath
    obtain rfl := eq_of_path_eq hsorted hf hm (hpath.trans hmpath.symm)
    exact hrole hmrole
  have hsame : ∀ a b : Citation, a.sameAs b → (a.source != path) = (b.source != path) := by
    intro a b hab
    rw [(Citation.sameAs_iff.mp hab).1]
  have hedges : (ofPackage p config).edges.filter (·.source != path) =
      ((Citation.distinct (Citation.ofPackage p)).filter (·.source != path)).map
        (Edge.ofCitation p) := by
    simp only [ofPackage]
    rw [List.filter_map]
    rfl
  rw [hedges, Citation.distinct_filter hsame, ← Citation.ofPackage_without hpath]
  refine List.map_congr_left fun c hc => ?_
  rw [Citation.ofPackage_without hpath, ← Citation.distinct_filter hsame] at hc
  obtain ⟨hmem, hsource⟩ := List.mem_filter.mp hc
  have hresolved := resolution_ne_of_orphan hfile h hmem (bne_iff_ne.mp hsource)
  rw [Edge.ofCitation, Edge.ofCitation, Citation.resolution,
    Package.resolve_without_path? hresolved, Citation.resolution]

/-! ### A file that only refers to itself -/

/-- A package whose manifest runs a script; a guide refers to itself and to the script. -/
def unreadGuide : Package :=
  .notes .named "Run `scripts/run.sh`.\n"
    [("references/guide.md", "[Again](guide.md), `scripts/run.sh`\n"), ("scripts/run.sh", "make\n")]

/-- Without the guide its own edges are gone, and no others. -/
theorem edges_without_guide :
    "references/guide.md" ∈ (ofPackage unreadGuide ⟨[]⟩).orphans ∧
      (ofPackage (unreadGuide.without "references/guide.md") ⟨[]⟩).edges =
        (ofPackage unreadGuide ⟨[]⟩).edges.filter (·.source != "references/guide.md") := by
  have horphan : "references/guide.md" ∈ (ofPackage unreadGuide ⟨[]⟩).orphans := by
    decide +kernel
  exact ⟨horphan, edges_without (by decide +kernel) (by decide +kernel) horphan⟩

end ReferenceGraph

end SkillAudit
