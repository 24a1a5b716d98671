import SkillAudit.Proofs.Package.Notes
import SkillAudit.Proofs.Reference.Join
import SkillAudit.Proofs.Reference.Resolution
/-!
# SkillAudit.Proofs.Reference.Lookup

What is looked up, and what it means that something is found. A relative target is looked up at the
path that it leads to from the folder, then at the one from the root, and, unless it leads up, among
the ends of the paths of files:

* `resolve_eq_file_iff`, `resolve_eq_folder_iff` — what is found is there, at the path looked up;
* `resolve_eq_ending_iff` — the ends of paths count only where nothing is found;
* `resolvesSoundly` — all of this, and what a larger package can change.
-/

namespace SkillAudit

namespace FilePath

/-- A path ends in another one if it is that one or has it behind a slash. -/
theorem endsIn_iff {tail path : String} :
    endsIn tail path ↔ path = tail ∨ '/' :: tail.toList <:+ path.toList := by
  simp [endsIn]

/-- Whether a path has a segment that leads up. -/
def HasUp (path : String) : Prop := ['.', '.'] ∈ segments path

instance (path : String) : Decidable (HasUp path) :=
  inferInstanceAs (Decidable (_ ∈ _))

/-- A path goes up if one of its segments is two dots. -/
theorem hasUp_iff {path : String} : HasUp path ↔ (segments path).any isUp := by
  simp [HasUp, isUp]

/-- A path that does not lead up stays in the package. -/
theorem join?_isSome {path : String} (h : ¬HasUp path) (folder : String) :
    (join? folder path).isSome := by
  rw [Option.isSome_iff_ne_none, join?_eq, ne_eq, Option.map_eq_none_iff, follow?_eq_none_iff]
  rintro ⟨front, hfront, hlt⟩
  have hcount : front.countP isUp = 0 := by
    rw [hasUp_iff, List.any_eq_true] at h
    exact List.countP_eq_zero.mpr fun s hs hup => h ⟨s, hfront.subset hs, hup⟩
  rw [hcount] at hlt
  exact Nat.not_lt_zero _ hlt

end FilePath

namespace Package

open FilePath (join? segments isUp)

variable {p p' : Package} {folder target path : String} {r : Resolution}

/-! ## What is at a path -/

/-- Whether a path is that of a file, or of a folder that is not the root. -/
def Holds (p : Package) (path : String) : Prop :=
  (∃ f ∈ p.files, f.path = path) ∨ path ≠ "" ∧ path ∈ p.folders

theorem hasFile_iff : p.hasFile path ↔ ∃ f ∈ p.files, f.path = path := by
  simp [hasFile]

theorem hasFolder_iff : p.hasFolder path ↔ path ∈ p.folders := by
  simp [hasFolder]

/-- Nothing is found at a path where there is no file and no folder. -/
theorem find?_eq_none_iff : p.find? path = none ↔ ¬p.Holds path := by
  rw [Holds, ← hasFile_iff, ← hasFolder_iff, find?]
  by_cases hfile : p.hasFile path
  · simp [hfile]
  · simp [hfile]

/-- A file is found at its own path. -/
theorem find?_eq_file_iff {other : String} :
    p.find? path = some (.file other) ↔ path = other ∧ p.hasFile path := by
  unfold find?
  split
  · next hfile => simp [hfile]
  · next hfile => split <;> simp [hfile]

/-- A folder is found at its own path, unless it is the root or there is a file. -/
theorem find?_eq_folder_iff {other : String} : p.find? path = some (.folder other) ↔
    path = other ∧ ¬p.hasFile path ∧ path ≠ "" ∧ p.hasFolder path := by
  unfold find?
  split
  · next hfile => simp [hfile]
  · next hfile =>
    rw [and_iff_right hfile]
    by_cases hfolder : path ≠ "" ∧ p.hasFolder path
    · simp [hfolder]
    · rw [if_neg (by simpa using hfolder)]
      simp [hfolder]

/-! ## Looking up -/

/-- Whether a target is looked up at a path: at the one it leads to from the folder, or, if nothing
    is there, at the one it leads to from the root. -/
def IsSought (p : Package) (folder target path : String) : Prop :=
  join? folder target = some path ∨
    (∀ other, join? folder target = some other → ¬p.Holds other) ∧ join? "" target = some path

theorem bind_find?_eq_none_iff {place : Option String} :
    place.bind p.find? = none ↔ ∀ path, place = some path → ¬p.Holds path := by
  simp only [Option.bind_eq_none_iff, find?_eq_none_iff]

/-- Looking a target up finds what there is at the first of two paths, or else at the second. -/
theorem lookUp?_eq_some_iff : p.lookUp? folder target = some r ↔
    ∃ path, p.IsSought folder target path ∧ p.find? path = some r := by
  simp only [lookUp?, Option.orElse_eq_or, Option.or_eq_some_iff, bind_find?_eq_none_iff,
    Option.bind_eq_some_iff, IsSought]
  constructor
  · rintro (⟨path, hjoin, hfind⟩ | ⟨hnone, path, hjoin, hfind⟩)
    · exact ⟨path, .inl hjoin, hfind⟩
    · exact ⟨path, .inr ⟨hnone, hjoin⟩, hfind⟩
  · rintro ⟨path, hjoin | ⟨hnone, hjoin⟩, hfind⟩
    · exact .inl ⟨path, hjoin, hfind⟩
    · exact .inr ⟨hnone, path, hjoin, hfind⟩

/-- It finds nothing if there is nothing at either. -/
theorem lookUp?_eq_none_iff : p.lookUp? folder target = none ↔
    ∀ path, join? folder target = some path ∨ join? "" target = some path → ¬p.Holds path := by
  simp only [lookUp?, Option.orElse_eq_or, Option.or_eq_none_iff, bind_find?_eq_none_iff, or_imp,
    forall_and]

/-! ## Ends of paths -/

/-- The files that end in a target, by their paths. -/
theorem mem_endingIn : path ∈ p.endingIn target ↔
    (∃ f ∈ p.files, f.path = path) ∧ (path = target ∨ '/' :: target.toList <:+ path.toList) := by
  rw [endingIn, List.mem_filter, List.mem_map, FilePath.endsIn_iff]

/-- No file ends in a target. -/
theorem endingIn_eq_nil_iff : p.endingIn target = [] ↔
    ∀ f ∈ p.files, ¬(f.path = target ∨ '/' :: target.toList <:+ f.path.toList) := by
  simp only [List.eq_nil_iff_forall_not_mem, mem_endingIn]
  constructor
  · intro h f hf hend
    exact h f.path ⟨⟨f, hf, rfl⟩, hend⟩
  · rintro h _ ⟨⟨f, hf, rfl⟩, hend⟩
    exact h f hf hend

/-- The ends of paths are in order if the files are. -/
theorem pairwise_endingIn (h : p.files.Pairwise fun f g => f.path < g.path) :
    (p.endingIn target).Pairwise (· < ·) :=
  (List.pairwise_map.mpr h).sublist List.filter_sublist

/-- A target that does not lead up is looked for among the ends of paths. -/
theorem lookUpEnding_of_not_hasUp (h : ¬FilePath.HasUp target) :
    p.lookUpEnding folder target =
      match p.endingIn target with
      | [] => .broken
      | first :: others => .ending first others := by
  have hleaves : leavesFrom folder target = false := by
    simp only [leavesFrom, Option.isNone_eq_false_iff, Bool.or_eq_false_iff,
      FilePath.join?_isSome h, and_self]
  have hup : (segments target).any isUp = false := by
    rwa [FilePath.hasUp_iff, Bool.not_eq_true] at h
  rw [lookUpEnding, hleaves, hup]
  rfl

/-- One that leads up is not. -/
theorem lookUpEnding_of_hasUp (h : FilePath.HasUp target) :
    p.lookUpEnding folder target = .broken := by
  rw [lookUpEnding, FilePath.hasUp_iff.mp h, Bool.or_true]
  rfl

/-- A file is chosen by its end if the target does not go up and the file is the first of those that
    end in it. -/
theorem lookUpEnding_eq_ending_iff (folder : String) {first : String} {others : List String} :
    p.lookUpEnding folder target = .ending first others ↔
      ¬FilePath.HasUp target ∧ p.endingIn target = first :: others := by
  by_cases h : FilePath.HasUp target
  · simp [lookUpEnding_of_hasUp h, h]
  · rw [lookUpEnding_of_not_hasUp h, and_iff_right h]
    cases p.endingIn target <;> simp

/-- None is chosen if the target goes up or no file ends in it. -/
theorem lookUpEnding_eq_broken_iff (folder : String) : p.lookUpEnding folder target = .broken ↔
    FilePath.HasUp target ∨ p.endingIn target = [] := by
  by_cases h : FilePath.HasUp target
  · simp [lookUpEnding_of_hasUp h, h]
  · rw [lookUpEnding_of_not_hasUp h, or_iff_right h]
    cases p.endingIn target <;> simp

/-! ## Resolving -/

/-- What is found is what is resolved to. -/
theorem resolve_eq_iff_of_found (hr : r = .file path ∨ r = .folder path) :
    p.resolve folder target = r ↔ IsRelative target ∧ p.lookUp? folder target = some r := by
  by_cases h : IsRelative target
  · rw [resolve_of_isRelative h, and_iff_right h]
    cases p.lookUp? folder target with
    | some r' => simp
    | none =>
      obtain hend | ⟨first, others, -, hend⟩ := p.lookUpEnding_cases folder target <;>
        obtain rfl | rfl := hr <;> simp [hend]
  · rw [resolve_of_not_isRelative h]
    obtain rfl | rfl := hr <;> split <;> simp [h]

/-- A target leads to a file exactly when it is looked up at its path. -/
theorem resolve_eq_file_iff : p.resolve folder target = .file path ↔
    IsRelative target ∧ p.IsSought folder target path ∧ ∃ f ∈ p.files, f.path = path := by
  rw [resolve_eq_iff_of_found (.inl rfl), lookUp?_eq_some_iff, ← hasFile_iff]
  simp only [find?_eq_file_iff, exists_eq_left, and_left_comm]

/-- It leads to a folder exactly when it is looked up there and no file has the same path. -/
theorem resolve_eq_folder_iff : p.resolve folder target = .folder path ↔
    IsRelative target ∧ p.IsSought folder target path ∧ (¬∃ f ∈ p.files, f.path = path) ∧
      path ≠ "" ∧ path ∈ p.folders := by
  rw [resolve_eq_iff_of_found (.inr rfl), lookUp?_eq_some_iff, ← hasFile_iff, ← hasFolder_iff]
  simp only [find?_eq_folder_iff, exists_eq_left, and_left_comm]

/-- It leads to the end of a path exactly when nothing is found where it is looked up. -/
theorem resolve_eq_ending_iff {first : String} {others : List String} :
    p.resolve folder target = .ending first others ↔
      IsRelative target ∧ p.lookUp? folder target = none ∧ ¬FilePath.HasUp target ∧
        p.endingIn target = first :: others := by
  by_cases h : IsRelative target
  · rw [resolve_of_isRelative h, and_iff_right h, ← lookUpEnding_eq_ending_iff folder]
    cases hlook : p.lookUp? folder target with
    | none => simp
    | some r =>
      obtain ⟨path, rfl | rfl⟩ := lookUp?_cases hlook <;> simp
  · rw [resolve_of_not_isRelative h]
    split <;> simp [h]

/-- A relative target leads nowhere exactly when nothing is found. -/
theorem resolve_eq_broken_iff (h : IsRelative target) : p.resolve folder target = .broken ↔
    p.lookUp? folder target = none ∧ (FilePath.HasUp target ∨ p.endingIn target = []) := by
  rw [resolve_of_isRelative h, ← lookUpEnding_eq_broken_iff folder]
  cases hlook : p.lookUp? folder target with
  | none => simp
  | some r =>
    obtain ⟨path, rfl | rfl⟩ := lookUp?_cases hlook <;> simp

/-! ## Larger packages -/

/-- Whether the files and folders of a package are also in another one. -/
structure IsWithin (p p' : Package) : Prop where
  files : p.files.map (·.path) ⊆ p'.files.map (·.path)
  folders : p.folders ⊆ p'.folders

/-- A file stays where it is in a larger package. -/
theorem IsWithin.exists_file (h : p.IsWithin p') (hfile : ∃ f ∈ p.files, f.path = path) :
    ∃ f ∈ p'.files, f.path = path :=
  List.mem_map.mp (h.files (List.mem_map.mpr hfile))

/-- What there is at a path is there in a larger package. -/
theorem IsWithin.holds (h : p.IsWithin p') (hpath : p.Holds path) : p'.Holds path :=
  hpath.imp h.exists_file fun hfolder => ⟨hfolder.1, h.folders hfolder.2⟩

/-- What leads nowhere in a larger package leads nowhere. -/
theorem IsWithin.resolve_eq_broken (h : p.IsWithin p')
    (hbroken : p'.resolve folder target = .broken) : p.resolve folder target = .broken := by
  by_cases hrelative : IsRelative target
  · rw [resolve_eq_broken_iff hrelative, lookUp?_eq_none_iff] at hbroken ⊢
    refine ⟨fun path hpath hholds => hbroken.1 path hpath (h.holds hholds), ?_⟩
    refine hbroken.2.imp_right fun hnone => List.eq_nil_iff_forall_not_mem.mpr fun path hpath => ?_
    obtain ⟨hfile, hend⟩ := mem_endingIn.mp hpath
    have hmem : path ∈ p'.endingIn target := mem_endingIn.mpr ⟨h.exists_file hfile, hend⟩
    rw [hnone] at hmem
    cases hmem
  · rw [resolve_of_not_isRelative hrelative] at hbroken ⊢
    exact hbroken

/-! ## Soundness -/

/-- What it means for files to be those whose paths end in a target, the first one standing for
    all. -/
structure AreEndings (p : Package) (target first : String) (others : List String) : Prop where
  /-- Their paths are the target, or end in a slash and the target. -/
  mem_iff : ∀ path, path ∈ first :: others ↔
    (∃ f ∈ p.files, f.path = path) ∧ (path = target ∨ '/' :: target.toList <:+ path.toList)
  /-- They are in order, each one once. -/
  pairwise : (first :: others).Pairwise (· < ·)
  /-- The first one is the least, -/
  first_le : ∀ path ∈ first :: others, first ≤ path
  /-- and nothing is ambiguous if it is the only one. -/
  isAmbiguous_iff : (Resolution.ending first others).isAmbiguous = false ↔ others = []
  /-- No such target leads up. -/
  not_hasUp : ¬FilePath.HasUp target

/-- What it means for a target to be resolved soundly in a package. -/
structure ResolvesSoundly (p : Package) (folder target : String) : Prop where
  /-- It leads to a file if there is one where it is looked up. -/
  toFile_iff : ∀ path, p.resolve folder target = .file path ↔
    IsRelative target ∧ p.IsSought folder target path ∧ ∃ f ∈ p.files, f.path = path
  /-- It leads to a folder if there is one that is not the root, and no file. -/
  toFolder_iff : ∀ path, p.resolve folder target = .folder path ↔
    IsRelative target ∧ p.IsSought folder target path ∧ (¬∃ f ∈ p.files, f.path = path) ∧
      path ≠ "" ∧ path ∈ p.folders
  /-- It leads to the first of the files whose paths end in it. -/
  toEnding : ∀ first others, p.resolve folder target = .ending first others →
    (p.resolve folder target).path? = some first ∧ p.AreEndings target first others
  /-- It leads nowhere only if nothing is where it is looked up, and no path of a file ends in it or
      none is looked for. -/
  toNothing_iff : IsRelative target → (p.resolve folder target = .broken ↔
    (∀ path, join? folder target = some path ∨ join? "" target = some path → ¬p.Holds path) ∧
      (FilePath.HasUp target ∨
        ∀ f ∈ p.files, ¬(f.path = target ∨ '/' :: target.toList <:+ f.path.toList)))
  /-- Whatever is added to the package, it does not lead nowhere if it led anywhere. -/
  monotone : ∀ p' : Package, p.IsWithin p' → p'.resolve folder target = .broken →
    p.resolve folder target = .broken

/-- In a package with sorted files every target is resolved soundly. -/
theorem resolvesSoundly (hsorted : p.files.Pairwise fun f g => f.path < g.path)
    (folder target : String) : p.ResolvesSoundly folder target where
  toFile_iff _ := resolve_eq_file_iff
  toFolder_iff _ := resolve_eq_folder_iff
  toEnding first others h := by
    obtain ⟨-, -, hup, hends⟩ := resolve_eq_ending_iff.mp h
    have hpairwise : (first :: others).Pairwise (· < ·) := hends ▸ pairwise_endingIn hsorted
    refine ⟨by rw [h, Resolution.path?], ?_⟩
    exact {
      mem_iff := fun path => hends ▸ mem_endingIn
      pairwise := hpairwise
      first_le := by
        intro path hpath
        obtain rfl | hpath := List.mem_cons.mp hpath
        · exact String.le_refl _
        · exact Std.le_of_lt ((List.pairwise_cons.mp hpairwise).1 path hpath)
      isAmbiguous_iff := by simp [Resolution.isAmbiguous]
      not_hasUp := hup }
  toNothing_iff h := by
    rw [resolve_eq_broken_iff h, lookUp?_eq_none_iff, endingIn_eq_nil_iff]
  monotone _ h hbroken := h.resolve_eq_broken hbroken

/-! ### Notes in two folders -/

/-- A package with notes in two folders, and a guide in the inner one. -/
def nestedNotes : Package :=
  .notes .named "Read `notes.md`.\n"
    [("references/api/guide.md", "# Guide\n"), ("references/api/notes.md", "# Notes\n"),
      ("references/notes.md", "# Notes\n")]

/-- Of two notes the one that comes first is chosen, and the other one is named beside it. -/
theorem resolvesSoundly_nestedNotes :
    nestedNotes.resolve "" "notes.md" = .ending "references/api/notes.md" ["references/notes.md"] ∧
      nestedNotes.ResolvesSoundly "" "notes.md" :=
  ⟨by decide +kernel, resolvesSoundly (by decide +kernel) "" "notes.md"⟩

end Package

end SkillAudit
