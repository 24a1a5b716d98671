import SkillAudit.Proofs.Reference.Lookup
/-!
# SkillAudit.Proofs.Reference.Tidy

What idle segments of a target change. Followed from a folder, a target leads where it leads without
them; among the ends of paths it is looked for as it is written. So the two are told apart exactly
where nothing is found and the texts of the paths decide: in a package with tidy paths an untidy
target is then broken, whatever files its tidy form would lead to.
-/

namespace SkillAudit

namespace FilePath

open Text

variable {path : String}

/-- The path without its idle segments. -/
def tidied (path : String) : String :=
  ofSegments ((segments path).filter fun s => !isIdle s)

/-- Nothing may be left, and the path is that of the root; else its segments are those left. -/
theorem tidied_cases (path : String) :
    (segments path).filter (fun s => !isIdle s) = [] ∧ tidied path = "" ∨
      segments (tidied path) = (segments path).filter fun s => !isIdle s := by
  by_cases h : (segments path).filter (fun s => !isIdle s) = []
  · exact .inl ⟨h, by rw [tidied, h]; rfl⟩
  · exact .inr (segments_ofSegments h fun s hs =>
      slash_not_mem_of_mem_segments (List.mem_filter.mp hs).1)

theorem segments_tidied (h : tidied path ≠ "") :
    segments (tidied path) = (segments path).filter fun s => !isIdle s :=
  (tidied_cases path).resolve_left fun hroot => h hroot.2

/-- A path of names is tidied already. -/
theorem tidied_of_names (h : ∀ s ∈ segments path, isName s) : tidied path = path := by
  have hfilter : (segments path).filter (fun s => !isIdle s) = segments path := by
    refine List.filter_eq_self.mpr fun s hs => ?_
    have hname := h s hs
    rw [isName, Bool.and_eq_true] at hname
    exact hname.1
  rw [tidied, hfilter, ofSegments_segments]

/-- Idle segments do not change where a path leads. -/
theorem join?_tidied (folder path : String) : join? folder (tidied path) = join? folder path := by
  rw [join?_eq, join?_eq, ← follow?_filter _ (segments path)]
  obtain ⟨hnil, hroot⟩ | hsegments := tidied_cases path
  · rw [hroot, hnil]
    rfl
  · rw [hsegments]

theorem hasUp_tidied (h : tidied path ≠ "") : HasUp (tidied path) ↔ HasUp path := by
  rw [HasUp, segments_tidied h, List.mem_filter]
  exact and_iff_left rfl

/-- A path that is tidied does not start with a slash. -/
theorem startsWith_slash_tidied (h : tidied path ≠ "") : (tidied path).startsWith "/" = false := by
  rw [Bool.eq_false_iff, ne_eq, String.startsWith_string_iff]
  rintro ⟨rest, hrest⟩
  have hempty : [] ∈ segments (tidied path) := by
    rw [segments, ← hrest]
    exact List.mem_cons_self
  rw [segments_tidied h, List.mem_filter] at hempty
  exact absurd hempty.2 (by decide)

end FilePath

namespace Package

open FilePath (tidied IsTidy HasUp segments)

variable {p : Package} {folder target : String}

theorem lookUp?_tidied (p : Package) (folder target : String) :
    p.lookUp? folder (tidied target) = p.lookUp? folder target := by
  rw [lookUp?, lookUp?, FilePath.join?_tidied, FilePath.join?_tidied]

/-- No tidy path ends in a target that is not tidy. -/
theorem endingIn_eq_nil (hfiles : ∀ f ∈ p.files, IsTidy f.path) (hne : tidied target ≠ "")
    (h : tidied target ≠ target) : p.endingIn target = [] := by
  refine endingIn_eq_nil_iff.mpr fun f hf hend => h (FilePath.tidied_of_names ?_)
  obtain hroot | hnames := hfiles f hf
  · rw [hroot] at hend
    obtain rfl | hend := hend
    · exact absurd rfl hne
    · cases List.suffix_nil.mp hend
  · obtain rfl | ⟨front, hfront⟩ := hend
    · exact hnames
    · rw [segments, ← hfront, Text.splitOn_append] at hnames
      exact fun s hs => hnames s (List.mem_append_right _ hs)

/-- When a relative target that does not lead up leads where it leads without idle segments: exactly
    when something is found where it is looked up, or the same paths end in both texts. In a package
    with tidy paths none ends in a target that is not tidy, so that this is broken. -/
theorem resolve_tidied_iff (hroot : target.startsWith "/" = false) (hup : ¬HasUp target)
    (hne : tidied target ≠ "") (hscheme : Target.hasScheme target.toList = false)
    (hscheme' : Target.hasScheme (tidied target).toList = false) :
    (p.resolve folder target = p.resolve folder (tidied target) ↔
      (p.lookUp? folder (tidied target)).isSome ∨
        p.endingIn target = p.endingIn (tidied target)) ∧
    ((∀ f ∈ p.files, IsTidy f.path) → tidied target ≠ target →
      p.lookUp? folder (tidied target) = none → p.resolve folder target = .broken) := by
  have hrelative : IsRelative target := by
    refine ⟨hscheme, ?_, hroot⟩
    rintro rfl
    exact hne rfl
  have hrelative' : IsRelative (tidied target) :=
    ⟨hscheme', hne, FilePath.startsWith_slash_tidied hne⟩
  rw [resolve_of_isRelative hrelative, resolve_of_isRelative hrelative', lookUp?_tidied]
  cases p.lookUp? folder target with
  | some r => simp
  | none =>
    have hup' : ¬HasUp (tidied target) := by rwa [FilePath.hasUp_tidied hne]
    rw [Option.getD_none, Option.getD_none, lookUpEnding_of_not_hasUp hup,
      lookUpEnding_of_not_hasUp hup']
    constructor
    · cases p.endingIn target <;> cases p.endingIn (tidied target) <;> simp
    · intro hfiles h _
      rw [endingIn_eq_nil hfiles hne h]

/-! ### A guide in an inner folder -/

/-- From the folder of the notes they are found in either form. -/
theorem resolve_tidied_notes :
    ("./api//notes.md".startsWith "/" = false ∧ ¬HasUp "./api//notes.md" ∧
      tidied "./api//notes.md" = "api/notes.md" ∧
      Target.hasScheme "./api//notes.md".toList = false ∧
      Target.hasScheme "api/notes.md".toList = false) ∧
    nestedNotes.resolve "references" "./api//notes.md" =
      nestedNotes.resolve "references" (tidied "./api//notes.md") := by
  have hhyps : "./api//notes.md".startsWith "/" = false ∧ ¬HasUp "./api//notes.md" ∧
      tidied "./api//notes.md" = "api/notes.md" ∧
      Target.hasScheme "./api//notes.md".toList = false ∧
      Target.hasScheme "api/notes.md".toList = false := by decide +kernel
  obtain ⟨hroot, hup, htidied, hscheme, hscheme'⟩ := hhyps
  have hfound : (nestedNotes.lookUp? "references" (tidied "./api//notes.md")).isSome := by
    decide +kernel
  exact ⟨⟨hroot, hup, htidied, hscheme, hscheme'⟩,
    (resolve_tidied_iff hroot hup (by rw [htidied]; decide) hscheme
      (by rw [htidied]; exact hscheme')).1.mpr (.inl hfound)⟩

/-- A guide is found by the end of its path, and not with an idle segment in it. -/
theorem resolve_ne_tidied :
    "api/./guide.md".startsWith "/" = false ∧ ¬HasUp "api/./guide.md" ∧
      tidied "api/./guide.md" = "api/guide.md" ∧
      Target.hasScheme "api/./guide.md".toList = false ∧
      Target.hasScheme "api/guide.md".toList = false ∧
      nestedNotes.resolve "" "api/./guide.md" = .broken ∧
      nestedNotes.resolve "" "api/guide.md" = .ending "references/api/guide.md" [] := by
  decide +kernel

end Package

end SkillAudit
