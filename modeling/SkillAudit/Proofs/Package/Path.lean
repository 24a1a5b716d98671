import SkillAudit.Proofs.Package.Load
/-!
# SkillAudit.Proofs.Package.Path

What a path and a line number name in a package. In a folder no two entries share a name and no name
holds a slash, so the files that are met in it have paths of their own. A script or a reference file
does not have the path of the manifest, whose front matter ends before its body starts; so a path
and a number name one line at most.
-/

namespace SkillAudit

open Text

/-! ## Trees -/

namespace FileTree

/-- Whether a text can be the name of an entry: it is not empty and holds no slash. -/
def IsName (name : String) : Prop := name ≠ "" ∧ '/' ∉ name.toList

mutual

/-- Whether the folders of a tree are such as there can be: every entry has a name, and no two the
    same. -/
def IsProper : FileTree → Prop
  | file _ => True
  | link _ => True
  | folder entries => (entries.map (·.1)).Nodup ∧ AreProper entries

/-- Whether this holds of the entries of a folder. -/
def AreProper : List (String × FileTree) → Prop
  | [] => True
  | (name, t) :: rest => IsName name ∧ IsProper t ∧ AreProper rest

end

theorem AreProper.of_mem {entries : List (String × FileTree)} (h : AreProper entries)
    {e : String × FileTree} (he : e ∈ entries) : IsName e.1 ∧ e.2.IsProper := by
  induction entries with
  | nil => cases he
  | cons e' rest ih =>
    obtain ⟨hname, hhere, hrest⟩ := h
    obtain rfl | he := List.mem_cons.mp he
    · exact ⟨hname, hhere⟩
    · exact ih hrest he

/-- What is reached in a proper tree is one. -/
theorem isProper_of_at? {place : List String} {t u : FileTree} (ht : t.IsProper)
    (h : t.at? place = some u) : u.IsProper := by
  induction place generalizing t with
  | nil =>
    cases h
    exact ht
  | cons name place ih =>
    cases t with
    | file bytes => cases h
    | link target => cases h
    | folder entries =>
      obtain ⟨t, hchild, hrest⟩ := Option.bind_eq_some_iff.mp h
      obtain ⟨e, hfind, rfl⟩ := Option.map_eq_some_iff.mp hchild
      exact ih (ht.2.of_mem (List.mem_of_find?_eq_some hfind)).2 hrest

/-- What is found at a path in a proper tree is one. -/
theorem isProper_of_lookup? {top t : FileTree} {path : String} (htop : top.IsProper)
    (h : top.lookup? path = some t) : t.IsProper := by
  obtain ⟨place, -, hat⟩ := Option.bind_eq_some_iff.mp h
  exact isProper_of_at? htop hat

/-! ### Paths -/

/-- Whether a path is another one or leads on from it. -/
def LeadsFrom (base path : String) : Prop :=
  ∃ tail, path.toList = base.toList ++ tail ∧ tail.head?.all (· == '/')

theorem inside_toList {base name : String} :
    (inside base name).toList =
      (if base = "" then [] else base.toList ++ ['/']) ++ name.toList := by
  unfold inside
  by_cases h : base = ""
  · simp [h]
  · simp [h, String.isEmpty_iff]

/-- Two names do not lead to the same path. -/
theorem eq_of_leadsFrom_inside {base a b path : String} (ha : IsName a) (hb : IsName b)
    (hpath : LeadsFrom (inside base a) path) (hpath' : LeadsFrom (inside base b) path) : a = b := by
  have hname {n tail : List Char} (hn : '/' ∉ n) (htail : tail.head?.all (· == '/')) :
      (n ++ tail).takeWhile (· != '/') = n := by
    rw [List.takeWhile_append_of_pos fun c hc => bne_iff_ne.mpr (ne_of_mem_of_not_mem hc hn)]
    cases tail with
    | nil => simp
    | cons c tail =>
      rw [List.takeWhile_cons_of_neg (by simpa using htail), List.append_nil]
  obtain ⟨s, hs, hslash⟩ := hpath
  obtain ⟨t, ht, hslash'⟩ := hpath'
  rw [inside_toList, List.append_assoc] at hs ht
  have hrest : a.toList ++ s = b.toList ++ t := List.append_cancel_left (hs.symm.trans ht)
  rw [← String.toList_inj, ← hname ha.2 hslash, hrest, hname hb.2 hslash']

/-- The path of an entry is not that of the root. -/
theorem inside_ne_empty {base name : String} (h : name ≠ "") : inside base name ≠ "" := by
  intro hempty
  have hlist : (inside base name).toList = [] := by rw [hempty]; rfl
  rw [inside_toList, List.append_eq_nil_iff] at hlist
  exact h (String.toList_eq_nil_iff.mp hlist.2)

/-- A path that leads from an entry of a folder leads from the folder. -/
theorem LeadsFrom.of_inside {base name path : String} (hbase : base ≠ "")
    (h : LeadsFrom (inside base name) path) : LeadsFrom base path := by
  obtain ⟨tail, hpath, -⟩ := h
  rw [inside_toList, if_neg hbase] at hpath
  exact ⟨'/' :: name.toList ++ tail, by simpa using hpath, by simp⟩

mutual

/-- The files that are met lie on or below the path of what they are looked for in. -/
theorem leadsFrom_of_mem_files {base : String} (hbase : base ≠ "") :
    (t : FileTree) → t.IsProper → ∀ e ∈ files base t, LeadsFrom base e.1
  | file _, _, e, he => by
    obtain rfl := List.mem_singleton.mp he
    exact ⟨[], by simp, rfl⟩
  | link _, _, e, he => nomatch he
  | folder entries, ht, e, he => by
    obtain ⟨e', -, h⟩ := leadsFrom_of_mem_filesIn entries ht.2 e he
    exact h.of_inside hbase

/-- The files that are met in a folder lie on or below the paths of its entries. -/
theorem leadsFrom_of_mem_filesIn {base : String} :
    (entries : List (String × FileTree)) → AreProper entries →
      ∀ e ∈ filesIn base entries, ∃ e' ∈ entries, LeadsFrom (inside base e'.1) e.1
  | [], _, e, he => nomatch he
  | (name, t) :: rest, hproper, e, he => by
    obtain ⟨hname, ht, hrest⟩ := hproper
    rw [filesIn] at he
    obtain he | he := List.mem_append.mp he
    · split at he
      · exact ⟨(name, t), List.mem_cons_self,
          leadsFrom_of_mem_files (inside_ne_empty hname.1) t ht e he⟩
      · cases he
    · obtain ⟨e', he', h⟩ := leadsFrom_of_mem_filesIn rest hrest e he
      exact ⟨e', List.mem_cons_of_mem _ he', h⟩

end

mutual

/-- The files that are met in a proper tree have paths of their own. -/
theorem nodup_files (base : String) :
    (t : FileTree) → t.IsProper → ((files base t).map (·.1)).Nodup
  | file _, _ => List.pairwise_singleton _ _
  | link _, _ => List.nodup_nil
  | folder entries, ht => nodup_filesIn base entries ht.1 ht.2

/-- So it is of the entries of a folder. -/
theorem nodup_filesIn (base : String) :
    (entries : List (String × FileTree)) → (entries.map (·.1)).Nodup → AreProper entries →
      ((filesIn base entries).map (·.1)).Nodup
  | [], _, _ => List.nodup_nil
  | (name, t) :: rest, hnames, hproper => by
    obtain ⟨hother, hnames⟩ := List.nodup_cons.mp hnames
    obtain ⟨hname, ht, hrest⟩ := hproper
    have hbehind := nodup_filesIn base rest hnames hrest
    rw [filesIn, List.map_append]
    split
    · refine List.nodup_append.mpr ⟨nodup_files _ t ht, hbehind, ?_⟩
      rintro _ hhere path hthere rfl
      obtain ⟨e, he, hpath⟩ := List.mem_map.mp hhere
      obtain ⟨e', he', rfl⟩ := List.mem_map.mp hthere
      have hfrom := leadsFrom_of_mem_files (inside_ne_empty hname.1) t ht e he
      obtain ⟨other, hmem, hfrom'⟩ := leadsFrom_of_mem_filesIn rest hrest e' he'
      rw [hpath] at hfrom
      have heq := eq_of_leadsFrom_inside hname (hrest.of_mem hmem).1 hfrom hfrom'
      exact hother (List.mem_map.mpr ⟨other, hmem, heq.symm⟩)
    · exact hbehind

end

end FileTree

/-! ## Packages -/

namespace Package

/-- A script or a reference file has another path than the manifest. -/
theorem Coherent.path_ne_of_role {p : Package} (hp : p.Coherent) {f : PackageFile}
    (hf : f ∈ p.files) (hrole : f.role = .script ∨ f.role = .reference) :
    f.path ≠ p.manifestPath := by
  apply hp.path_ne hf
  obtain hrole | hrole := hrole <;> simp [hrole]

/-- What it takes for a path and a number to name one line at most. -/
structure IsUnambiguous (p : Package) : Prop where
  /-- No two files have the same path. -/
  nodup_paths : (p.files.map (·.path)).Nodup
  /-- A script or a reference file is not the manifest. -/
  path_ne : ∀ f ∈ p.files, f.role = .script ∨ f.role = .reference → f.path ≠ p.manifestPath
  /-- The front matter ends before the body starts. -/
  raw_le_body :
    FrontMatter.startLine + (lines p.frontMatter.raw.toList).length ≤ p.bodyStartLine

/-- In a package that is read from a proper tree a path and a number name one line at most. -/
theorem isUnambiguous_of_load {top : FileTree} {root : String} {priorities : Priorities}
    {p : Package} (htop : top.IsProper) (h : load top root priorities = .ok p) :
    p.IsUnambiguous := by
  have hp := coherent_of_load h
  obtain ⟨entries, manifestPath, text, m, name, hfolder, -, -, hsplit, rfl⟩ := load_eq_ok h
  constructor
  · have htree := FileTree.nodup_files "" _ (FileTree.isProper_of_lookup? htop hfolder)
    have hpaths :
        (assemble name manifestPath text m priorities (.folder entries)).files.map (·.path) =
          (((FileTree.folder entries).files "").mergeSort fun a b =>
            decide (a.1 ≤ b.1)).map (·.1) := by
      rw [assemble, List.map_map]
      rfl
    rw [hpaths]
    exact ((List.mergeSort_perm _ _).map _).nodup_iff.mpr htree
  · exact fun f hf hrole => hp.path_ne_of_role hf hrole
  · obtain ⟨opening, closing, -, hstart⟩ := Manifest.lines_of_split hsplit
    simp only [assemble, hstart, FrontMatter.startLine]
    omega

/-- The files of a package that is read stand in the order of their paths. -/
theorem pairwise_path_of_load {top : FileTree} {root : String} {priorities : Priorities}
    {p : Package} (htop : top.IsProper) (h : load top root priorities = .ok p) :
    p.files.Pairwise fun f g => f.path < g.path := by
  have hnodup := (isUnambiguous_of_load htop h).nodup_paths
  obtain ⟨entries, manifestPath, text, m, name, -, -, -, -, rfl⟩ := load_eq_ok h
  have hsorted : (((FileTree.folder entries).files "").mergeSort fun a b =>
      decide (a.1 ≤ b.1)).Pairwise fun a b => decide (a.1 ≤ b.1) = true := by
    refine List.pairwise_mergeSort (fun a b c hab hbc => ?_) (fun a b => ?_) _
    · exact decide_eq_true (String.le_trans (of_decide_eq_true hab) (of_decide_eq_true hbc))
    · rw [Bool.or_eq_true, decide_eq_true_iff, decide_eq_true_iff]
      exact String.le_total a.1 b.1
  have hle : (assemble name manifestPath text m priorities (.folder entries)).files.Pairwise
      fun f g => f.path ≤ g.path :=
    List.pairwise_map.mpr (hsorted.imp of_decide_eq_true)
  -- no path occurs twice, so that none is followed by itself
  exact (hle.and (List.pairwise_map.mp hnodup)).imp fun ⟨hpath, hne⟩ => Std.lt_of_le_of_ne hpath hne

end Package

end SkillAudit
