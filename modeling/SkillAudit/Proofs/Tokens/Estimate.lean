import SkillAudit.Proofs.Number.Rounding
import SkillAudit.Proofs.Package.Notes
import SkillAudit.Proofs.PathMap
import SkillAudit.Proofs.Reference.Insertion
import SkillAudit.Proofs.Reference.Orphan
import SkillAudit.Tokens.Estimate
/-!
# SkillAudit.Proofs.Tokens.Estimate

How the tokens of a package grow with its text. Four characters are a token, rounded, and one token
is the least of any text: so a text has at most one token more or less than its two parts together,
and five more characters always make a difference.

* `growWithText` — the tokens of a text and those of its parts;
* `increases_of_extends` — a longer body;
* `referencesTotal_without_lt` — a reference file less;
* `growsLawfully` — all of these, for the report on a package.
-/

namespace SkillAudit

open Text

/-! ## Lengths -/

namespace Tokens

variable {m n : Nat}

/-- The quotient is the nearest whole number. -/
theorem cast_ofLength (h : n ≠ 0) :
    (ofLength n : Rat) = max 1 (Quantity.roundHalfAway (n / 4)) := by
  have hquarter : ((n : Rat) / 4 + 1 / 2) = ((n + 2 : Nat) : Int) / (4 : Nat) := by
    push_cast
    ring
  rw [Quantity.roundHalfAway_of_nonneg (by positivity), hquarter, Rat.floor_intCast_div_natCast,
    ofLength, if_neg h]
  push_cast
  rfl

/-- Only where there are no characters are there no tokens. -/
theorem ofLength_eq_zero : ofLength n = 0 ↔ n = 0 := by
  unfold ofLength
  split <;> omega

/-- More characters are at least as many tokens. -/
theorem ofLength_mono (h : m ≤ n) : ofLength m ≤ ofLength n := by
  unfold ofLength
  split
  · exact Nat.zero_le _
  · rw [if_neg (by omega)]
    omega

/-- Two lengths together are a token more at most than each by itself. -/
theorem ofLength_add_le (m n : Nat) : ofLength (m + n) ≤ ofLength m + ofLength n + 1 := by
  unfold ofLength
  split <;> split <;> split <;> omega

/-- They are a token less at most. -/
theorem le_ofLength_add (m n : Nat) : ofLength m + ofLength n ≤ ofLength (m + n) + 1 := by
  unfold ofLength
  split <;> split <;> split <;> omega

/-- Five more characters are always a token more. -/
theorem ofLength_lt_add (h : 5 ≤ n) (m : Nat) : ofLength m < ofLength (m + n) := by
  unfold ofLength
  split <;> split <;> omega

/-- Four are not. -/
example : ofLength (1 + 4) = ofLength 1 := rfl

/-! ## Texts -/

/-- How the tokens of a text depend on its two parts. -/
structure GrowWithText (a b : String) : Prop where
  le_append : ofText a ≤ ofText (a ++ b)
  append_le : ofText (a ++ b) ≤ ofText a + ofText b + 1
  add_le : ofText a + ofText b ≤ ofText (a ++ b) + 1
  lt_append : 5 ≤ b.length → ofText a < ofText (a ++ b)

/-- The tokens of a text and those of its two parts. -/
theorem growWithText (a b : String) : GrowWithText a b := by
  have happend : ofText (a ++ b) = ofLength (a.length + b.length) := by
    rw [ofText, String.length_append]
  constructor <;> rw [happend]
  · exact ofLength_mono (Nat.le_add_right _ _)
  · exact ofLength_add_le _ _
  · exact le_ofLength_add _ _
  · exact fun h => ofLength_lt_add h _

/-- A text that is not empty has a token. -/
theorem ofText_pos {t : String} (h : t ≠ "") : 0 < ofText t := by
  rw [Nat.pos_iff_ne_zero, ofText, ne_eq, ofLength_eq_zero]
  simpa using h

/-- Without a path that has tokens there are fewer in all. -/
theorem sum_filter_ne_lt {path : String} {counts : List (String × Nat)} (h : (path, n) ∈ counts)
    (hpos : 0 < n) :
    ((counts.filter (·.1 != path)).map (·.2)).sum < (counts.map (·.2)).sum := by
  let keep (e : String × Nat) : Bool := e.1 != path
  have hparts : ((counts.filter keep).map (·.2)).sum + ((counts.filter (!keep ·)).map (·.2)).sum =
      (counts.map (·.2)).sum := by
    have hperm := ((List.filter_append_perm keep counts).map (·.2)).sum_nat
    rwa [List.map_append, List.sum_append] at hperm
  have hdropped : 0 < ((counts.filter (!keep ·)).map (·.2)).sum := by
    refine List.sum_pos_iff_exists_pos_nat.mpr ⟨n, ?_, hpos⟩
    exact List.mem_map.mpr ⟨(path, n), by simp [keep, h], rfl⟩
  rw [← hparts]
  exact Nat.lt_add_of_pos_right hdropped

end Tokens

/-! ## Packages -/

namespace Package

/-- The tokens of the reference files that are text, each with its path. -/
def referenceTokens (p : Package) : List (String × Nat) :=
  (p.filesOf .reference).filterMap fun f => f.text.map fun t => (f.path, Tokens.ofText t)

/-- The measured files and the counted ones are the same. -/
theorem map_referenceEstimates (p : Package) :
    (p.referenceEstimates.map fun e => (e.file, e.tokens)) = p.referenceTokens := by
  rw [referenceEstimates, List.map_filterMap, referenceTokens]
  refine List.filterMap_congr fun f _ => ?_
  rw [Option.map_map]
  rfl

/-- What is counted are the reference files that are text. -/
theorem mem_referenceTokens {p : Package} {e : String × Nat} :
    e ∈ p.referenceTokens ↔
      ∃ f ∈ p.files, f.role = .reference ∧
        ∃ t, f.text = some t ∧ (f.path, Tokens.ofText t) = e := by
  simp only [referenceTokens, filesOf, List.mem_filterMap, List.mem_filter, beq_iff_eq,
    Option.map_eq_some_iff, and_assoc]

/-- The files are counted one after the other. -/
theorem pairwise_referenceTokens {R : String → String → Prop} {p : Package}
    (h : p.files.Pairwise fun f g => R f.path g.path) :
    p.referenceTokens.Pairwise fun a b => R a.1 b.1 := by
  refine List.pairwise_filterMap.mpr ((h.filter _).imp fun hR a ha b hb => ?_)
  obtain ⟨t, -, rfl⟩ := Option.map_eq_some_iff.mp ha
  obtain ⟨u, -, rfl⟩ := Option.map_eq_some_iff.mp hb
  exact hR

/-- Without a file at a path nothing is counted there. -/
theorem referenceTokens_without (p : Package) (path : String) :
    (p.without path).referenceTokens = p.referenceTokens.filter (·.1 != path) := by
  have hfiles : (p.without path).filesOf .reference =
      (p.filesOf .reference).filter fun f => f.path != path := List.filter_comm _ _ _
  rw [referenceTokens, hfiles, List.filterMap_filter, referenceTokens, List.filter_filterMap]
  refine List.filterMap_congr fun f _ => ?_
  cases f.text with
  | none => simp
  | some t => simp [Option.filter]

/-- Whether a package has more text at the end of its body than another one, and nothing else in it
    that is counted is different. -/
structure Extends (p' p : Package) (b : String) : Prop where
  raw : p'.frontMatter.raw = p.frontMatter.raw
  body : p'.body = p.body ++ b
  references : p'.filesOf .reference = p.filesOf .reference

/-- A package whose body goes on extends the package. -/
theorem extends_withBody (p : Package) (b : String) : (p.withBody (p.body ++ b)).Extends p b :=
  ⟨rfl, rfl, rfl⟩

/-- Whether a file shares its path with no other file. -/
def HasOwnPath (p : Package) (f : PackageFile) : Prop := ∀ g ∈ p.files, g.path = f.path → g = f

/-- In an unambiguous package, as every one that is read, each file has a path of its own. -/
theorem hasOwnPath_of_isUnambiguous {p : Package} (hp : p.IsUnambiguous) {f : PackageFile}
    (hf : f ∈ p.files) : p.HasOwnPath f := fun _ hg hpath =>
  List.inj_on_of_nodup_map hp.nodup_paths hg hf hpath

/-- The tokens of a reference file with a path of its own are not replaced by others. -/
theorem mem_ofEntries_referenceTokens {p : Package} {f : PackageFile} (hf : f ∈ p.files)
    (hown : p.HasOwnPath f) (hrole : f.role = .reference) {t : String} (ht : f.text = some t) :
    (f.path, Tokens.ofText t) ∈ PathMap.ofEntries p.referenceTokens := by
  refine PathMap.mem_ofEntries_of_forall (mem_referenceTokens.mpr ⟨f, hf, hrole, t, ht, rfl⟩) ?_
  intro e he hpath
  obtain ⟨g, hg, -, u, hu, rfl⟩ := mem_referenceTokens.mp he
  obtain rfl := hown g hg hpath
  obtain rfl := Option.some_inj.mp (hu.symm.trans ht)
  rfl

end Package

namespace TokenReport

variable {α : Type} [Quantity α]

/-- The tokens of the reference files are counted by their paths. -/
theorem references_ofPackage (p : Package) (config : TokenConfig α) :
    (ofPackage p config).references = PathMap.ofEntries p.referenceTokens :=
  congrArg PathMap.ofEntries p.map_referenceEstimates

/-- The uses of a package read from the three tiers. -/
theorem scenarios_ofPackage (p : Package) (config : TokenConfig α) :
    (ofPackage p config).scenarios =
      scenariosOf (Tokens.ofText p.frontMatter.raw) (Tokens.ofText p.body)
        ((PathMap.ofEntries p.referenceTokens).map (·.2)) := by
  rw [← references_ofPackage p config]
  rfl

/-- The tokens of the reference files together, each path counted once. -/
theorem referencesTotal_ofPackage (p : Package) (config : TokenConfig α) :
    (ofPackage p config).referencesTotal = ((PathMap.ofEntries p.referenceTokens).map (·.2)).sum := by
  rw [← references_ofPackage p config]
  rfl

/-- A reference file with some text less. -/
theorem referencesTotal_without_lt {p : Package} {f : PackageFile} (hf : f ∈ p.files)
    (hown : p.HasOwnPath f) (hrole : f.role = .reference) {t : String} (ht : f.text = some t)
    (hne : t ≠ "") (config : TokenConfig α) :
    (ofPackage (p.without f.path) config).referencesTotal <
      (ofPackage p config).referencesTotal := by
  rw [referencesTotal_ofPackage, referencesTotal_ofPackage, Package.referenceTokens_without,
    PathMap.ofEntries_filter_ne]
  exact Tokens.sum_filter_ne_lt (Package.mem_ofEntries_referenceTokens hf hown hrole ht)
    (Tokens.ofText_pos hne)

/-- What more text in the body does to the tokens of a package. -/
structure Increases (r r' : TokenReport α) : Prop where
  body : r.body < r'.body
  typical : r.scenarios.typical < r'.scenarios.typical
  withReference : r.scenarios.withReference < r'.scenarios.withReference
  worst : r.scenarios.worst < r'.scenarios.worst
  metadata : r'.metadata = r.metadata
  referencesTotal : r'.referencesTotal = r.referencesTotal

/-- A body that is five characters longer makes every use of it larger. -/
theorem increases_of_extends {p p' : Package} {b : String} (h : p'.Extends p b)
    (hb : 5 ≤ b.length) (config : TokenConfig α) :
    (ofPackage p config).Increases (ofPackage p' config) := by
  have hbody : Tokens.ofText p.body < Tokens.ofText p'.body := by
    rw [h.body]
    exact (Tokens.growWithText p.body b).lt_append hb
  have hreferences : p'.referenceTokens = p.referenceTokens := by
    rw [Package.referenceTokens, h.references, Package.referenceTokens]
  have hscenarios := scenarios_ofPackage p config
  have hscenarios' := scenarios_ofPackage p' config
  rw [h.raw, hreferences] at hscenarios'
  constructor
  · exact hbody
  · rw [hscenarios, hscenarios']
    exact Nat.add_lt_add_left hbody _
  · rw [hscenarios, hscenarios']
    exact Nat.add_lt_add_right (Nat.add_lt_add_left hbody _) _
  · rw [hscenarios, hscenarios']
    exact Nat.add_lt_add_right (Nat.add_lt_add_left hbody _) _
  · exact congrArg Tokens.ofText h.raw
  · rw [referencesTotal_ofPackage, referencesTotal_ofPackage, hreferences]

/-- How the tokens of packages grow with their texts. -/
structure GrowsLawfully (config : TokenConfig α) : Prop where
  /-- The tokens of a text and those of its parts. -/
  text : ∀ a b : String, Tokens.GrowWithText a b
  /-- A longer body. -/
  body : ∀ {p p' : Package} {b : String}, p'.Extends p b → 5 ≤ b.length →
    (ofPackage p config).Increases (ofPackage p' config)
  /-- A reference file less, where no other file has its path. -/
  without : ∀ {p : Package} {f : PackageFile}, f ∈ p.files → p.HasOwnPath f →
    f.role = .reference → ∀ {t : String}, f.text = some t → t ≠ "" →
      (ofPackage (p.without f.path) config).referencesTotal <
        (ofPackage p config).referencesTotal
  /-- A reference file less, in a package that is read. -/
  without_of_load : ∀ {top : FileTree} {root : String} {priorities : Priorities} {p : Package},
    top.IsProper → Package.load top root priorities = .ok p →
      ∀ {f : PackageFile}, f ∈ p.files → f.role = .reference →
        ∀ {t : String}, f.text = some t → t ≠ "" →
          (ofPackage (p.without f.path) config).referencesTotal <
            (ofPackage p config).referencesTotal

/-- The tokens of packages grow with their texts. -/
theorem growsLawfully (config : TokenConfig α) : GrowsLawfully config where
  text := Tokens.growWithText
  body := fun h hb => increases_of_extends h hb config
  without := fun hf hown hrole _ ht hne => referencesTotal_without_lt hf hown hrole ht hne config
  without_of_load := fun htop h _ hf hrole _ ht hne =>
    have hp := Package.isUnambiguous_of_load htop h
    referencesTotal_without_lt hf (Package.hasOwnPath_of_isUnambiguous hp hf) hrole ht hne config

/-- A package with two references, one of them without text. -/
def sparseNotes : Package :=
  .notes .named "Read references/api.md.\n"
    [("references/api.md", "# The whole API"), ("references/draft.md", "")]

/-- The one with some text. -/
def apiReference : PackageFile := .ofText "references/api.md" "# The whole API"

/-- One more sentence in the body, and the reference with some text left out. -/
theorem growsLawfully_sparseNotes :
    let prices : TokenConfig Rat := .default
    (ofPackage sparseNotes prices).Increases
        (ofPackage (sparseNotes.withBody (sparseNotes.body ++ "Go on.\n")) prices) ∧
      (ofPackage (sparseNotes.without "references/api.md") prices).referencesTotal <
        (ofPackage sparseNotes prices).referencesTotal := by
  intro prices
  have hgrows := growsLawfully prices
  have happend := Package.extends_withBody sparseNotes "Go on.\n"
  have hfile : apiReference ∈ sparseNotes.files := List.mem_cons_of_mem _ List.mem_cons_self
  have hunambiguous : sparseNotes.IsUnambiguous := Package.isUnambiguous_notes (by decide)
  have hown := Package.hasOwnPath_of_isUnambiguous hunambiguous hfile
  have hrole : apiReference.role = .reference := by decide +kernel
  have hremoved := hgrows.without hfile hown hrole rfl (by decide)
  exact ⟨hgrows.body happend (by decide), hremoved⟩

end TokenReport

end SkillAudit
