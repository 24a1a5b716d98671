import Mathlib.Data.List.Nodup
import SkillAudit.Check.Catalog
import SkillAudit.Proofs.Finding.Order
/-!
# SkillAudit.Proofs.Check.Basic

Where the remarks of the checks stand: at the manifest as a whole, at the first line of its front
matter, at the declaration of a key, or at a file as a whole. Each check is one case of
`Check.places_of_mem_all`, put together from the places of the lists that it chooses between. In
the same way each check is one case of `Check.agree_of_mem_all`: remarks of one check on one package
that say the same thing suggest the same thing.
-/

namespace SkillAudit

/-! ## Places -/

/-- Where a remark may stand. -/
inductive Remark.IsPlaced (p : Package) (r : Remark) : Prop where
  | manifest (file_eq : r.file = p.manifestPath) (line_eq : r.line = none)
  | frontMatter (file_eq : r.file = p.manifestPath) (line_eq : r.line = some FrontMatter.startLine)
  | key (key : String) (file_eq : r.file = p.manifestPath)
      (line_eq : r.line = p.frontMatter.lineOf? key)
  | file (f : PackageFile) (mem : f ∈ p.files) (file_eq : r.file = f.path) (line_eq : r.line = none)

namespace Package

/-- Whether all remarks of a list stand where remarks may stand. -/
def Places (p : Package) (remarks : List Remark) : Prop := ∀ r ∈ remarks, r.IsPlaced p

variable {p : Package}

theorem Places.nil : p.Places [] := nofun

/-- A remark on the manifest as a whole names no line. -/
theorem Places.remark {severity : Severity} {message suggestion : String} :
    p.Places [p.remark severity message suggestion] := fun r hr => by
  rw [List.mem_singleton.mp hr]
  exact .manifest rfl rfl

/-- A remark on a field names the line on which the field is declared, if it is. -/
theorem Places.remarkOn {key : String} {severity : Severity} {message suggestion : String} :
    p.Places [p.remarkOn key severity message suggestion] := fun r hr => by
  rw [List.mem_singleton.mp hr]
  exact .key key rfl rfl

/-- Whichever of two lists is given, its remarks have their places. -/
theorem Places.ite {c : Prop} [Decidable c] {xs ys : List Remark} (hx : p.Places xs)
    (hy : p.Places ys) : p.Places (if c then xs else ys) := by
  split
  · exact hx
  · exact hy

/-- Remarks about files as a whole. -/
theorem Places.map {fs : List PackageFile} {f : PackageFile → Remark} (hfs : ∀ g ∈ fs, g ∈ p.files)
    (hf : ∀ g, (f g).file = g.path ∧ (f g).line = none) : p.Places (fs.map f) := by
  intro r hr
  obtain ⟨g, hg, rfl⟩ := List.mem_map.mp hr
  exact .file g (hfs g hg) (hf g).1 (hf g).2

end Package

/-! ## Checks -/

namespace Check

variable {α : Type}

/-- Whether all remarks of a check stand where remarks may stand. -/
def Places (c : Check α) : Prop :=
  ∀ (p : Package) (config : Config α), p.Places (c.run p config)

/-- That a field is missing is said where the front matter starts. -/
theorem places_requiredField : Places (requiredField : Check α) := by
  intro p config r hr
  obtain ⟨key, -, rfl⟩ := List.mem_map.mp hr
  exact .frontMatter rfl rfl

/-- What is wrong with a name is said on the line of the name. -/
theorem places_nameFormat : Places (nameFormat : Check α) := by
  intro p config
  simp only [nameFormat]
  split
  · exact .nil
  · split
    · exact .nil
    · exact .remarkOn

/-- The files that should be elsewhere are files of the package. -/
theorem places_rootScripts : Places (rootScripts : Check α) := by
  intro p config
  refine .ite .nil (.map (fun g hg => ?_) fun g => ⟨rfl, rfl⟩)
  exact (List.mem_filter.mp hg).1

theorem places_bodyWithoutReferences : Places (bodyWithoutReferences : Check α) :=
  fun _ _ => .ite .nil .remark

/-- What is wrong with the length of a description is said on its line. -/
theorem places_descriptionLength : Places (descriptionLength : Check α) := by
  intro p config
  simp only [descriptionLength]
  split
  · exact .nil
  · exact .ite .remarkOn (.ite .remarkOn .nil)

/-- That phrases are missing is said on the line of the description. -/
theorem places_triggerPhrase : Places (triggerPhrase : Check α) := by
  intro p config
  simp only [triggerPhrase]
  split
  · exact .nil
  · exact .ite .nil .remarkOn

theorem places_fewHeadings : Places (fewHeadings : Check α) := fun _ _ => .ite .nil .remark

theorem places_missingExample : Places (missingExample : Check α) := fun _ _ => .ite .nil .remark

theorem places_longBody : Places (longBody : Check α) := fun _ _ => .ite .nil .remark

/-- The references without contents are files of the package. -/
theorem places_referenceToc : Places (referenceToc : Check α) := by
  intro p config
  refine .map (fun g hg => ?_) fun g => ⟨rfl, rfl⟩
  have href : g ∈ p.filesOf .reference := (List.mem_filter.mp hg).1
  exact (List.mem_filter.mp href).1

theorem places_emptyBody : Places (emptyBody : Check α) := fun _ _ => .ite .remark .nil

theorem places_weakPhrases : Places (weakPhrases : Check α) := fun _ _ => .ite .nil .remark

/-- Every check places its remarks so. -/
theorem places_of_mem_all {c : Check α} (hc : c ∈ all) : c.Places := by
  simp only [all, List.mem_cons, List.not_mem_nil, or_false] at hc
  obtain rfl | rfl | rfl | rfl | rfl | rfl | rfl | rfl | rfl | rfl | rfl | rfl := hc
  · exact places_requiredField
  · exact places_nameFormat
  · exact places_rootScripts
  · exact places_bodyWithoutReferences
  · exact places_descriptionLength
  · exact places_triggerPhrase
  · exact places_fewHeadings
  · exact places_missingExample
  · exact places_longBody
  · exact places_referenceToc
  · exact places_emptyBody
  · exact places_weakPhrases

/-! ## Findings -/

/-- A finding of the checks is that of a remark of one of them. -/
theorem mem_findingsOf {checks : List (Check α)} {p : Package} {config : Config α} {f : Finding} :
    f ∈ findingsOf checks p config ↔ ∃ c ∈ checks, ∃ r ∈ c.run p config, f = c.finding r := by
  simp only [findingsOf, findings, List.mem_flatMap, List.mem_map, eq_comm]

/-- The names of the checks, in the order in which they are run. -/
theorem map_name_all : (all : List (Check α)).map (·.name) = [
    "required-field", "name-format", "root-scripts", "body-without-references",
    "description-length", "trigger-phrase", "few-headings", "missing-example", "long-body",
    "reference-toc", "empty-body", "weak-phrases"] := rfl

end Check

/-! ## Suggestions -/

/-- Whether the messages of some remarks decide their suggestions. -/
def Remark.Agree (remarks : List Remark) : Prop :=
  ∀ r ∈ remarks, ∀ s ∈ remarks, r.message = s.message → r.suggestion = s.suggestion

namespace Remark.Agree

theorem nil : Agree [] := nofun

/-- A single remark is like itself. -/
theorem singleton {r : Remark} : Agree [r] := fun s hs t ht _ => by
  rw [List.mem_singleton.mp hs, List.mem_singleton.mp ht]

theorem ite {c : Prop} [Decidable c] {xs ys : List Remark} (hx : Agree xs) (hy : Agree ys) :
    Agree (if c then xs else ys) := by
  split
  · exact hx
  · exact hy

/-- Remarks that suggest one thing. -/
theorem map {fs : List PackageFile} {f : PackageFile → Remark} {suggestion : String}
    (hf : ∀ g, (f g).suggestion = suggestion) : Agree (fs.map f) := by
  intro r hr s hs _
  obtain ⟨g, -, rfl⟩ := List.mem_map.mp hr
  obtain ⟨g', -, rfl⟩ := List.mem_map.mp hs
  rw [hf, hf]

end Remark.Agree

namespace Check

variable {α : Type}

/-- Whether the remarks of a check on a package agree. -/
def Agree (c : Check α) : Prop := ∀ (p : Package) (config : Config α), Remark.Agree (c.run p config)

/-- The messages of missing fields differ from one another. -/
theorem agree_requiredField : Agree (requiredField : Check α) := by
  -- the message names the key, and so does the suggestion
  intro p config r hr s hs hmessage
  obtain ⟨key, -, rfl⟩ := List.mem_map.mp hr
  obtain ⟨key', -, rfl⟩ := List.mem_map.mp hs
  have hkey : key = key' := by simpa [toString, ← String.toList_inj] using hmessage
  rw [hkey]

/-- One message says all that is wrong with a name. -/
theorem agree_nameFormat : Agree (nameFormat : Check α) := by
  intro p config
  simp only [nameFormat]
  split
  · exact .nil
  · split
    · exact .nil
    · exact .singleton

/-- A description is not too short and too long at once. -/
theorem agree_descriptionLength : Agree (descriptionLength : Check α) := by
  intro p config
  simp only [descriptionLength]
  split
  · exact .nil
  · exact .ite .singleton (.ite .singleton .nil)

/-- At most one remark says that phrases are missing. -/
theorem agree_triggerPhrase : Agree (triggerPhrase : Check α) := by
  intro p config
  simp only [triggerPhrase]
  split
  · exact .nil
  · exact .ite .nil .singleton

/-- The remarks of every check agree. -/
theorem agree_of_mem_all {c : Check α} (hc : c ∈ all) : c.Agree := by
  simp only [all, List.mem_cons, List.not_mem_nil, or_false] at hc
  obtain rfl | rfl | rfl | rfl | rfl | rfl | rfl | rfl | rfl | rfl | rfl | rfl := hc
  · exact agree_requiredField
  · exact agree_nameFormat
  · exact fun _ _ => .ite .nil (.map fun _ => rfl)
  · exact fun _ _ => .ite .nil .singleton
  · exact agree_descriptionLength
  · exact agree_triggerPhrase
  · exact fun _ _ => .ite .nil .singleton
  · exact fun _ _ => .ite .nil .singleton
  · exact fun _ _ => .ite .nil .singleton
  · exact fun _ _ => .map fun _ => rfl
  · exact fun _ _ => .ite .singleton .nil
  · exact fun _ _ => .ite .nil .singleton

/-- No two checks share a name. -/
theorem eq_of_name_eq {c d : Check α} (hc : c ∈ all) (hd : d ∈ all) (h : c.name = d.name) :
    c = d := by
  have hnames : ((all : List (Check α)).map (·.name)).Nodup := by
    rw [map_name_all]
    decide +kernel
  exact List.inj_on_of_nodup_map hnames hc hd h

/-- The findings of all checks together, each under the name of its check. -/
theorem under_names (p : Package) (config : Config α) :
    Finding.Under ((all : List (Check α)).map (·.name)) (findingsOf all p config) where
  rule_mem f hf := by
    obtain ⟨c, hc, r, -, rfl⟩ := mem_findingsOf.mp hf
    exact List.mem_map_of_mem hc
  consistent f hf g hg hrule hmessage := by
    obtain ⟨c, hc, r, hr, rfl⟩ := mem_findingsOf.mp hf
    obtain ⟨d, hd, s, hs, rfl⟩ := mem_findingsOf.mp hg
    obtain rfl : c = d := eq_of_name_eq hc hd hrule
    exact ⟨rfl, congrArg some (agree_of_mem_all hc p config r hr s hs hmessage)⟩

/-- No check speaks for the security scan. -/
theorem category_ne_security {p : Package} {config : Config α} {f : Finding}
    (h : f ∈ findingsOf all p config) : f.category ≠ .security := by
  obtain ⟨c, hc, r, -, rfl⟩ := mem_findingsOf.mp h
  have hcategories : (all : List (Check α)).map (·.category) = [
      .structural, .structural, .structural, .structural, .content, .content, .content, .content,
      .content, .content, .content, .style] := rfl
  have hmem : c.category ∈ (all : List (Check α)).map (·.category) := List.mem_map_of_mem hc
  intro hsecurity
  rw [hcategories, show c.category = .security from hsecurity] at hmem
  exact absurd hmem (by decide)

end Check

end SkillAudit
