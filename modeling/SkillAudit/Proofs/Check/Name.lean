import SkillAudit.Check.Layout
import SkillAudit.Proofs.Text.Pieces
/-!
# SkillAudit.Proofs.Check.Name

The grammar of names. A name in kebab case is one segment or more, joined by single hyphens. The
test of a name never reads a segment: it looks at the two ends, for two hyphens in a row, and at
each character on its own. Both speak of the pieces between the hyphens.

* `isSegmented_iff` — a name of the grammar has segments for its pieces;
* `isKebabCase_iff` — the test is passed by the names of the grammar only;
* `Check.holdsNames` — which packages the check on names speaks about.
-/

namespace SkillAudit

open Text

variable {name s : List Char}

/-! ## The grammar -/

/-- Whether a character is a small ASCII letter or an ASCII digit. -/
def IsNameChar (c : Char) : Prop :=
  ('a' ≤ c ∧ c ≤ 'z') ∨ ('0' ≤ c ∧ c ≤ '9')

/-- What it means for a text to be a segment of a name: such characters, at least one. -/
structure IsSegment (s : List Char) : Prop where
  ne_nil : s ≠ []
  isNameChar : ∀ c ∈ s, IsNameChar c

/-- Whether a text is one segment or more, joined by single hyphens. -/
def IsSegmented (name : List Char) : Prop :=
  ∃ segments, segments ≠ [] ∧ (∀ s ∈ segments, IsSegment s) ∧ name = ['-'].intercalate segments

theorem isNameChar_iff {c : Char} : IsNameChar c ↔ c.isLower || c.isDigit := by
  have hlower : c.isLower = (decide ('a' ≤ c) && decide (c ≤ 'z')) := rfl
  have hdigit : c.isDigit = (decide ('0' ≤ c) && decide (c ≤ '9')) := rfl
  simp only [IsNameChar, hlower, hdigit, Bool.or_eq_true, Bool.and_eq_true, decide_eq_true_eq]

theorem IsSegment.hyphen_not_mem (h : IsSegment s) : '-' ∉ s := fun hmem =>
  absurd (isNameChar_iff.mp (h.isNameChar '-' hmem)) (by decide)

/-- The segments are what stands between the hyphens. -/
theorem isSegmented_iff : IsSegmented name ↔ ∀ s ∈ splitOn '-' name, IsSegment s := by
  constructor
  · rintro ⟨segments, hne, hsegments, rfl⟩
    have hapart : ∀ s ∈ segments, '-' ∉ s := fun s hs => (hsegments s hs).hyphen_not_mem
    rwa [splitOn_eq, List.splitOn_intercalate '-' hapart hne]
  · intro h
    refine ⟨splitOn '-' name, splitOn_ne_nil '-' name, h, ?_⟩
    rw [splitOn_eq, List.intercalate_splitOn]

/-! ## The test -/

/-- The tests of the hyphens say that no piece is empty, -/
theorem nil_not_mem_pieces_iff : [] ∉ splitOn '-' name ↔
    name ≠ [] ∧ name.head? ≠ some '-' ∧ name.getLast? ≠ some '-' ∧ ¬['-', '-'] <:+: name := by
  simp only [nil_mem_splitOn_iff, not_or, ne_eq]

/-- and the test of the characters says what the pieces are made of. -/
theorem isNameChar_of_pieces_iff : (∀ s ∈ splitOn '-' name, ∀ c ∈ s, IsNameChar c) ↔
    ∀ c ∈ name, IsNameChar c ∨ c = '-' := by
  rw [← List.forall_mem_flatten, flatten_splitOn]
  refine forall_congr' fun c => ?_
  simp only [List.mem_filter, bne_iff_ne, and_imp]
  exact imp_congr_right fun _ => Decidable.or_iff_not_imp_right.symm

/-- The test is passed exactly by the names of the grammar. -/
theorem isKebabCase_iff : isKebabCase name ↔ IsSegmented name := by
  have hpieces : (∀ s ∈ splitOn '-' name, IsSegment s) ↔
      [] ∉ splitOn '-' name ∧ ∀ s ∈ splitOn '-' name, ∀ c ∈ s, IsNameChar c := by
    constructor
    · intro h
      exact ⟨fun hnil => (h [] hnil).ne_nil rfl, fun s hs => (h s hs).isNameChar⟩
    · rintro ⟨hnil, hchars⟩ s hs
      exact ⟨fun hempty => hnil (hempty ▸ hs), hchars s hs⟩
  rw [isSegmented_iff, hpieces, nil_not_mem_pieces_iff, isNameChar_of_pieces_iff]
  simp [isKebabCase, isNameChar_iff, ← contains_iff_infix, and_assoc]

/-- Two hyphens in a row have an empty piece between them. -/
example : isKebabCase "pdf-tools2".toList = true ∧ isKebabCase "pdf--tools".toList = false := by
  decide +kernel

/-- A name without problems is one of the grammar, and short. -/
theorem nameProblems_eq_nil_iff {name : String} :
    nameProblems name = [] ↔ IsSegmented name.toList ∧ name.toList.length ≤ 64 := by
  rw [← isKebabCase_iff, String.length_toList, nameProblems, List.append_eq_nil_iff, maxNameLength]
  simp

/-! ## The check -/

namespace FrontMatter

variable {fm : FrontMatter}

/-- The text of the name without the white space around it, even if nothing is left of it. -/
def trimmedName? (fm : FrontMatter) : Option (List Char) :=
  (fm.text? "name").map fun s => trim s.toList

/-- Whether there is no name, or one of the grammar with at most 64 characters. -/
def IsWellNamed (fm : FrontMatter) : Prop :=
  fm.trimmedName? = none ∨ fm.trimmedName? = some [] ∨
    ∃ name, fm.trimmedName? = some name ∧ IsSegmented name ∧ name.length ≤ 64

theorem name?_eq (fm : FrontMatter) : fm.name? = fm.trimmedName?.bind fun name =>
    if name.isEmpty then none else some (String.ofList name) := by
  rw [name?, filled?, trimmedName?, Option.bind_map]
  rfl

theorem isWellNamed_iff : fm.IsWellNamed ↔ ∀ name ∈ fm.name?, nameProblems name = [] := by
  simp only [nameProblems_eq_nil_iff, name?_eq, IsWellNamed]
  cases fm.trimmedName? with
  | none => simp
  | some name => cases name <;> simp

end FrontMatter

namespace Check

variable {α : Type}

/-- The check makes one remark where the name has problems, and none otherwise. -/
theorem run_nameFormat_cases (p : Package) (config : Config α) :
    (nameFormat.run p config = [] ∧ p.frontMatter.IsWellNamed) ∨
      (∃ r, nameFormat.run p config = [r]) ∧ ¬p.frontMatter.IsWellNamed := by
  rw [FrontMatter.isWellNamed_iff]
  simp only [nameFormat]
  split
  · next hname =>
    rw [hname]
    exact .inl ⟨rfl, nofun⟩
  · next name hname =>
    rw [hname]
    split
    · next hproblems => exact .inl ⟨rfl, by simpa using hproblems⟩
    · next hproblems => exact .inr ⟨⟨_, rfl⟩, fun h => hproblems (h name rfl)⟩

/-- What it means for names to be held to their grammar. -/
structure HoldsNames (α : Type) : Prop where
  /-- The test of a name is passed by the names of the grammar and by no other text. -/
  isKebabCase_iff : ∀ name : List Char, isKebabCase name ↔ IsSegmented name
  /-- There is no finding about a package without a name, or with a short one of the grammar, -/
  findings_eq_nil_iff : ∀ (p : Package) (config : Config α),
    nameFormat.findings p config = [] ↔ p.frontMatter.IsWellNamed
  /-- and a single one about any other. -/
  exists_finding : ∀ (p : Package) (config : Config α), ¬p.frontMatter.IsWellNamed →
    ∃ f, nameFormat.findings p config = [f]

theorem holdsNames : HoldsNames α where
  isKebabCase_iff _ := SkillAudit.isKebabCase_iff
  findings_eq_nil_iff p config := by
    rw [findings, List.map_eq_nil_iff]
    obtain ⟨hnil, hwell⟩ | ⟨⟨r, hr⟩, hill⟩ := run_nameFormat_cases p config
    · exact iff_of_true hnil hwell
    · exact iff_of_false (hr ▸ List.cons_ne_nil r []) hill
  exists_finding p config h := by
    obtain ⟨-, hwell⟩ | ⟨⟨r, hr⟩, -⟩ := run_nameFormat_cases p config
    · exact absurd hwell h
    · exact ⟨nameFormat.finding r, by rw [findings, hr, List.map_singleton]⟩

end Check

end SkillAudit
