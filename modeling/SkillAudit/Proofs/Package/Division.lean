import SkillAudit.Package.FrontMatter
import SkillAudit.Proofs.Text.Lines
/-!
# SkillAudit.Proofs.Package.Division

The two lines of hyphens of a manifest. A text that opens with such a line and has another one is
divided by them, and splitting it is reading the YAML between them; any other text is refused:

* `exists_division` — a text with the two lines has a division;
* `split_eq_read` — splitting a text that has one;
* `split_isError_iff` — when a text is refused.
-/

namespace SkillAudit.Manifest

open Text

variable {parse : String → Except Yaml.Error Yaml.Value} {text : String}

/-! ## Lines of hyphens -/

/-- Whether the first line of a text is three hyphens, behind byte order marks perhaps. -/
def Opens (s : List Char) : Prop :=
  ∃ first rest, cutLines s = first :: rest ∧ isOpening first

/-- Whether a line behind the first one is three hyphens. -/
def Closes (s : List Char) : Prop :=
  ∃ first rest, cutLines s = first :: rest ∧ ∃ l ∈ rest, isDelimiter l

/-- A text divided by its first line and the next one of three hyphens. The lines keep their
    endings. -/
structure Division (s : List Char) where
  opening : List Char
  /-- The lines of the front matter. -/
  inner : List (List Char)
  closing : List Char
  /-- The lines of the body. -/
  behind : List (List Char)
  cutLines_eq : cutLines s = opening :: (inner ++ closing :: behind)
  isOpening_opening : isOpening opening
  not_isDelimiter : ∀ l ∈ inner, ¬isDelimiter l
  isDelimiter_closing : isDelimiter closing

/-- A text has a division if it has both lines. -/
theorem exists_division {s : List Char} (hopens : Opens s) (hcloses : Closes s) :
    Nonempty (Division s) := by
  obtain ⟨first, rest, hcut, hfirst⟩ := hopens
  obtain ⟨first', rest', hcut', hclosing⟩ := hcloses
  obtain ⟨rfl, rfl⟩ := List.cons.inj (hcut.symm.trans hcut')
  obtain ⟨closing, hfind⟩ := Option.isSome_iff_exists.mp (List.find?_isSome.mpr hclosing)
  obtain ⟨hdelimiter, inner, behind, rfl, hinner⟩ := List.find?_eq_some_iff_append.mp hfind
  exact ⟨⟨first, inner, closing, behind, hcut, hfirst, by simpa using hinner, hdelimiter⟩⟩

namespace Division

variable {s : List Char}

/-- The front matter. -/
def raw (d : Division s) : String := String.ofList d.inner.flatten

/-- The body. -/
def body (d : Division s) : String := String.ofList d.behind.flatten

/-- The manifest that the YAML of the front matter makes. -/
def read (d : Division s) (parse : String → Except Yaml.Error Yaml.Value) :
    Except ManifestError Manifest :=
  match parse d.raw with
  | .error e => .error (.malformed e)
  | .ok (.map fields) => .ok ⟨⟨d.raw, fields⟩, d.body, d.inner.length + 3⟩
  | .ok _ => .error .notMapping

theorem read_eq_ok {d : Division s} {m : Manifest} (h : d.read parse = .ok m) :
    ∃ fields, parse d.raw = .ok (.map fields) ∧
      m = ⟨⟨d.raw, fields⟩, d.body, d.inner.length + 3⟩ := by
  unfold read at h
  split at h
  · cases h
  · next fields hparse =>
    cases h
    exact ⟨fields, hparse, rfl⟩
  · cases h

theorem read_isError_iff {d : Division s} : (∃ e, d.read parse = .error e) ↔
    (∃ e, parse d.raw = .error e) ∨ ∃ v, parse d.raw = .ok v ∧ ∀ fields, v ≠ .map fields := by
  cases hparse : parse d.raw with
  | error e => simp [read, hparse]
  | ok v => cases v <;> simp [read, hparse]

end Division

/-! ## Splitting -/

/-- Splitting a text that has a division is reading what is between its lines of hyphens. -/
theorem split_eq_read (d : Division text.toList) : split parse text = d.read parse := by
  have htake :
      (d.inner ++ d.closing :: d.behind).takeWhile (fun l => !isDelimiter l) = d.inner := by
    rw [List.takeWhile_append_of_pos (by simpa using d.not_isDelimiter),
      List.takeWhile_cons_of_neg (by simpa using d.isDelimiter_closing), List.append_nil]
  have hdrop : (d.inner ++ d.closing :: d.behind).dropWhile (fun l => !isDelimiter l) =
      d.closing :: d.behind := by
    rw [List.dropWhile_append_of_pos (by simpa using d.not_isDelimiter),
      List.dropWhile_cons_of_neg (by simpa using d.isDelimiter_closing)]
  have hopening : (!isOpening d.opening) = false := by simp [d.isOpening_opening]
  simp only [split, d.cutLines_eq, hopening, htake, hdrop]
  rfl

/-- A text that does not open with hyphens has no front matter. -/
theorem split_of_not_opens (h : ¬Opens text.toList) : split parse text = .error .missing := by
  unfold split
  split
  · rfl
  · next first rest hcut =>
    refine if_pos ?_
    rw [Bool.not_eq_true', Bool.eq_false_iff]
    exact fun hfirst => h ⟨first, rest, hcut, hfirst⟩

/-- One that does, with no such line behind, has one without an end. -/
theorem split_of_not_closes (hopens : Opens text.toList) (h : ¬Closes text.toList) :
    split parse text = .error .unterminated := by
  obtain ⟨first, rest, hcut, hfirst⟩ := hopens
  have hinner : ∀ l ∈ rest, (!isDelimiter l) = true := by
    intro l hl
    rw [Bool.not_eq_true', Bool.eq_false_iff]
    exact fun hdelimiter => h ⟨first, rest, hcut, l, hl, hdelimiter⟩
  have hdrop : rest.dropWhile (fun l => !isDelimiter l) = [] := by
    rw [← List.append_nil rest, List.dropWhile_append_of_pos hinner, List.dropWhile_nil]
  simp [split, hcut, hfirst, hdrop]

/-- A manifest that can be split is one that has a division and a mapping in it. -/
theorem split_eq_ok {m : Manifest} (h : split parse text = .ok m) :
    ∃ (d : Division text.toList) (fields : List (Yaml.Value × Yaml.Value)),
      parse d.raw = .ok (.map fields) ∧ m = ⟨⟨d.raw, fields⟩, d.body, d.inner.length + 3⟩ := by
  by_cases hopens : Opens text.toList
  · by_cases hcloses : Closes text.toList
    · obtain ⟨d⟩ := exists_division hopens hcloses
      rw [split_eq_read d] at h
      exact ⟨d, Division.read_eq_ok h⟩
    · rw [split_of_not_closes hopens hcloses] at h
      cases h
  · rw [split_of_not_opens hopens] at h
    cases h

/-- A text is refused exactly when one of the two lines is missing, or what is between them is no
    YAML or no mapping. -/
theorem split_isError_iff : (∃ e, split parse text = .error e) ↔
    ¬Opens text.toList ∨ ¬Closes text.toList ∨ ∃ d : Division text.toList,
      (∃ e, parse d.raw = .error e) ∨ ∃ v, parse d.raw = .ok v ∧ ∀ fields, v ≠ .map fields := by
  constructor
  · rintro ⟨e, h⟩
    by_cases hopens : Opens text.toList
    · by_cases hcloses : Closes text.toList
      · obtain ⟨d⟩ := exists_division hopens hcloses
        rw [split_eq_read d] at h
        exact .inr (.inr ⟨d, Division.read_isError_iff.mp ⟨e, h⟩⟩)
      · exact .inr (.inl hcloses)
    · exact .inl hopens
  · rintro (hopens | hcloses | ⟨d, h⟩)
    · exact ⟨_, split_of_not_opens hopens⟩
    · by_cases hopens : Opens text.toList
      · exact ⟨_, split_of_not_closes hopens hcloses⟩
      · exact ⟨_, split_of_not_opens hopens⟩
    · rw [split_eq_read d]
      exact Division.read_isError_iff.mpr h

end SkillAudit.Manifest
