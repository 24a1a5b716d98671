import SkillAudit.Proofs.Package.Manifest
import SkillAudit.Proofs.Text.Pieces
/-!
# SkillAudit.Proofs.Package.Lossless

Splitting a manifest loses nothing: its text is the opening line, the front matter, the closing line
and the body, and the numbers of lines are those of the whole text, with any line endings and with
or without a last one.
-/

namespace SkillAudit.Manifest

open Text

/-! ## Lines of hyphens -/

/-- Three hyphens with byte order marks in front of them and carriage returns behind. -/
def hyphens (marks returns : Nat) : List Char :=
  List.replicate marks '\uFEFF' ++ ['-', '-', '-'] ++ List.replicate returns '\r'

/-- The ending of a line makes no difference. -/
theorem isDelimiter_concat {c : Char} (hc : (c == '\n' || c == '\r') = true) (l : List Char) :
    isDelimiter (l ++ [c]) = isDelimiter l := by
  rw [isDelimiter, dropEndWhile_concat hc, isDelimiter]

theorem isDelimiter_dropReturn (l : List Char) : isDelimiter (dropReturn l) = isDelimiter l := by
  obtain h | h := dropReturn_cases l
  · rw [h]
  · rw [h, isDelimiter_concat (by decide), ← h]

theorem isDelimiter_dropLineEnd {s l : List Char} (hl : l ∈ cutLines s) :
    isDelimiter (dropLineEnd l) = isDelimiter l := by
  obtain ⟨w, hw, rfl | rfl⟩ := eq_of_mem_cutLines hl
  · rw [dropLineEnd_of_not_mem hw]
  · rw [dropLineEnd_newline, isDelimiter_dropReturn, isDelimiter_concat (by decide)]

/-- Without a line feed nothing but carriage returns can follow the hyphens. -/
theorem exists_eq_hyphens {w : List Char} (hw : '\n' ∉ w) (h : isDelimiter w) :
    ∃ returns, w = hyphens 0 returns := by
  obtain ⟨tail, htail, hreturns⟩ :=
    exists_dropEndWhile_append (fun c => c == '\n' || c == '\r') w
  rw [beq_iff_eq.mp h] at htail
  have hall : ∀ c ∈ tail, c = '\r' := by
    intro c hc
    have hne : c ≠ '\n' := by
      rintro rfl
      exact hw (htail ▸ List.mem_append_right _ hc)
    simpa [hne] using hreturns c hc
  refine ⟨tail.length, ?_⟩
  rw [hyphens, ← List.eq_replicate_iff.mpr ⟨rfl, hall⟩]
  exact htail

theorem exists_eq_hyphens_of_isOpening {w : List Char} (hw : '\n' ∉ w)
    (h : isOpening (w ++ ['\n'])) : ∃ marks returns, w = hyphens marks returns := by
  have hrest : isDelimiter (w.dropWhile (· == '\uFEFF')) := by
    rwa [isOpening, dropWhile_concat (by decide), isDelimiter_concat (by decide)] at h
  have hmem : '\n' ∉ w.dropWhile (· == '\uFEFF') :=
    fun hmem => hw ((List.dropWhile_suffix _).subset hmem)
  obtain ⟨returns, hreturns⟩ := exists_eq_hyphens hmem hrest
  have hmarks : ∀ c ∈ w.takeWhile (· == '\uFEFF'), c = '\uFEFF' :=
    fun c hc => beq_iff_eq.mp (List.all_eq_true.mp List.all_takeWhile c hc)
  refine ⟨(w.takeWhile (· == '\uFEFF')).length, returns, ?_⟩
  calc w = w.takeWhile (· == '\uFEFF') ++ w.dropWhile (· == '\uFEFF') :=
        List.takeWhile_append_dropWhile.symm
    _ = hyphens _ returns := by
        rw [hreturns, hyphens, hyphens, List.append_assoc,
          ← List.eq_replicate_iff.mpr ⟨rfl, hmarks⟩]
        simp

namespace Division

variable {s : List Char}

/-- The opening line has an ending, for the closing line comes behind it. -/
theorem exists_opening (d : Division s) :
    ∃ marks returns, d.opening = hyphens marks returns ++ ['\n'] := by
  obtain ⟨k, ks, hnext⟩ : ∃ k ks, d.inner ++ d.closing :: d.behind = k :: ks :=
    List.exists_cons_of_ne_nil (by simp)
  have hcut : cutLines s = d.opening :: k :: ks := by rw [d.cutLines_eq, hnext]
  obtain ⟨w, hw, hopening⟩ := exists_newline_of_cutLines [] hcut
  obtain ⟨marks, returns, rfl⟩ :=
    exists_eq_hyphens_of_isOpening hw (hopening ▸ d.isOpening_opening)
  exact ⟨marks, returns, hopening⟩

/-- The closing line may be the last one, and end without a line feed. -/
theorem exists_closing (d : Division s) : ∃ returns ending,
    d.closing = hyphens 0 returns ++ ending ∧ (ending = ['\n'] ∨ ending = [] ∧ d.body = "") := by
  have hmem : d.closing ∈ cutLines s := by simp [d.cutLines_eq]
  have hdelimiter := d.isDelimiter_closing
  obtain ⟨w, hw, hclosing | hclosing⟩ := eq_of_mem_cutLines hmem
  · rw [hclosing] at hdelimiter
    obtain ⟨returns, rfl⟩ := exists_eq_hyphens hw hdelimiter
    have hlast : d.behind = [] := by
      cases hbehind : d.behind with
      | nil => rfl
      | cons k ks =>
        have hcut : cutLines s = (d.opening :: d.inner) ++ d.closing :: k :: ks := by
          rw [d.cutLines_eq, hbehind, List.cons_append]
        obtain ⟨v, -, hv⟩ := exists_newline_of_cutLines _ hcut
        exact absurd (by simp [← hclosing, hv]) hw
    exact ⟨returns, [], by rw [hclosing, List.append_nil], .inr ⟨rfl, by rw [body, hlast]; rfl⟩⟩
  · rw [hclosing, isDelimiter_concat (by decide)] at hdelimiter
    obtain ⟨returns, rfl⟩ := exists_eq_hyphens hw hdelimiter
    exact ⟨returns, ['\n'], hclosing, .inl rfl⟩

/-- The parts of a text make it up. -/
theorem eq_append (d : Division s) :
    s = d.opening ++ d.raw.toList ++ d.closing ++ d.body.toList := by
  calc s = (cutLines s).flatten := (flatten_cutLines s).symm
    _ = d.opening ++ d.raw.toList ++ d.closing ++ d.body.toList := by
      rw [d.cutLines_eq, raw, body, String.toList_ofList, String.toList_ofList]
      simp

/-- No line of the front matter is three hyphens. -/
theorem not_isDelimiter_of_mem_lines (d : Division s) {l : List Char}
    (hl : l ∈ lines d.raw.toList) : ¬isDelimiter l := by
  have hcut : cutLines s = ([d.opening] ++ d.inner) ++ d.closing :: d.behind := d.cutLines_eq
  have hinner : cutLines d.inner.flatten = d.inner :=
    (cutLines_of_append (cutLines_of_append hcut).1).2
  rw [raw, String.toList_ofList, lines] at hl
  obtain ⟨k, hk, rfl⟩ := List.mem_map.mp hl
  rw [isDelimiter_dropLineEnd hk]
  exact d.not_isDelimiter k (hinner ▸ hk)

end Division

/-! ## Splitting -/

variable {text : String}

/-- What it means for a manifest to keep all of a text, and the numbers of its lines. -/
structure IsLossless (m : Manifest) (text : String) : Prop where
  /-- The text is the opening line, the front matter, the closing line and the body. -/
  text_eq : ∃ marks returns returns' ending,
    text.toList = (hyphens marks returns ++ ['\n']) ++ m.frontMatter.raw.toList ++
      (hyphens 0 returns' ++ ending) ++ m.body.toList ∧
    (ending = ['\n'] ∨ ending = [] ∧ m.body = "")
  /-- The closing line is the first one of its kind. -/
  not_isDelimiter : ∀ l ∈ lines m.frontMatter.raw.toList, ¬isDelimiter l
  /-- The lines of the front matter are counted from its first line on, -/
  lineAt_raw : ∀ i l, (lines m.frontMatter.raw.toList)[i]? = some l →
    LineAt text.toList (FrontMatter.startLine + i) l
  /-- those of the body from the first line of the body, -/
  lineAt_body : ∀ i l, (lines m.body.toList)[i]? = some l →
    LineAt text.toList (m.bodyStartLine + i) l
  /-- and these are the last lines of the text. -/
  length_lines : (lines text.toList).length = m.bodyStartLine - 1 + (lines m.body.toList).length

/-- What it means for a text to be split faithfully, whatever reads the YAML. -/
structure SplitsFaithfully (parse : String → Except Yaml.Error Yaml.Value) (text : String) :
    Prop where
  /-- A manifest keeps all of the text, and its fields are those of the YAML. -/
  ofOk : ∀ m, split parse text = .ok m →
    m.IsLossless text ∧ parse m.frontMatter.raw = .ok (.map m.frontMatter.fields)
  /-- There is none exactly when the text does not open with three hyphens, or has no other such
      line, or what is between them is no YAML or no mapping. -/
  isError_iff : (∃ e, split parse text = .error e) ↔
    ¬Opens text.toList ∨ ¬Closes text.toList ∨ ∃ d : Division text.toList,
      (∃ e, parse d.raw = .error e) ∨ ∃ v, parse d.raw = .ok v ∧ ∀ fields, v ≠ .map fields

theorem length_lines_of_split {parse : String → Except Yaml.Error Yaml.Value} {m : Manifest}
    (h : split parse text = .ok m) :
    (lines text.toList).length = m.bodyStartLine - 1 + (lines m.body.toList).length := by
  obtain ⟨opening, closing, htext, hstart⟩ := lines_of_split h
  rw [htext, hstart, List.length_append, List.length_cons, List.length_cons]
  omega

/-- Every text is split faithfully. -/
theorem splitsFaithfully (parse : String → Except Yaml.Error Yaml.Value) (text : String) :
    SplitsFaithfully parse text where
  isError_iff := split_isError_iff
  ofOk m h := by
    obtain ⟨d, fields, hparse, rfl⟩ := split_eq_ok h
    refine ⟨?_, hparse⟩
    exact {
      text_eq := by
        obtain ⟨marks, returns, hopening⟩ := d.exists_opening
        obtain ⟨returns', ending, hclosing, hending⟩ := d.exists_closing
        exact ⟨marks, returns, returns', ending, hopening ▸ hclosing ▸ d.eq_append, hending⟩
      not_isDelimiter := fun l hl => d.not_isDelimiter_of_mem_lines hl
      lineAt_raw := fun i l hl => lineAt_raw h hl
      lineAt_body := fun i l hl => lineAt_body h hl
      length_lines := length_lines_of_split h }

end SkillAudit.Manifest
