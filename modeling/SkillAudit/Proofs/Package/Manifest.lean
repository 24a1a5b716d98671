import SkillAudit.Proofs.Package.Division
/-!
# SkillAudit.Proofs.Package.Manifest

Splitting a manifest loses no line: the lines of the front matter and of the body are lines of the
whole text, and the numbers that the two parts start with are their numbers there.
-/

namespace SkillAudit

open Text

namespace Manifest

variable {parse : String → Except Yaml.Error Yaml.Value} {text : String} {m : Manifest}

/-- A manifest that can be split is an opening line, the lines of the front matter, a closing line,
    and the lines of the body. -/
theorem cutLines_of_split (h : split parse text = .ok m) :
    ∃ opening inner closing behind,
      cutLines text.toList = ([opening] ++ inner) ++ ([closing] ++ behind) ∧
        m.frontMatter.raw = String.ofList inner.flatten ∧ m.body = String.ofList behind.flatten ∧
        m.bodyStartLine = inner.length + 3 := by
  obtain ⟨d, fields, -, rfl⟩ := split_eq_ok h
  exact ⟨d.opening, d.inner, d.closing, d.behind, d.cutLines_eq, rfl, rfl, rfl⟩

/-- The lines of a manifest, part by part. -/
theorem lines_of_split (h : split parse text = .ok m) :
    ∃ opening closing,
      lines text.toList =
        (opening :: lines m.frontMatter.raw.toList) ++ closing :: lines m.body.toList ∧
        m.bodyStartLine = (lines m.frontMatter.raw.toList).length + 3 := by
  obtain ⟨opening, inner, closing, behind, hcut, hraw, hbody, hstart⟩ := cutLines_of_split h
  have hinner : cutLines inner.flatten = inner :=
    (cutLines_of_append (cutLines_of_append hcut).1).2
  have hbehind : cutLines behind.flatten = behind :=
    (cutLines_of_append (cutLines_of_append hcut).2).2
  refine ⟨dropLineEnd opening, dropLineEnd closing, ?_, ?_⟩
  · rw [hraw, hbody, String.toList_ofList, String.toList_ofList, lines, lines, lines, hinner,
      hbehind, hcut, List.map_append, List.singleton_append, List.singleton_append,
      List.map_cons, List.map_cons]
  · rw [hstart, hraw, String.toList_ofList, length_lines, hinner]

/-! ## Numbers of lines -/

/-- The lines of the front matter have their numbers in the manifest. -/
theorem lineAt_raw (h : split parse text = .ok m) {i : Nat} {l : List Char}
    (hl : (lines m.frontMatter.raw.toList)[i]? = some l) :
    LineAt text.toList (FrontMatter.startLine + i) l := by
  obtain ⟨opening, closing, htext, -⟩ := lines_of_split h
  have hlt := (List.getElem?_eq_some_iff.mp hl).1
  have hstart : FrontMatter.startLine + i = 1 + (i + 1) := by
    rw [FrontMatter.startLine]
    omega
  rw [hstart, lineAt_add, htext, List.getElem?_append_left (by simpa using hlt),
    List.getElem?_cons_succ, hl]

/-- The lines of the body have their numbers in the manifest. -/
theorem lineAt_body (h : split parse text = .ok m) {i : Nat} {l : List Char}
    (hl : (lines m.body.toList)[i]? = some l) : LineAt text.toList (m.bodyStartLine + i) l := by
  obtain ⟨opening, closing, htext, hstart⟩ := lines_of_split h
  have hnumber : m.bodyStartLine + i =
      1 + ((opening :: lines m.frontMatter.raw.toList).length + (i + 1)) := by
    rw [hstart, List.length_cons]
    omega
  rw [hnumber, lineAt_add, htext, List.getElem?_append_right (Nat.le_add_right _ _),
    Nat.add_sub_cancel_left, List.getElem?_cons_succ, hl]

/-- The front matter starts on a line of the manifest: a closing line is there if nothing else
    is. -/
theorem exists_lineAt_startLine (h : split parse text = .ok m) :
    ∃ l, LineAt text.toList FrontMatter.startLine l := by
  obtain ⟨opening, closing, htext, -⟩ := lines_of_split h
  have hlt : 1 < (lines text.toList).length := by
    rw [htext, List.length_append, List.length_cons, List.length_cons]
    omega
  exact ⟨_, by decide, List.getElem?_eq_getElem hlt⟩

end Manifest

namespace FrontMatter

/-- The line of a key is a line of the front matter. -/
theorem lineOf?_eq_some {fm : FrontMatter} {key : String} {n : Nat} (h : fm.lineOf? key = some n) :
    ∃ i l, (lines fm.raw.toList)[i]? = some l ∧ n = startLine + i := by
  obtain ⟨⟨k, l⟩, hmem, hkey⟩ := List.exists_of_findSome?_eq_some h
  obtain ⟨i, hi, rfl⟩ := mem_numberedLines.mp hmem
  refine ⟨i, l, hi, ?_⟩
  simp only at hkey
  split at hkey
  · split at hkey
    · exact (Option.some.inj hkey).symm
    · cases hkey
  · cases hkey

end FrontMatter

end SkillAudit
