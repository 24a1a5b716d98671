import SkillAudit.Proofs.Reference.Mention
import SkillAudit.Proofs.Text.Char
import SkillAudit.Proofs.Text.Lines
/-!
# SkillAudit.Proofs.Reference.Link

A line that is a link to a path and nothing else. It stands outside fenced code, opens none, and
makes one reference: path characters are neither white space nor anything that ends the target.
-/

namespace SkillAudit

open Text

/-! ## Paths -/

namespace Target

/-- What looks like a path is not empty, carries no scheme, and is made of path characters. -/
theorem of_looksLikePath {t : List Char} (h : looksLikePath t) :
    t ≠ [] ∧ hasScheme t = false ∧ ∀ c ∈ t, isPathChar c := by
  simp only [looksLikePath, Bool.and_eq_true, Bool.not_eq_true', List.all_eq_true,
    List.isEmpty_eq_false_iff] at h
  obtain ⟨⟨⟨⟨⟨⟨hne, -⟩, -⟩, hscheme⟩, hall⟩, -⟩, -⟩ := h
  exact ⟨hne, hscheme, hall⟩

theorem isBlank_eq_false_of_isPathChar {c : Char} (h : isPathChar c) : isBlank c = false := by
  simp only [isPathChar, Bool.or_eq_true, beq_iff_eq] at h
  obtain (((h | rfl) | rfl) | rfl) | rfl := h
  · exact isBlank_eq_false_of_isLetterOrNumber h
  all_goals rfl

/-- A path character is none that is not one. -/
theorem ne_of_isPathChar {c d : Char} (h : isPathChar c) (hd : isPathChar d = false) : c ≠ d := by
  rintro rfl
  rw [hd] at h
  cases h

/-- Path characters do not end the target of a link. -/
theorem isTargetChar_of_isPathChar {c : Char} (h : isPathChar c) : Mention.isTargetChar c := by
  have hparen : c ≠ ')' := ne_of_isPathChar h (by decide)
  have hangle : c ≠ '>' := ne_of_isPathChar h (by decide)
  rw [Mention.isTargetChar, isBlank_eq_false_of_isPathChar h, bne_iff_ne.mpr hparen,
    bne_iff_ne.mpr hangle]
  rfl

end Target

/-! ## Links -/

namespace Mention

/-- The line that is a link to a target. -/
def linkLine (t : List Char) : List Char := ['[', 'x', ']', '('] ++ t ++ [')']

variable {t : List Char}

/-- The target of the link is read up to the closing parenthesis. -/
theorem linkTarget?_append (ht : Target.looksLikePath t) :
    linkTarget? (t ++ [')']) = some (t, []) := by
  obtain ⟨hne, -, hchars⟩ := Target.of_looksLikePath ht
  have htarget : ∀ c ∈ t, isTargetChar c := fun c hc =>
    Target.isTargetChar_of_isPathChar (hchars c hc)
  have htake : (t ++ [')']).takeWhile isTargetChar = t := by
    rw [List.takeWhile_append_of_pos htarget, List.takeWhile_cons_of_neg (by decide),
      List.append_nil]
  have hdrop : (t ++ [')']).dropWhile isTargetChar = [')'] := by
    rw [List.dropWhile_append_of_pos htarget, List.dropWhile_cons_of_neg (by decide)]
  have hstart : bareTarget (trimStart (t ++ [')'])) = t ++ [')'] := by
    cases t with
    | nil => exact absurd rfl hne
    | cons c t =>
      have hc : Target.isPathChar c := hchars c List.mem_cons_self
      have hblank : isBlank c = false := Target.isBlank_eq_false_of_isPathChar hc
      have hangle : c ≠ '<' := Target.ne_of_isPathChar hc (by decide)
      rw [List.cons_append, trimStart, List.dropWhile_cons_of_neg (by simp [hblank])]
      simp [bareTarget, hangle]
  have hend : afterLinkEnd? (afterAngle [')']) = some [] := by decide
  simp only [linkTarget?, hstart, htake, hdrop, hend, List.isEmpty_iff, hne, if_false,
    Option.map_some]

theorem linkAt?_linkLine (ht : Target.looksLikePath t) :
    linkAt? (linkLine t) = some (t, (linkLine t).length) := by
  have hline : linkLine t = '[' :: 'x' :: ']' :: '(' :: (t ++ [')']) := rfl
  have hbracket : afterBracket? (('x' :: ']' :: '(' :: (t ++ [')'])).dropWhile (· != ']')) =
      some (t ++ [')']) := rfl
  rw [hline, linkAt?]
  simp only [hbracket, Option.bind_some, linkTarget?_append ht, Option.map_some, List.length_nil,
    Nat.sub_zero]

/-- No character of the line is one that has a meaning in fences, code spans or line ends. -/
theorem ne_of_mem_linkLine (ht : Target.looksLikePath t) {c d : Char} (hc : c ∈ linkLine t)
    (hpath : Target.isPathChar d = false) (hmarks : d ∉ ['[', 'x', ']', '(', ')']) : c ≠ d := by
  rintro rfl
  obtain ⟨-, -, hchars⟩ := Target.of_looksLikePath ht
  simp only [linkLine, List.mem_append] at hc
  obtain (hc | hc) | hc := hc
  · exact hmarks (List.mem_append_left [')'] hc)
  · exact Target.ne_of_isPathChar (hchars c hc) hpath rfl
  · exact hmarks (List.mem_append_right ['[', 'x', ']', '('] hc)

/-- The line makes one reference. -/
theorem ofProse_linkLine (ht : Target.looksLikePath t) (n : Nat) :
    ofProse n (linkLine t) = [⟨n, String.ofList t, .markdownLink⟩] := by
  obtain ⟨hne, hscheme, hchars⟩ := Target.of_looksLikePath ht
  have hlinks : linkTargets (linkLine t) = [t] := findAll_eq_singleton (linkAt?_linkLine ht)
  have hspans : codeSpans (linkLine t) = [] := codeSpans_of_not_mem fun h =>
    ne_of_mem_linkLine ht h (by decide) (by decide) rfl
  have hhead : t.head? ≠ some '#' := fun hhead =>
    Target.ne_of_isPathChar (hchars '#' (List.mem_of_head? hhead)) (by decide) rfl
  rw [ofProse, hlinks, hspans, List.filterMap_cons_some (b := ⟨n, String.ofList t, .markdownLink⟩)]
  · rfl
  · simp [ofLink?, hhead, hscheme]

/-- The line opens no fence. -/
theorem step_linkLine (t : List Char) : Fence.step none (linkLine t) = none := rfl

theorem newline_not_mem_linkLine (ht : Target.looksLikePath t) : '\n' ∉ linkLine t := fun h =>
  ne_of_mem_linkLine ht h (by decide) (by decide) rfl

theorem dropReturn_linkLine (t : List Char) : dropReturn (linkLine t) = linkLine t := by
  refine dropReturn_of_getLast? ?_
  rw [linkLine, List.getLast?_concat]
  decide

/-- In front of other lines, outside any fence, the line adds its reference to theirs. -/
theorem ofLines_linkLine (ht : Target.looksLikePath t) (n : Nat) (rest : List (List Char)) :
    ofLines none n (linkLine t :: rest) =
      ⟨n, String.ofList t, .markdownLink⟩ :: ofLines none (n + 1) rest := by
  have hplace : Fence.place none (linkLine t) = .outside := rfl
  rw [ofLines, hplace, step_linkLine, ofLine, ofProse_linkLine ht, List.singleton_append]

end Mention

end SkillAudit
