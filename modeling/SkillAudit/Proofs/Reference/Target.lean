import SkillAudit.Proofs.Text.Pieces
import SkillAudit.Reference.Target
/-!
# SkillAudit.Proofs.Reference.Target

Targets and the paths that they name. Cleaning a target never takes its scheme away: no character
of a scheme starts a fragment, a query or an escaped space, and none is the dot of a leading `./`.
-/

namespace SkillAudit.Target

open Text

/-! ## Schemes -/

/-- The characters of schemes. -/
def isSchemeChar (c : Char) : Bool :=
  c.isAlphanum || c == '+' || c == '-' || c == '.'

/-- A text that may stand in front of the colon. -/
structure IsScheme (scheme : List Char) : Prop where
  one_lt_length : 1 < scheme.length
  head_isAlpha : scheme.head?.any Char.isAlpha
  isSchemeChar_of_mem : ∀ c ∈ scheme, isSchemeChar c

theorem IsScheme.colon_not_mem {scheme : List Char} (h : IsScheme scheme) : ':' ∉ scheme :=
  fun hmem => absurd (h.isSchemeChar_of_mem ':' hmem) (by decide)

/-- A target carries a scheme when one stands in front of its first colon. -/
theorem hasScheme_iff {target : List Char} :
    hasScheme target ↔ ∃ scheme rest, target = scheme ++ ':' :: rest ∧ IsScheme scheme := by
  constructor
  · intro h
    unfold hasScheme at h
    split at h
    · cases h
    · next scheme rest hcut =>
      simp only [Bool.and_eq_true, decide_eq_true_eq, List.all_eq_true] at h
      exact ⟨scheme, rest, (cutFirst?_eq_some.mp hcut).1, h.1.1, h.1.2, h.2⟩
  · rintro ⟨scheme, rest, rfl, h⟩
    have hcut : cutFirst? ':' (scheme ++ ':' :: rest) = some (scheme, rest) :=
      cutFirst?_eq_some.mpr ⟨rfl, h.colon_not_mem⟩
    simp only [hasScheme, hcut, Bool.and_eq_true, decide_eq_true_eq, List.all_eq_true]
    exact ⟨⟨h.one_lt_length, h.head_isAlpha⟩, h.isSchemeChar_of_mem⟩

/-! ## Cleaning -/

/-- A scheme is no beginning of `./`. -/
theorem IsScheme.after?_dot {scheme : List Char} (h : IsScheme scheme) (rest : List Char) :
    after? ['.', '/'] (scheme ++ rest) = none := by
  cases scheme with
  | nil => simpa using h.head_isAlpha
  | cons c scheme =>
    have hc : '.' ≠ c := by
      rintro rfl
      exact absurd (show '.'.isAlpha from h.head_isAlpha) (by decide)
    simp [after?, hc]

/-- Cleaning keeps a scheme with its colon. -/
theorem IsScheme.clean_append {scheme : List Char} (h : IsScheme scheme) (rest : List Char) :
    ∃ tail, clean (scheme ++ ':' :: rest) = scheme ++ ':' :: tail := by
  have hmem (c : Char) (hc : c ∈ scheme ++ [':']) : isSchemeChar c ∨ c = ':' := by
    obtain hc | hc := List.mem_append.mp hc
    · exact .inl (h.isSchemeChar_of_mem c hc)
    · exact .inr (List.mem_singleton.mp hc)
  have hcut (c : Char) (hc : c ∈ scheme ++ [':']) : (c != '#' && c != '?') = true := by
    obtain hc | rfl := hmem c hc
    · rw [Bool.and_eq_true, bne_iff_ne, bne_iff_ne]
      constructor <;> rintro rfl <;> exact absurd hc (by decide)
    · rfl
  have hescape (t : List Char) (hne : t ≠ []) (ht : t <:+ scheme ++ [':']) (s : List Char) :
      literal ['%', '2', '0'] [' '] (t ++ s) = none := by
    cases t with
    | nil => exact absurd rfl hne
    | cons c t =>
      refine literal_eq_none ?_
      rintro rfl
      obtain hc | hc := hmem '%' (ht.subset List.mem_cons_self)
      · exact absurd hc (by decide)
      · exact absurd hc (by decide)
  have happend (s : List Char) : scheme ++ ':' :: s = (scheme ++ [':']) ++ s := by simp
  refine ⟨replaceAll (literal ['%', '2', '0'] [' '])
    (rest.takeWhile fun c => c != '#' && c != '?'), ?_⟩
  simp only [clean]
  rw [happend, List.takeWhile_append_of_pos hcut, List.append_assoc, h.after?_dot,
    Option.getD_none, ← List.append_assoc, replaceAll_append fun t hne ht => hescape t hne ht _,
    ← happend]

/-- The path that a target names carries a scheme if the target does. -/
theorem hasScheme_clean {target : List Char} (h : hasScheme target) : hasScheme (clean target) := by
  obtain ⟨scheme, rest, rfl, hscheme⟩ := hasScheme_iff.mp h
  obtain ⟨tail, htail⟩ := hscheme.clean_append rest
  exact hasScheme_iff.mpr ⟨scheme, tail, htail, hscheme⟩

end SkillAudit.Target
