import Mathlib.Logic.ExistsUnique
import SkillAudit.Proofs.Markdown.Sentence
import SkillAudit.Proofs.Text.Char
import SkillAudit.Proofs.Text.Words
/-!
# SkillAudit.Proofs.Markdown.Piece

The pieces of a paragraph. Its text is cut behind every place where a sentence ends and nowhere
else, and there is one way to do that. The sentences are the pieces that hold a letter; only the
white space around them is dropped.

* `isCut_cons` — the first piece of a cut, and the cut of what stands behind it;
* `IsCut.unique` — two cuts of a text are the same;
* `isCutInto_ofParagraph` — the sentences of a paragraph by the pieces of its text.
-/

namespace SkillAudit.Sentence

open Text

variable {text rest p q : List Char} {pieces ps qs : List (List Char)}

/-! ## Places where sentences end -/

/-- Whether a sentence ends at a place of a text: a terminator stands there, and white space behind
    it or nothing. -/
def EndsAt (text : List Char) (i : Nat) : Prop :=
  ∃ c, text[i]? = some c ∧ isTerminator c ∧ ∀ d, text[i + 1]? = some d → isBlank d

theorem endsAt_cons_zero {c : Char} :
    EndsAt (c :: rest) 0 ↔ (isTerminator c && rest.head?.all isBlank) = true := by
  cases rest <;> simp [EndsAt]

theorem endsAt_append_length_add (a b : List Char) (i : Nat) :
    EndsAt (a ++ b) (a.length + i) ↔ EndsAt b i := by
  have hat (j : Nat) : (a ++ b)[a.length + j]? = b[j]? := by
    rw [List.getElem?_append_right (Nat.le_add_right _ _), Nat.add_sub_cancel_left]
  simp only [EndsAt, Nat.add_assoc, hat]

theorem endsAt_cons_succ {c : Char} {i : Nat} : EndsAt (c :: rest) (i + 1) ↔ EndsAt rest i := by
  have h := endsAt_append_length_add [c] rest i
  rwa [List.length_singleton, Nat.add_comm, List.singleton_append] at h

/-! ## Cuts -/

/-- What it means for pieces to be those of a text that is cut where sentences end. The places of a
    piece are counted from the length of the pieces in front of it. -/
structure IsCut (text : List Char) (pieces : List (List Char)) : Prop where
  flatten_eq : pieces.flatten = text
  ne_nil : ∀ p ∈ pieces, p ≠ []
  /-- A sentence ends at the last character of every piece but the last one, -/
  endsAt : ∀ front p back, pieces = front ++ p :: back → back ≠ [] →
    EndsAt text (front.flatten.length + (p.length - 1))
  /-- and at no character of a piece in front of its last. -/
  not_endsAt : ∀ front p back, pieces = front ++ p :: back → ∀ i, i + 1 < p.length →
    ¬EndsAt text (front.flatten.length + i)

theorem isCut_nil : IsCut [] [] where
  flatten_eq := rfl
  ne_nil := nofun
  endsAt := by
    intro front p back h
    simp at h
  not_endsAt := by
    intro front p back h
    simp at h

/-- The first piece reaches to the first place where a sentence ends, and the others cut the text
    behind it. -/
theorem isCut_cons :
    IsCut (p ++ rest) (p :: ps) ↔
      p ≠ [] ∧ (ps ≠ [] → EndsAt (p ++ rest) (p.length - 1)) ∧
        (∀ i, i + 1 < p.length → ¬EndsAt (p ++ rest) i) ∧ IsCut rest ps := by
  have hplace (front : List (List Char)) (i : Nat) :
      EndsAt (p ++ rest) ((p :: front).flatten.length + i) ↔
        EndsAt rest (front.flatten.length + i) := by
    rw [List.flatten_cons, List.length_append, Nat.add_assoc, endsAt_append_length_add]
  constructor
  · intro h
    have hflatten : ps.flatten = rest := List.append_cancel_left h.flatten_eq
    refine ⟨h.ne_nil p List.mem_cons_self, ?_, ?_, hflatten, ?_, ?_, ?_⟩
    · intro hps
      simpa using h.endsAt [] p ps rfl hps
    · intro i hi
      simpa using h.not_endsAt [] p ps rfl i hi
    · exact fun q hq => h.ne_nil q (List.mem_cons_of_mem p hq)
    · rintro front q back rfl hback
      exact (hplace front _).mp (h.endsAt (p :: front) q back rfl hback)
    · rintro front q back rfl i hi
      exact mt (hplace front i).mpr (h.not_endsAt (p :: front) q back rfl i hi)
  · rintro ⟨hne, hend, hinside, h⟩
    constructor
    case flatten_eq => rw [List.flatten_cons, h.flatten_eq]
    case ne_nil => exact List.forall_mem_cons.mpr ⟨hne, h.ne_nil⟩
    case endsAt =>
      intro front q back heq hback
      cases front with
      | nil =>
        obtain ⟨rfl, rfl⟩ := List.cons.inj heq
        simpa using hend hback
      | cons first front =>
        obtain ⟨rfl, hrest⟩ := List.cons.inj heq
        exact (hplace front _).mpr (h.endsAt front q back hrest hback)
    case not_endsAt =>
      intro front q back heq i hi
      cases front with
      | nil =>
        obtain ⟨rfl, rfl⟩ := List.cons.inj heq
        simpa using hinside i hi
      | cons first front =>
        obtain ⟨rfl, hrest⟩ := List.cons.inj heq
        exact mt (hplace front i).mp (h.not_endsAt front q back hrest i hi)

/-- A text starts with the first piece of its cut. -/
theorem IsCut.exists_append (h : IsCut text (p :: ps)) : ∃ rest, text = p ++ rest :=
  ⟨ps.flatten, h.flatten_eq.symm⟩

/-! ## There is one cut -/

/-- The cut is one that ends its pieces where sentences end. -/
theorem isCut_cut (text : List Char) : IsCut text (cut text) := by
  induction text with
  | nil => exact isCut_nil
  | cons c rest ih =>
    rw [cut]
    split
    · next hend =>
      -- the character is a piece of its own
      refine isCut_cons.mpr ⟨List.cons_ne_nil c [], fun _ => ?_, fun i hi => ?_, ih⟩
      · exact endsAt_cons_zero.mpr hend
      · simp at hi
    · next hgoes =>
      have hzero : ¬EndsAt (c :: rest) 0 := mt endsAt_cons_zero.mp hgoes
      cases hcut : cut rest with
      | nil =>
        have hrest : rest = [] := by rw [← flatten_cut rest, hcut]; rfl
        subst hrest
        exact isCut_cons.mpr ⟨List.cons_ne_nil c [], fun h => absurd rfl h, by simp, isCut_nil⟩
      | cons p ps =>
        -- the character joins the first piece of what stands behind it
        rw [hcut] at ih
        obtain ⟨behind, rfl⟩ := ih.exists_append
        obtain ⟨hne, hend, hinside, hcuts⟩ := isCut_cons.mp ih
        have hlength : p.length - 1 + 1 = p.length :=
          Nat.succ_pred_eq_of_pos (List.length_pos_iff.mpr hne)
        rw [← List.cons_append]
        refine isCut_cons.mpr ⟨List.cons_ne_nil c p, fun hps => ?_, fun i hi => ?_, hcuts⟩
        · have hlast : (c :: p).length - 1 = p.length - 1 + 1 := by simp [hlength]
          rw [hlast]
          exact endsAt_cons_succ.mpr (hend hps)
        · cases i with
          | zero => exact hzero
          | succ i => exact mt endsAt_cons_succ.mp (hinside i (by simpa using hi))

/-- In two cuts the first piece of one is no longer than that of the other: a sentence ends at the
    last character of the shorter one. -/
theorem IsCut.length_le (h : IsCut text (p :: ps)) (h' : IsCut text (q :: qs)) :
    p.length ≤ q.length := by
  refine Nat.not_lt.mp fun hlt => ?_
  have hqs : qs ≠ [] := by
    rintro rfl
    have hp := congrArg List.length h.flatten_eq
    have hq := congrArg List.length h'.flatten_eq
    simp only [List.flatten_cons, List.length_append, List.flatten_nil, List.length_nil] at hp hq
    omega
  have hpos := List.length_pos_iff.mpr (h'.ne_nil q List.mem_cons_self)
  exact h.not_endsAt [] p ps rfl (q.length - 1) (by omega) (h'.endsAt [] q qs rfl hqs)

/-- There is one cut only. -/
theorem IsCut.unique (h : IsCut text ps) (h' : IsCut text qs) : ps = qs := by
  induction ps generalizing text qs with
  | nil =>
    obtain rfl : [] = text := h.flatten_eq
    cases qs with
    | nil => rfl
    | cons q qs =>
      have hq := (List.append_eq_nil_iff.mp h'.flatten_eq).1
      exact absurd hq (h'.ne_nil q List.mem_cons_self)
  | cons p ps ih =>
    cases qs with
    | nil =>
      have hp := (List.append_eq_nil_iff.mp (h.flatten_eq.trans h'.flatten_eq.symm)).1
      exact absurd hp (h.ne_nil p List.mem_cons_self)
    | cons q qs =>
      have hlength : p.length = q.length := Nat.le_antisymm (h.length_le h') (h'.length_le h)
      obtain ⟨rest, rfl⟩ := h.exists_append
      obtain ⟨rest', heq⟩ := h'.exists_append
      obtain ⟨rfl, rfl⟩ := List.append_inj heq hlength
      rw [ih (isCut_cons.mp h).2.2.2 (isCut_cons.mp h').2.2.2]

/-! ## Sentences -/

theorem isBlank_eq_false_of_isLetter {c : Char} (h : isLetter c) : isBlank c = false := by
  refine isBlank_eq_false_of_isLetterOrNumber ?_
  unfold isLetter at h
  unfold isLetterOrNumber
  split at h
  · next hascii => rw [if_pos hascii, Char.isAlphanum, h, Bool.true_or]
  · next hascii => rw [if_neg hascii, h, Bool.true_or]

/-- Trimming takes no letter away. -/
theorem any_isLetter_trim (s : List Char) : (trim s).any isLetter = s.any isLetter := by
  rw [Bool.eq_iff_iff, List.any_eq_true, List.any_eq_true]
  refine exists_congr fun c => and_congr_left fun hc => ?_
  exact mem_trim_iff (isBlank_eq_false_of_isLetter hc)

/-- Trimming takes nothing but white space away. -/
theorem filter_isBlank_trim (s : List Char) :
    (trim s).filter (fun c => !isBlank c) = s.filter fun c => !isBlank c := by
  obtain ⟨a, b, hs, ha, hb⟩ := exists_trim s
  have hnone {w : List Char} (hw : ∀ c ∈ w, isBlank c) : w.filter (fun c => !isBlank c) = [] :=
    List.filter_eq_nil_iff.mpr fun c hc => by simp [hw c hc]
  calc
    (trim s).filter (fun c => !isBlank c)
        = (a ++ (trim s ++ b)).filter fun c => !isBlank c := by
          rw [List.filter_append, List.filter_append, hnone ha, hnone hb, List.nil_append,
            List.append_nil]
    _ = s.filter fun c => !isBlank c := by rw [← hs]

theorem ofParagraph_eq (paragraph : List Char) :
    ofParagraph paragraph = ((cut (stripInline paragraph)).filter (·.any isLetter)).map trim := by
  rw [ofParagraph, List.filter_map]
  congr 1
  exact List.filter_congr fun s _ => any_isLetter_trim s

/-- What it means for sentences to be those of a text. -/
structure IsCutInto (text : List Char) (sentences : List (List Char)) : Prop where
  /-- There is one way to cut the text where sentences end. -/
  existsUnique : ∃! pieces, IsCut text pieces
  /-- The sentences are the pieces with a letter, in order and without what is trimmed from them. -/
  eq_map : ∀ pieces, IsCut text pieces →
    sentences = (pieces.filter (·.any isLetter)).map trim
  /-- What is trimmed from a piece is white space in front of the rest and behind it, -/
  trimmed : ∀ pieces, IsCut text pieces → ∀ p ∈ pieces,
    ∃ a b, p = a ++ (trim p ++ b) ∧ (∀ c ∈ a, isBlank c) ∧ ∀ c ∈ b, isBlank c
  /-- so that all other characters of these pieces are those of the sentences, in order. -/
  filter_eq : ∀ pieces, IsCut text pieces →
    sentences.flatten.filter (fun c => !isBlank c) =
      (pieces.filter (·.any isLetter)).flatten.filter fun c => !isBlank c

/-- A paragraph is cut into its sentences exactly where these end. -/
theorem isCutInto_ofParagraph (paragraph : List Char) :
    IsCutInto (stripInline paragraph) (ofParagraph paragraph) where
  existsUnique := ⟨cut (stripInline paragraph), isCut_cut _, fun _ h => h.unique (isCut_cut _)⟩
  eq_map := by
    intro pieces h
    rw [h.unique (isCut_cut _), ofParagraph_eq]
  trimmed := fun _ _ p _ => exists_trim p
  filter_eq := by
    intro pieces h
    have hcut : pieces = cut (stripInline paragraph) := h.unique (isCut_cut _)
    rw [ofParagraph_eq, ← hcut, List.filter_flatten, List.filter_flatten, List.map_map]
    exact congrArg List.flatten (List.map_congr_left fun s _ => filter_isBlank_trim s)

/-- Terminators in a row end one sentence, and a number that stands alone is none. -/
example :
    ofParagraph " 1. **Wait**... for v1.2!? Then\tgo".toList =
      ["Wait...".toList, "for v1.2!?".toList, "Then\tgo".toList] := by
  decide +kernel

end SkillAudit.Sentence
