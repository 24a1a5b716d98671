import SkillAudit.Proofs.Text.Pieces
/-!
# SkillAudit.Proofs.Text.Words

White space and words. White space at the ends of a text is trimmed and adds no word; white space
behind a word ends it.
-/

namespace SkillAudit.Text

variable {a b s w : List Char}

/-! ## Trimming -/

/-- White space at the end is trimmed, even if nothing else is there. -/
theorem trim_concat {c : Char} (hc : isBlank c) (s : List Char) : trim (s ++ [c]) = trim s := by
  rw [trim, trim, stripWhile, stripWhile, dropWhile_concat_of_pos hc]
  split
  · next hnil => rw [hnil]
  · exact dropEndWhile_concat hc _

theorem trim_append_blanks (hb : ∀ c ∈ b, isBlank c) (s : List Char) : trim (s ++ b) = trim s := by
  induction b generalizing s with
  | nil => rw [List.append_nil]
  | cons c b ih =>
    obtain ⟨hc, hrest⟩ := List.forall_mem_cons.mp hb
    rw [List.append_cons, ih hrest, trim_concat hc]

theorem trim_blanks_append (ha : ∀ c ∈ a, isBlank c) (s : List Char) : trim (a ++ s) = trim s := by
  rw [trim, trim, stripWhile, stripWhile, List.dropWhile_append_of_pos ha]

/-- Nothing is trimmed from a text with no white space at its ends. -/
theorem trim_eq_self (hhead : ∀ c, s.head? = some c → isBlank c = false)
    (hlast : ∀ c, s.getLast? = some c → isBlank c = false) : trim s = s := by
  have hstart {t : List Char} (h : ∀ c, t.head? = some c → isBlank c = false) :
      t.dropWhile isBlank = t := by
    cases t with
    | nil => rfl
    | cons c t => exact List.dropWhile_cons_of_neg (by simp [h c rfl])
  rw [trim, stripWhile, hstart hhead, dropEndWhile, hstart, List.reverse_reverse]
  rwa [List.head?_reverse]

/-- A text is what is left of it when it is trimmed, between white space. -/
theorem exists_trim (s : List Char) :
    ∃ a b, s = a ++ (trim s ++ b) ∧ (∀ c ∈ a, isBlank c) ∧ ∀ c ∈ b, isBlank c := by
  obtain ⟨b, hb, hblank⟩ := exists_dropEndWhile_append isBlank (s.dropWhile isBlank)
  refine ⟨s.takeWhile isBlank, b, ?_, fun c hc => ?_, hblank⟩
  · rw [trim, stripWhile, ← hb, List.takeWhile_append_dropWhile]
  · exact List.all_eq_true.mp List.all_takeWhile c hc

/-- Only white space is trimmed. -/
theorem mem_trim_iff {c : Char} (hc : isBlank c = false) : c ∈ trim s ↔ c ∈ s := by
  constructor
  · exact fun h => (infix_stripWhile isBlank s).subset h
  · intro h
    refine (mem_stripWhile_or h).resolve_right ?_
    rw [hc]
    exact Bool.false_ne_true

/-! ## Words -/

theorem words_append_blanks (hb : ∀ c ∈ b, isBlank c) (s : List Char) :
    words (s ++ b) = words s := by
  induction b generalizing s with
  | nil => rw [List.append_nil]
  | cons c b ih =>
    obtain ⟨hc, hrest⟩ := List.forall_mem_cons.mp hb
    rw [List.append_cons, ih hrest, words_concat hc]

theorem words_blanks_append (ha : ∀ c ∈ a, isBlank c) (s : List Char) :
    words (a ++ s) = words s := by
  induction a with
  | nil => rfl
  | cons c a ih =>
    obtain ⟨hc, hrest⟩ := List.forall_mem_cons.mp ha
    rw [← ih hrest, List.cons_append, words, words.go, if_pos hc, if_pos List.isEmpty_nil, ← words]

/-- The words of a text are those that are left when it is trimmed. -/
theorem words_trim (s : List Char) : words (trim s) = words s := by
  obtain ⟨a, b, hs, ha, hb⟩ := exists_trim s
  calc
    words (trim s) = words (a ++ (trim s ++ b)) := by
      rw [words_blanks_append ha, words_append_blanks hb]
    _ = words s := by rw [← hs]

/-- Characters that are not white space are read on to the word. -/
theorem words_go_append (hw : ∀ c ∈ w, isBlank c = false) (s current : List Char) :
    words.go (w ++ s) current = words.go s (w.reverse ++ current) := by
  induction w generalizing current with
  | nil => rfl
  | cons c w ih =>
    obtain ⟨hc, hrest⟩ := List.forall_mem_cons.mp hw
    rw [List.cons_append, words.go, if_neg (by simp [hc]), ih hrest, List.reverse_cons,
      List.append_assoc, List.singleton_append]

/-- A text without white space is one word. -/
theorem words_of_not_blank (hne : w ≠ []) (hw : ∀ c ∈ w, isBlank c = false) : words w = [w] := by
  have hgo := words_go_append hw [] []
  rw [List.append_nil, List.append_nil] at hgo
  rw [words, hgo, words.go, if_neg (by simpa using hne), List.reverse_reverse]

/-- White space behind a word parts it from the words that follow. -/
theorem words_append (hne : w ≠ []) (hw : ∀ c ∈ w, isBlank c = false) (hb : b ≠ [])
    (hblank : ∀ c ∈ b, isBlank c) (s : List Char) : words (w ++ (b ++ s)) = w :: words s := by
  obtain ⟨c, b, rfl⟩ := List.exists_cons_of_ne_nil hb
  obtain ⟨hc, hrest⟩ := List.forall_mem_cons.mp hblank
  have hgo : words (w ++ (c :: b ++ s)) = w :: words (b ++ s) := by
    rw [words, words_go_append hw, List.cons_append, words.go, if_pos hc,
      if_neg (by simpa using hne), List.append_nil, List.reverse_reverse, ← words]
  rw [hgo, words_blanks_append hrest]

/-- Only white space has no words. -/
theorem words_ne_nil {c : Char} (hc : c ∈ s) (hblank : isBlank c = false) : words s ≠ [] := by
  have hgo (s current : List Char) (h : current ≠ [] ∨ c ∈ s) : words.go s current ≠ [] := by
    induction s generalizing current with
    | nil =>
      have hcurrent : current ≠ [] := h.resolve_right List.not_mem_nil
      simp [words.go, hcurrent]
    | cons d s ih =>
      rw [words.go]
      split
      · next hd =>
        split
        · next hempty =>
          have hne : c ≠ d := by
            rintro rfl
            rw [hblank] at hd
            cases hd
          refine ih [] (.inr ?_)
          have hmem := h.resolve_left fun hcurrent => hcurrent (List.isEmpty_iff.mp hempty)
          exact (List.mem_cons.mp hmem).resolve_left hne
        · exact List.cons_ne_nil _ _
      · exact ih _ (.inl (List.cons_ne_nil _ _))
  exact hgo s [] (.inr hc)

end SkillAudit.Text
