import SkillAudit.Text.Pattern
/-!
# SkillAudit.Proofs.Text.Pattern

What the characters of a text tell about the patterns that occur in it. A match leads to a place
behind the one where it starts, past characters that the pattern accepts one by one; so a pattern
that asks for a character of a class occurs in no text without one.
-/

namespace SkillAudit.Pattern

/-- Whether every class of characters that the pattern cannot do without has one of an alphabet. -/
def admits (alphabet : List Char) : Pattern → Bool
  | empty => true
  | one accepts => alphabet.any accepts
  | start => true
  | wordEdge => true
  | seq p q => p.admits alphabet && q.admits alphabet
  | alt p q => p.admits alphabet || q.admits alphabet
  | many _ => true

/-- Passes that each lead on behind their place lead on behind the first one. -/
theorem suffix_of_repeated {step : (Cursor → Bool) → Cursor → Bool}
    (hstep : ∀ {k : Cursor → Bool} {here : Cursor}, step k here →
      ∃ there, k there ∧ there.after <:+ here.after)
    {n : Nat} {k : Cursor → Bool} {here : Cursor} (h : repeated step n k here) :
    ∃ there, k there ∧ there.after <:+ here.after := by
  induction n generalizing here with
  | zero => exact ⟨here, h, List.suffix_refl _⟩
  | succ n ih =>
    obtain h | h := (Bool.or_eq_true _ _).mp h
    · exact ⟨here, h, List.suffix_refl _⟩
    · obtain ⟨between, hbetween, hsuffix⟩ := hstep h
      obtain ⟨there, hthere, hsuffix'⟩ := ih hbetween
      exact ⟨there, hthere, hsuffix'.trans hsuffix⟩

/-- A match leads to a place behind the one where it starts. -/
theorem suffix_of_matchThen {p : Pattern} {k : Cursor → Bool} {here : Cursor}
    (h : p.matchThen k here) : ∃ there, k there ∧ there.after <:+ here.after := by
  induction p generalizing k here with
  | empty => exact ⟨here, h, List.suffix_refl _⟩
  | one accepts =>
    obtain ⟨before, after⟩ := here
    cases after with
    | nil => cases h
    | cons c rest => exact ⟨⟨.some c, rest⟩, (Bool.and_eq_true _ _ ▸ h).2, List.suffix_cons c rest⟩
  | start => exact ⟨here, (Bool.and_eq_true _ _ ▸ h).2, List.suffix_refl _⟩
  | wordEdge => exact ⟨here, (Bool.and_eq_true _ _ ▸ h).2, List.suffix_refl _⟩
  | seq p q ihp ihq =>
    obtain ⟨between, hbetween, hsuffix⟩ := ihp h
    obtain ⟨there, hthere, hsuffix'⟩ := ihq hbetween
    exact ⟨there, hthere, hsuffix'.trans hsuffix⟩
  | alt p q ihp ihq =>
    obtain h | h := (Bool.or_eq_true _ _).mp h
    · exact ihp h
    · exact ihq h
  | many p ih => exact suffix_of_repeated ih h

/-- A match passes over characters of the alphabet of the text only. -/
theorem admits_of_matchThen {alphabet : List Char} {p : Pattern} {k : Cursor → Bool} {here : Cursor}
    (h : p.matchThen k here) (hover : ∀ c ∈ here.after, c ∈ alphabet) : p.admits alphabet := by
  induction p generalizing k here with
  | empty | start | wordEdge | many => rfl
  | one accepts =>
    obtain ⟨before, after⟩ := here
    cases after with
    | nil => cases h
    | cons c rest =>
      exact List.any_eq_true.mpr ⟨c, hover c List.mem_cons_self, (Bool.and_eq_true _ _ ▸ h).1⟩
  | seq p q ihp ihq =>
    obtain ⟨between, hbetween, hsuffix⟩ := suffix_of_matchThen (p := p) h
    have hq := ihq hbetween fun c hc => hover c (hsuffix.subset hc)
    exact (Bool.and_eq_true _ _).mpr ⟨ihp h hover, hq⟩
  | alt p q ihp ihq =>
    obtain h | h := (Bool.or_eq_true _ _).mp h
    · exact (Bool.or_eq_true _ _).mpr (.inl (ihp h hover))
    · exact (Bool.or_eq_true _ _).mpr (.inr (ihq h hover))

/-- A pattern that occurs in a text admits every alphabet that the text is over. -/
theorem admits_of_occursIn {alphabet s : List Char} {p : Pattern} (h : p.occursIn s)
    (hover : ∀ c ∈ s, c ∈ alphabet) : p.admits alphabet := by
  rw [occursIn] at h
  generalize none = before at h
  induction s generalizing before with
  | nil => exact admits_of_matchThen h hover
  | cons c s ih =>
    obtain h | h := (Bool.or_eq_true _ _).mp h
    · exact admits_of_matchThen h hover
    · exact ih (fun d hd => hover d (List.mem_cons_of_mem c hd)) _ h

end SkillAudit.Pattern
