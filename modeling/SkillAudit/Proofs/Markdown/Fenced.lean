import SkillAudit.Markdown.Fence
import SkillAudit.Proofs.Text.Pieces
/-!
# SkillAudit.Proofs.Markdown.Fenced

Which lines are fenced, told by the numbers of the lines that open and close the fences. A line
opens a fence if it starts with a long enough run and every fence that was opened before it has been
closed; a line is fenced if one that stands there or before it opens a fence and no line between the
two closes that. A layout places all lines of a text at once; this tells of a single line where it
stands.

* `after_eq_some_iff` — the fence that is open in front of a line is one that was opened and not
  closed;
* `place_eq_outside_iff` — the lines outside are those that are not fenced.
-/

namespace SkillAudit.Fence

open Text

/-! ## Runs -/

/-- Whether a line starts, white space aside, with a run that opens the fence. -/
def Opens (fence : Fence) (line : List Char) : Prop :=
  (fence.marker = '`' ∨ fence.marker = '~') ∧ 3 ≤ fence.length ∧ ∃ rest,
    trimStart line = List.replicate fence.length fence.marker ++ rest ∧
      rest.head? ≠ some fence.marker

/-- Whether a line is, white space aside, a run that is long enough to close the fence. -/
def Closes (fence : Fence) (line : List Char) : Prop :=
  ∃ n rest, fence.length ≤ n ∧ trimStart line = List.replicate n fence.marker ++ rest ∧
    ∀ c ∈ rest, isBlank c

variable {fence : Fence} {line : List Char}

/-- What a run leaves does not go on with it. -/
theorem span_replicate {c : Char} {rest : List Char} (h : rest.head? ≠ some c) (n : Nat) :
    (List.replicate n c ++ rest).takeWhile (· == c) = List.replicate n c ∧
      (List.replicate n c ++ rest).dropWhile (· == c) = rest := by
  have hrun : ∀ d ∈ List.replicate n c, (d == c) = true := fun d hd =>
    beq_iff_eq.mpr (List.eq_of_mem_replicate hd)
  rw [List.takeWhile_append_of_pos hrun, List.dropWhile_append_of_pos hrun]
  cases rest with
  | nil => exact ⟨List.append_nil _, rfl⟩
  | cons d rest =>
    have hd : (d == c) = false := by
      refine beq_eq_false_iff_ne.mpr ?_
      rintro rfl
      exact h List.head?_cons
    rw [List.takeWhile_cons, List.dropWhile_cons, hd]
    exact ⟨List.append_nil _, rfl⟩

/-- A run of markers is as long as it can be. -/
theorem run?_eq_some {c : Char} {n : Nat} {rest : List Char} :
    run? line = some (c, n, rest) ↔ (c = '`' ∨ c = '~') ∧ 1 ≤ n ∧
      trimStart line = List.replicate n c ++ rest ∧ rest.head? ≠ some c := by
  unfold run?
  cases htrim : trimStart line with
  | nil =>
    refine iff_of_false nofun ?_
    rintro ⟨-, hn, heq, -⟩
    have hlength := congrArg List.length heq
    simp at hlength
    omega
  | cons d s =>
    constructor
    · intro h
      simp only [Option.ite_none_right_eq_some] at h
      obtain ⟨hd, h⟩ := h
      cases h
      refine ⟨hd, Nat.succ_pos _, ?_, ?_⟩
      · have hrun : ∀ d ∈ s.takeWhile (· == c), d = c := fun d hd =>
          beq_iff_eq.mp (List.all_eq_true.mp List.all_takeWhile d hd)
        rw [List.replicate_succ, ← List.eq_replicate_iff.mpr ⟨rfl, hrun⟩, List.cons_append,
          List.takeWhile_append_dropWhile]
      · intro hhead
        have hnot := List.head?_dropWhile_not (· == c) s
        rw [hhead] at hnot
        simp at hnot
    · rintro ⟨hc, hn, heq, hhead⟩
      obtain ⟨k, rfl⟩ := Nat.exists_eq_add_of_le' hn
      rw [List.replicate_succ, List.cons_append] at heq
      obtain ⟨rfl, rfl⟩ := List.cons.inj heq
      obtain ⟨htake, hdrop⟩ := span_replicate hhead k
      simp only [if_pos hc, htake, hdrop, List.length_replicate]

/-- The fence that a line opens is the one that it says. -/
theorem openedBy?_eq_some : openedBy? line = some fence ↔ fence.Opens line := by
  unfold openedBy? Opens
  constructor
  · intro h
    split at h
    · next c n rest hrun =>
      obtain ⟨hn, h⟩ := Option.ite_none_right_eq_some.mp h
      cases h
      obtain ⟨hc, -, htrim, hhead⟩ := run?_eq_some.mp hrun
      exact ⟨hc, hn, rest, htrim, hhead⟩
    · cases h
  · rintro ⟨hc, hn, rest, htrim, hhead⟩
    have hrun := run?_eq_some.mpr ⟨hc, Nat.le_of_succ_le (Nat.le_of_succ_le hn), htrim, hhead⟩
    simp only [hrun, if_pos hn]

/-- A line opens no fence if it says none. -/
theorem openedBy?_eq_none : openedBy? line = none ↔ ∀ fence : Fence, ¬fence.Opens line := by
  simp only [Option.eq_none_iff_forall_ne_some, ne_eq, openedBy?_eq_some]

/-- A fence that was opened is closed by the lines that are a long enough run of its character. -/
theorem Opens.closedBy_iff {opener : List Char} (h : fence.Opens opener) :
    fence.closedBy line ↔ fence.Closes line := by
  obtain ⟨hmarker, hlength, -⟩ := h
  unfold closedBy Closes
  constructor
  · intro h
    split at h
    · next c n rest hrun =>
      simp only [Bool.and_eq_true, beq_iff_eq, decide_eq_true_eq, List.all_eq_true] at h
      obtain ⟨⟨rfl, hn⟩, hblank⟩ := h
      obtain ⟨-, -, htrim, -⟩ := run?_eq_some.mp hrun
      exact ⟨n, rest, hn, htrim, hblank⟩
    · cases h
  · rintro ⟨n, rest, hn, htrim, hblank⟩
    have hhead : rest.head? ≠ some fence.marker := by
      intro hhead
      have hmarkerBlank := hblank _ (List.mem_of_head? hhead)
      obtain hm | hm := hmarker <;> (rw [hm] at hmarkerBlank; revert hmarkerBlank; decide)
    have hrun := run?_eq_some.mpr ⟨hmarker, by omega, htrim, hhead⟩
    simpa [hrun, hn] using hblank

/-- A line leaves a fence open if it is not one that closes it. -/
theorem Opens.closedBy_eq_false_iff {opener : List Char} (h : fence.Opens opener) :
    fence.closedBy line = false ↔ ¬fence.Closes line := by
  rw [← h.closedBy_iff, Bool.not_eq_true]

/-! ## Fences by the numbers of lines -/

variable {ls : List (List Char)} {i j : Nat}

/-- Whether no line between two others closes the fence. -/
def StaysOpen (fence : Fence) (ls : List (List Char)) (i j : Nat) : Prop :=
  ∀ k l, i < k → k < j → ls[k]? = some l → ¬fence.Closes l

/-- Whether a line opens the fence, every fence that was opened before having been closed before. -/
def OpensAt (ls : List (List Char)) (i : Nat) (fence : Fence) : Prop :=
  (∃ l, ls[i]? = some l ∧ fence.Opens l) ∧
    ∀ j < i, ∀ other : Fence, OpensAt ls j other → ¬other.StaysOpen ls j i
termination_by i

/-- Whether a fence is open in front of a line: it was opened, and has not been closed since. -/
def IsOpenBefore (ls : List (List Char)) (j : Nat) (fence : Fence) : Prop :=
  ∃ i < j, OpensAt ls i fence ∧ fence.StaysOpen ls i j

/-- Whether a line is fenced: it opens a fence, or one is open in front of it. The line that closes
    the fence is one of them. -/
def IsFenced (ls : List (List Char)) (j : Nat) : Prop :=
  ∃ i ≤ j, ∃ fence : Fence, OpensAt ls i fence ∧ fence.StaysOpen ls i j

/-- Whether a line is strictly inside the fence: it does not close it either. -/
def Encloses (fence : Fence) (ls : List (List Char)) (j : Nat) : Prop :=
  ∃ i < j, OpensAt ls i fence ∧ fence.StaysOpen ls i (j + 1)

/-- Where a fence is opened there is a line that opens it. -/
theorem OpensAt.exists_opens (h : OpensAt ls i fence) : ∃ l, ls[i]? = some l ∧ fence.Opens l := by
  rw [OpensAt] at h
  exact h.1

/-- A fence stays open past a line that does not close it. -/
theorem staysOpen_succ :
    fence.StaysOpen ls i (j + 1) ↔
      fence.StaysOpen ls i j ∧ (i < j → ∀ l, ls[j]? = some l → ¬fence.Closes l) := by
  constructor
  · intro h
    exact ⟨fun k l hi hk hl => h k l hi (Nat.lt_succ_of_lt hk) hl,
      fun hi l hl => h j l hi (Nat.lt_succ_self j) hl⟩
  · rintro ⟨h, hlast⟩ k l hi hk hl
    obtain hk | rfl := Nat.lt_succ_iff_lt_or_eq.mp hk
    · exact h k l hi hk hl
    · exact hlast hi l hl

/-- A fence is open behind a line if the line opens it, or leaves it open. -/
theorem isOpenBefore_succ :
    IsOpenBefore ls (j + 1) fence ↔
      IsOpenBefore ls j fence ∧ (∀ l, ls[j]? = some l → ¬fence.Closes l) ∨ OpensAt ls j fence := by
  constructor
  · rintro ⟨i, hi, hopens, hstays⟩
    obtain ⟨hstays, hlast⟩ := staysOpen_succ.mp hstays
    obtain hi | rfl := Nat.lt_succ_iff_lt_or_eq.mp hi
    · exact .inl ⟨⟨i, hi, hopens, hstays⟩, hlast hi⟩
    · exact .inr hopens
  · rintro (⟨⟨i, hi, hopens, hstays⟩, hlast⟩ | hopens)
    · exact ⟨i, Nat.lt_succ_of_lt hi, hopens, staysOpen_succ.mpr ⟨hstays, fun _ => hlast⟩⟩
    · exact ⟨j, Nat.lt_succ_self j, hopens, fun k l hj hk => by omega⟩

/-- A line is fenced if a fence is open in front of it or it opens one. -/
theorem isFenced_iff :
    IsFenced ls j ↔ (∃ fence, IsOpenBefore ls j fence) ∨ ∃ fence, OpensAt ls j fence := by
  constructor
  · rintro ⟨i, hi, fence, hopens, hstays⟩
    obtain hi | rfl := Nat.lt_or_eq_of_le hi
    · exact .inl ⟨fence, i, hi, hopens, hstays⟩
    · exact .inr ⟨fence, hopens⟩
  · rintro (⟨fence, i, hi, hopens, hstays⟩ | ⟨fence, hopens⟩)
    · exact ⟨i, Nat.le_of_lt hi, fence, hopens, hstays⟩
    · exact ⟨j, Nat.le_refl j, fence, hopens, fun k l hj hk => by omega⟩

/-! ## What the step finds -/

/-- What is open behind a line is what the line makes of what was open before. -/
theorem after_take_succ (state : Option Fence) (ls : List (List Char)) (j : Nat) :
    after state (ls.take (j + 1)) =
      match ls[j]? with
      | some l => step (after state (ls.take j)) l
      | none => after state (ls.take j) := by
  rw [List.take_add_one, after, List.foldl_append, after]
  cases ls[j]? <;> rfl

/-- Where the open fences in front of a line are known, a line opens one if none is open. -/
private theorem opensAt_iff_of
    (h : ∀ fence, after none (ls.take i) = some fence ↔ IsOpenBefore ls i fence) :
    OpensAt ls i fence ↔
      after none (ls.take i) = none ∧ ∃ l, ls[i]? = some l ∧ fence.Opens l := by
  have hnone : after none (ls.take i) = none ↔
      ∀ j < i, ∀ other : Fence, OpensAt ls j other → ¬other.StaysOpen ls j i := by
    rw [Option.eq_none_iff_forall_ne_some]
    constructor
    · intro hne j hj other hopens hstays
      exact hne other ((h other).mpr ⟨j, hj, hopens, hstays⟩)
    · intro hclosed other hother
      obtain ⟨j, hj, hopens, hstays⟩ := (h other).mp hother
      exact hclosed j hj other hopens hstays
  rw [OpensAt, hnone, and_comm]

/-- The fence that is open in front of a line is one that was opened and not closed. -/
theorem after_eq_some_iff : after none (ls.take j) = some fence ↔ IsOpenBefore ls j fence := by
  induction j generalizing fence with
  | zero => exact iff_of_false nofun fun ⟨i, hi, _⟩ => Nat.not_lt_zero i hi
  | succ j ih =>
    rw [isOpenBefore_succ, opensAt_iff_of fun _ => ih, ← ih, after_take_succ]
    cases hl : ls[j]? with
    | none => simp
    | some l =>
      cases hstate : after none (ls.take j) with
      | none => simp [step, openedBy?_eq_some]
      | some other =>
        obtain ⟨i, -, hopens, -⟩ := ih.mp hstate
        obtain ⟨opener, -, hopener⟩ := hopens.exists_opens
        have hcloses : other.Closes l ↔ other.closedBy l := hopener.closedBy_iff.symm
        by_cases heq : other = fence
        · subst heq
          cases hclosed : other.closedBy l <;> simp [step, hcloses, hclosed]
        · cases hclosed : other.closedBy l <;> simp [step, heq, hclosed]

/-- A line opens a fence if none is open in front of it and it says so. -/
theorem opensAt_iff :
    OpensAt ls i fence ↔
      after none (ls.take i) = none ∧ ∃ l, ls[i]? = some l ∧ fence.Opens l :=
  opensAt_iff_of fun _ => after_eq_some_iff

/-- The lines outside are those that are not fenced. -/
theorem place_eq_outside_iff {l : List Char} (hl : ls[j]? = some l) :
    place (after none (ls.take j)) l = .outside ↔ ¬IsFenced ls j := by
  simp only [isFenced_iff, ← after_eq_some_iff, opensAt_iff, hl, Option.some.injEq,
    exists_eq_left', ← openedBy?_eq_some]
  cases after none (ls.take j) with
  | none => cases h : openedBy? l <;> simp [place, step, h]
  | some fence => cases h : fence.closedBy l <;> simp [place, step, h]

/-- A line strictly inside a fence is met with that fence open, and does not close it. -/
theorem encloses_iff {l : List Char} (hl : ls[j]? = some l) :
    fence.Encloses ls j ↔ after none (ls.take j) = some fence ∧ fence.closedBy l = false := by
  rw [after_eq_some_iff]
  constructor
  · rintro ⟨i, hi, hopens, hstays⟩
    obtain ⟨hstays, hlast⟩ := staysOpen_succ.mp hstays
    obtain ⟨opener, -, hopener⟩ := hopens.exists_opens
    exact ⟨⟨i, hi, hopens, hstays⟩, hopener.closedBy_eq_false_iff.mpr (hlast hi l hl)⟩
  · rintro ⟨⟨i, hi, hopens, hstays⟩, hclosed⟩
    obtain ⟨opener, -, hopener⟩ := hopens.exists_opens
    refine ⟨i, hi, hopens, staysOpen_succ.mpr ⟨hstays, fun _ k hk => ?_⟩⟩
    obtain rfl := Option.some.inj (hl.symm.trans hk)
    exact hopener.closedBy_eq_false_iff.mp hclosed

end SkillAudit.Fence
