import SkillAudit.Text.Line
/-!
# SkillAudit.Proofs.Text.Lines

How the lines of a text depend on its parts. The cut after every line feed splits where a text of
whole lines ends, and every run of its pieces is the cut of the text that they make up:

* `lines_append` — whole lines in front of a text stay lines of their own;
* `cutLines_of_append` — a run of pieces is cut into the same pieces again;
* `lines_flatMap_newline` — lines joined by line feeds are read back, but for one carriage return.
-/

namespace SkillAudit.Text

/-! ## Whole lines -/

/-- A text of whole lines: it is empty or ends in a line feed. -/
def EndsLine (s : List Char) : Prop := s = [] ∨ s.getLast? = some '\n'

instance (s : List Char) : Decidable (EndsLine s) :=
  inferInstanceAs (Decidable (_ ∨ _))

/-- The rest of a text of whole lines is one, and only a line feed may stand alone. -/
theorem EndsLine.tail {c : Char} {s : List Char} (h : EndsLine (c :: s)) :
    EndsLine s ∧ (s = [] → c = '\n') := by
  cases s with
  | nil => exact ⟨.inl rfl, fun _ => by simpa [EndsLine] using h⟩
  | cons d s => exact ⟨.inr (by simpa [EndsLine] using h), nofun⟩

/-! ## The cut -/

/-- A line feed in front is a piece by itself. -/
theorem cutLines_newline (s : List Char) : cutLines ('\n' :: s) = ['\n'] :: cutLines s := by
  simp [cutLines]

/-- A character that ends no line belongs to the first piece of the rest. -/
theorem cutLines_cons_of_cons {c : Char} {s l : List Char} {ls : List (List Char)} (hc : c ≠ '\n')
    (h : cutLines s = l :: ls) : cutLines (c :: s) = (c :: l) :: ls := by
  simp [cutLines, hc, h]

/-- A single character is a piece by itself. -/
theorem cutLines_cons_of_nil {c : Char} {s : List Char} (hc : c ≠ '\n') (h : cutLines s = []) :
    cutLines (c :: s) = [[c]] := by
  simp [cutLines, hc, h]

/-- Only the empty text has no pieces. -/
theorem cutLines_eq_nil {s : List Char} : cutLines s = [] ↔ s = [] := by
  constructor
  · intro h
    rw [← flatten_cutLines s, h, List.flatten_nil]
  · rintro rfl
    rfl

/-- A single line is one piece. -/
theorem cutLines_line {w : List Char} (hw : '\n' ∉ w) : cutLines (w ++ ['\n']) = [w ++ ['\n']] := by
  induction w with
  | nil => rfl
  | cons c w ih =>
    simp only [List.mem_cons, not_or] at hw
    exact cutLines_cons_of_cons (Ne.symm hw.1) (ih hw.2)

/-- Whole lines in front of a text are cut off from it. -/
theorem cutLines_append {a b : List Char} (ha : EndsLine a) :
    cutLines (a ++ b) = cutLines a ++ cutLines b := by
  induction a with
  | nil => rfl
  | cons c a ih =>
    obtain ⟨htail, hlast⟩ := ha.tail
    have hcut := ih htail
    by_cases hc : c = '\n'
    · subst hc
      simp only [List.cons_append, cutLines_newline, hcut]
    · cases hl : cutLines a with
      | nil => exact absurd (hlast (cutLines_eq_nil.mp hl)) hc
      | cons l ls =>
        rw [hl, List.cons_append] at hcut
        rw [List.cons_append, cutLines_cons_of_cons hc hcut, cutLines_cons_of_cons hc hl,
          List.cons_append]

/-- Every run of pieces is the cut of the text that it makes up. -/
theorem cutLines_of_append {s : List Char} {xs ys : List (List Char)} (h : cutLines s = xs ++ ys) :
    cutLines xs.flatten = xs ∧ cutLines ys.flatten = ys := by
  induction s generalizing xs with
  | nil =>
    obtain ⟨rfl, rfl⟩ := List.append_eq_nil_iff.mp h.symm
    exact ⟨rfl, rfl⟩
  | cons c s ih =>
    cases xs with
    | nil =>
      have hys : ys.flatten = c :: s := by rw [← List.nil_append ys, ← h, flatten_cutLines]
      exact ⟨rfl, by rw [hys, h, List.nil_append]⟩
    | cons x xs =>
      by_cases hc : c = '\n'
      · subst hc
        rw [cutLines_newline, List.cons_append] at h
        obtain ⟨rfl, hrest⟩ := List.cons.inj h
        obtain ⟨hxs, hys⟩ := ih hrest
        exact ⟨by rw [List.flatten_cons, List.singleton_append, cutLines_newline, hxs], hys⟩
      · cases hl : cutLines s with
        | nil =>
          rw [cutLines_cons_of_nil hc hl, List.cons_append] at h
          obtain ⟨rfl, hrest⟩ := List.cons.inj h
          obtain ⟨rfl, rfl⟩ := List.append_eq_nil_iff.mp hrest.symm
          exact ⟨cutLines_cons_of_nil hc rfl, rfl⟩
        | cons l ls =>
          rw [cutLines_cons_of_cons hc hl, List.cons_append] at h
          obtain ⟨rfl, rfl⟩ := List.cons.inj h
          have hcut : cutLines s = (l :: xs) ++ ys := hl
          obtain ⟨hxs, hys⟩ := ih hcut
          exact ⟨cutLines_cons_of_cons hc hxs, hys⟩

/-- A piece is a run without line feeds, and at most one line feed behind it. -/
theorem eq_of_mem_cutLines {s l : List Char} (h : l ∈ cutLines s) :
    ∃ w, '\n' ∉ w ∧ (l = w ∨ l = w ++ ['\n']) := by
  induction s generalizing l with
  | nil => simp [cutLines] at h
  | cons c s ih =>
    by_cases hc : c = '\n'
    · subst hc
      rw [cutLines_newline, List.mem_cons] at h
      obtain rfl | h := h
      · exact ⟨[], by simp, .inr rfl⟩
      · exact ih h
    · cases hl : cutLines s with
      | nil =>
        rw [cutLines_cons_of_nil hc hl, List.mem_singleton] at h
        exact ⟨[c], by simpa using Ne.symm hc, .inl h⟩
      | cons k ls =>
        rw [cutLines_cons_of_cons hc hl, List.mem_cons] at h
        obtain rfl | h := h
        · obtain ⟨w, hw, hk⟩ := ih (l := k) (by simp [hl])
          refine ⟨c :: w, by simp [hw, Ne.symm hc], ?_⟩
          obtain rfl | rfl := hk <;> simp
        · exact ih (by simp [hl, h])

/-- A piece with another one behind it ends in a line feed. -/
theorem exists_newline_of_cutLines {s l k : List Char} (xs : List (List Char))
    {ys : List (List Char)} (h : cutLines s = xs ++ l :: k :: ys) :
    ∃ w, '\n' ∉ w ∧ l = w ++ ['\n'] := by
  induction s generalizing xs l with
  | nil => simp [cutLines] at h
  | cons c s ih =>
    by_cases hc : c = '\n'
    · subst hc
      rw [cutLines_newline] at h
      cases xs with
      | nil => exact ⟨[], List.not_mem_nil, (List.cons.inj h).1.symm⟩
      | cons x xs => exact ih xs (List.cons.inj h).2
    · cases hl : cutLines s with
      | nil =>
        rw [cutLines_cons_of_nil hc hl] at h
        cases xs <;> simp at h
      | cons p ps =>
        rw [cutLines_cons_of_cons hc hl] at h
        cases xs with
        | nil =>
          obtain ⟨rfl, rfl⟩ := List.cons.inj h
          obtain ⟨w, hw, rfl⟩ := ih [] hl
          exact ⟨c :: w, List.not_mem_cons_of_ne_of_not_mem (Ne.symm hc) hw, rfl⟩
        | cons x xs =>
          obtain ⟨rfl, rfl⟩ := List.cons.inj h
          exact ih (p :: xs) hl

/-! ## Line endings -/

/-- A line without one carriage return at its end. -/
def dropReturn (l : List Char) : List Char :=
  match l.reverse with
  | '\r' :: r => r.reverse
  | _ => l

/-- A carriage return at the end is dropped. -/
theorem dropReturn_append_return (l : List Char) : dropReturn (l ++ ['\r']) = l := by
  simp [dropReturn]

/-- Only a carriage return is ever dropped. -/
theorem dropReturn_cases (l : List Char) : dropReturn l = l ∨ l = dropReturn l ++ ['\r'] := by
  obtain rfl | ⟨w, c, rfl⟩ := List.eq_nil_or_concat l
  · exact .inl rfl
  · by_cases hc : c = '\r'
    · subst hc
      exact .inr (by rw [List.concat_eq_append, dropReturn_append_return])
    · exact .inl (by simp [dropReturn, hc])

/-- Nothing but the end of a line is dropped. -/
theorem prefix_dropReturn (l : List Char) : dropReturn l <+: l := by
  obtain h | h := dropReturn_cases l
  · exact h.symm ▸ List.prefix_refl l
  · exact ⟨['\r'], h.symm⟩

/-- A line that does not end in one stays as it is. -/
theorem dropReturn_of_getLast? {l : List Char} (h : l.getLast? ≠ some '\r') : dropReturn l = l := by
  obtain hl | hl := dropReturn_cases l
  · exact hl
  · exact absurd (by rw [hl, List.getLast?_concat]) h

/-- A line feed is dropped, and a carriage return in front of it. -/
theorem dropLineEnd_newline (w : List Char) : dropLineEnd (w ++ ['\n']) = dropReturn w := by
  simp only [dropLineEnd, dropReturn, List.reverse_append, List.reverse_cons, List.reverse_nil,
    List.nil_append, List.singleton_append]
  cases h : w.reverse with
  | nil => simp_all
  | cons c r =>
    by_cases hc : c = '\r'
    · simp [hc]
    · have hw : w = r.reverse ++ [c] := by
        rw [← List.reverse_reverse w, h, List.reverse_cons]
      simp [hc, hw]

/-- Without a line feed a line has no ending. -/
theorem dropLineEnd_of_not_mem {w : List Char} (hw : '\n' ∉ w) : dropLineEnd w = w := by
  cases h : w.reverse with
  | nil => simp [dropLineEnd, h]
  | cons c r =>
    have hc : c ≠ '\n' := by
      rintro rfl
      exact hw (List.mem_reverse.mp (h ▸ List.mem_cons_self))
    simp [dropLineEnd, h, hc]

/-! ## Lines -/

/-- There are as many lines as pieces. -/
theorem length_lines (s : List Char) : (lines s).length = (cutLines s).length :=
  List.length_map _

/-- Whole lines in front of a text stay lines of their own. -/
theorem lines_append {a b : List Char} (ha : EndsLine a) : lines (a ++ b) = lines a ++ lines b := by
  rw [lines, cutLines_append ha, List.map_append, lines, lines]

/-- A line in front of a text. -/
theorem lines_line_append {l : List Char} (hl : '\n' ∉ l) (b : List Char) :
    lines (l ++ '\n' :: b) = dropReturn l :: lines b := by
  have hend : EndsLine (l ++ ['\n']) := .inr List.getLast?_concat
  rw [← List.singleton_append, ← List.append_assoc, lines_append hend, lines,
    cutLines_line hl, List.map_singleton, dropLineEnd_newline, List.singleton_append]

/-- No line holds a line feed. -/
theorem newline_not_mem_of_mem_lines {s l : List Char} (h : l ∈ lines s) : '\n' ∉ l := by
  obtain ⟨k, hk, rfl⟩ := List.mem_map.mp h
  obtain ⟨w, hw, rfl | rfl⟩ := eq_of_mem_cutLines hk
  · rwa [dropLineEnd_of_not_mem hw]
  · rw [dropLineEnd_newline]
    exact fun hmem => hw ((prefix_dropReturn w).subset hmem)

/-- Lines joined by line feeds are read back, each without one carriage return at its end. -/
theorem lines_flatMap_newline {ls : List (List Char)} (h : ∀ l ∈ ls, '\n' ∉ l) :
    lines (ls.flatMap (· ++ ['\n'])) = ls.map dropReturn := by
  induction ls with
  | nil => rfl
  | cons l ls ih =>
    have hl : '\n' ∉ l := h l List.mem_cons_self
    rw [List.flatMap_cons, List.append_assoc, List.singleton_append, lines_line_append hl,
      ih fun k hk => h k (List.mem_cons_of_mem l hk), List.map_cons]

/-- Whether a line has a number in a text, counted from one. -/
def LineAt (s : List Char) (n : Nat) (l : List Char) : Prop :=
  1 ≤ n ∧ (lines s)[n - 1]? = some l

/-- The numbers of lines are one more than their places in the list. -/
theorem lineAt_add {s l : List Char} {i : Nat} : LineAt s (1 + i) l ↔ (lines s)[i]? = some l := by
  simp [LineAt]

/-- The number of a line is at most the number of lines. -/
theorem LineAt.le_length {s l : List Char} {n : Nat} (h : LineAt s n l) : n ≤ (lines s).length := by
  obtain ⟨hn, hl⟩ := h
  have hlt := (List.getElem?_eq_some_iff.mp hl).1
  omega

/-- The numbered lines are the lines in their order, counted from `first`. -/
theorem mem_numberedLines {first n : Nat} {s l : List Char} :
    (n, l) ∈ numberedLines first s ↔ ∃ i, (lines s)[i]? = some l ∧ n = first + i := by
  rw [numberedLines, List.mem_iff_getElem?]
  simp only [List.getElem?_mapIdx, Option.map_eq_some_iff, Prod.mk.injEq]
  constructor
  · rintro ⟨i, k, hk, rfl, rfl⟩
    exact ⟨i, hk, rfl⟩
  · rintro ⟨i, hl, rfl⟩
    exact ⟨i, l, hl, rfl, rfl⟩

/-- What belongs to a line stands between what belongs to the lines above and below. -/
theorem filter_number {α : Type} {number : α → Nat} {n : Nat} {as bs cs : List α}
    (has : ∀ a ∈ as, number a < n) (hbs : ∀ b ∈ bs, number b = n) (hcs : ∀ c ∈ cs, n < number c) :
    (as ++ (bs ++ cs)).filter (fun a => number a ≠ n) = as ++ cs ∧
      (as ++ (bs ++ cs)).filter (fun a => number a = n) = bs := by
  have hane : ∀ a ∈ as, number a ≠ n := fun a ha => Nat.ne_of_lt (has a ha)
  have hcne : ∀ c ∈ cs, number c ≠ n := fun c hc => Nat.ne_of_gt (hcs c hc)
  rw [List.filter_append, List.filter_append, List.filter_append, List.filter_append]
  constructor
  · rw [List.filter_eq_self.mpr (by simpa using hane),
      List.filter_eq_nil_iff.mpr (by simpa using hbs),
      List.filter_eq_self.mpr (by simpa using hcne), List.nil_append]
  · rw [List.filter_eq_nil_iff.mpr (by simpa using hane),
      List.filter_eq_self.mpr (by simpa using hbs),
      List.filter_eq_nil_iff.mpr (by simpa using hcne), List.nil_append, List.append_nil]

end SkillAudit.Text
