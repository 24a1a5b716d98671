import Mathlib.Data.List.Chain
import SkillAudit.Proofs.Markdown.Fenced
import SkillAudit.Proofs.Reference.Blocks
/-!
# SkillAudit.Proofs.Markdown.Outline

The blocks of a text divide its lines: they follow each other without a gap from the first line to
the last, and a block starts at every heading that is not fenced, and nowhere else but at the first
line.

* `exists_mem_number_cut` — the headings of the blocks are those that are met line by line;
* `isOutline_ofText` — the blocks of a text are an outline of its lines.
-/

namespace SkillAudit

open Text

/-- A heading has a level from one to six. -/
theorem Heading.level_of_ofLine? {line : List Char} {h : Heading}
    (hline : Heading.ofLine? line = some h) : 1 ≤ h.level ∧ h.level ≤ 6 := by
  simp only [Heading.ofLine?, Option.ite_none_left_eq_some, not_or, Nat.not_lt] at hline
  obtain ⟨⟨-, hzero, hsix⟩, hline⟩ := hline
  split at hline
  · cases hline
    exact ⟨Nat.pos_of_ne_zero hzero, hsix⟩
  · obtain ⟨-, hline⟩ := Option.ite_none_right_eq_some.mp hline
    cases hline
    exact ⟨Nat.pos_of_ne_zero hzero, hsix⟩

namespace Block

/-! ## Pieces -/

section Pieces

variable {state : Option Fence} {ls : List (List Char)}

/-- Only outside fences is a line a heading. -/
theorem headingAt?_eq_some {line : List Char} {h : Heading} :
    headingAt? state line = some h ↔
      Fence.place state line = .outside ∧ Heading.ofLine? line = some h := by
  unfold headingAt?
  cases Fence.place state line <;> simp

/-- A line joins the piece behind it if that has no heading, and is a piece of its own if not. -/
theorem cut_cons (state : Option Fence) (line : List Char) (rest : List (List Char)) :
    (∃ own more, cut (Fence.step state line) rest = (none, own) :: more ∧
      cut state (line :: rest) = (headingAt? state line, line :: own) :: more) ∨
    (∀ piece ∈ (cut (Fence.step state line) rest).head?, piece.1 ≠ none) ∧
      cut state (line :: rest) =
        (headingAt? state line, [line]) :: cut (Fence.step state line) rest := by
  cases hcut : cut (Fence.step state line) rest with
  | nil =>
    refine .inr ⟨fun piece hpiece => ?_, by simp only [cut, hcut]⟩
    cases hpiece
  | cons first more =>
    obtain ⟨heading, own⟩ := first
    cases heading with
    | none => exact .inl ⟨own, more, rfl, by simp only [cut, hcut]⟩
    | some h =>
      refine .inr ⟨fun piece hpiece => ?_, by simp only [cut, hcut]⟩
      cases hpiece
      exact Option.some_ne_none h

/-- The first line gives the first piece its heading. -/
theorem exists_cut_cons (state : Option Fence) (line : List Char) (rest : List (List Char)) :
    ∃ own more, cut state (line :: rest) = (headingAt? state line, line :: own) :: more := by
  obtain ⟨own, more, -, hcut⟩ | ⟨-, hcut⟩ := cut_cons state line rest
  · exact ⟨own, more, hcut⟩
  · exact ⟨[], _, hcut⟩

/-- Only where there are no lines are there no pieces. -/
theorem cut_eq_nil_iff (state : Option Fence) : cut state ls = [] ↔ ls = [] := by
  cases ls with
  | nil => exact iff_of_true rfl rfl
  | cons line rest =>
    obtain ⟨own, more, hcut⟩ := exists_cut_cons state line rest
    exact iff_of_false (by rw [hcut]; exact List.cons_ne_nil _ _) (List.cons_ne_nil _ _)

/-- No piece is empty, and a heading of a piece is one that a line gives. -/
theorem of_mem_cut {piece : Option Heading × List (List Char)} (hpiece : piece ∈ cut state ls) :
    piece.2 ≠ [] ∧ ∀ h, piece.1 = some h → ∃ line, Heading.ofLine? line = some h := by
  induction ls generalizing state with
  | nil => cases hpiece
  | cons line rest ih =>
    have hhere : ∀ h, headingAt? state line = some h → ∃ line, Heading.ofLine? line = some h :=
      fun h hh => ⟨line, (headingAt?_eq_some.mp hh).2⟩
    obtain ⟨own, more, hrest, hcut⟩ | ⟨-, hcut⟩ := cut_cons state line rest
    all_goals
      rw [hcut] at hpiece
      obtain rfl | hpiece := List.mem_cons.mp hpiece
    · exact ⟨List.cons_ne_nil _ _, hhere⟩
    · exact ih (hrest ▸ List.mem_cons_of_mem _ hpiece)
    · exact ⟨List.cons_ne_nil _ _, hhere⟩
    · exact ih hpiece

/-- Every piece but the first has a heading. -/
theorem ne_none_of_cut_eq_cons {first piece : Option Heading × List (List Char)}
    {more : List (Option Heading × List (List Char))} (hcut : cut state ls = first :: more)
    (hpiece : piece ∈ more) : piece.1 ≠ none := by
  induction ls generalizing state first more with
  | nil => cases hcut
  | cons line rest ih =>
    obtain ⟨own, more', hrest, hcut'⟩ | ⟨hhead, hcut'⟩ := cut_cons state line rest
    · rw [hcut'] at hcut
      cases hcut
      exact ih hrest hpiece
    · rw [hcut'] at hcut
      cases hcut
      cases hrest : cut (Fence.step state line) rest with
      | nil =>
        rw [hrest] at hpiece
        cases hpiece
      | cons next more =>
        rw [hrest] at hpiece hhead
        obtain rfl | hpiece := List.mem_cons.mp hpiece
        · exact hhead _ rfl
        · exact ih hrest hpiece

end Pieces

/-! ## Numbers -/

section Numbers

variable {first : Nat} {pieces : List (Option Heading × List (List Char))}

/-- The first block starts on the first line. -/
theorem startLine_of_head?_number {b : Block} (h : (number first pieces).head? = some b) :
    b.startLine = first := by
  cases pieces with
  | nil => cases h
  | cons piece rest =>
    cases h
    rfl

/-- A block ends on its last line. -/
theorem endLine_ofPiece (first : Nat) {piece : Option Heading × List (List Char)}
    (h : piece.2 ≠ []) : (ofPiece first piece).endLine + 1 = first + piece.2.length := by
  have hlength := List.length_pos_iff.mpr h
  simp only [ofPiece]
  omega

/-- Every block is made of a piece. -/
theorem exists_of_mem_number {b : Block} (h : b ∈ number first pieces) :
    ∃ n, ∃ piece ∈ pieces, b = ofPiece n piece := by
  induction pieces generalizing first with
  | nil => cases h
  | cons piece rest ih =>
    obtain rfl | h := List.mem_cons.mp h
    · exact ⟨first, piece, List.mem_cons_self, rfl⟩
    · obtain ⟨n, p, hp, hb⟩ := ih h
      exact ⟨n, p, List.mem_cons_of_mem _ hp, hb⟩

/-- Each block starts on the line behind the one before. -/
theorem isChain_number (h : ∀ piece ∈ pieces, piece.2 ≠ []) :
    (number first pieces).IsChain fun a b => b.startLine = a.endLine + 1 := by
  induction pieces generalizing first with
  | nil => exact List.isChain_nil
  | cons piece rest ih =>
    refine List.isChain_cons.mpr ⟨fun b hb => ?_, ih fun p hp => h p (List.mem_cons_of_mem _ hp)⟩
    rw [startLine_of_head?_number hb, endLine_ofPiece _ (h piece List.mem_cons_self)]

/-- The last block ends on the last line. -/
theorem endLine_of_getLast?_number (h : ∀ piece ∈ pieces, piece.2 ≠ []) {b : Block}
    (hb : (number first pieces).getLast? = some b) :
    b.endLine + 1 = first + (pieces.flatMap (·.2)).length := by
  induction pieces generalizing first with
  | nil => cases hb
  | cons piece rest ih =>
    rw [List.flatMap_cons, List.length_append, ← Nat.add_assoc]
    cases rest with
    | nil =>
      cases hb
      exact endLine_ofPiece _ (h piece List.mem_cons_self)
    | cons next rest =>
      rw [number, number, List.getLast?_cons_cons] at hb
      exact ih (fun p hp => h p (List.mem_cons_of_mem _ hp)) hb

/-- The texts of the blocks are those of the lines. -/
theorem flatMap_text_number :
    (number first pieces).flatMap (·.text.toList) =
      (pieces.flatMap (·.2)).flatMap (· ++ ['\n']) := by
  induction pieces generalizing first with
  | nil => rfl
  | cons piece rest ih =>
    rw [number, List.flatMap_cons, List.flatMap_cons, List.flatMap_append, ih, ofPiece,
      String.toList_ofList]

end Numbers

/-! ## Headings -/

/-- Whether a block starts on a line with a heading. -/
def IsHeadedAt (b : Block) (n : Nat) (h : Heading) : Prop :=
  b.startLine = n ∧ b.level = h.level ∧ b.heading = String.ofList h.text

/-- A block has its heading on its first line. -/
theorem isHeadedAt_ofPiece {first n : Nat} {piece : Option Heading × List (List Char)}
    {h : Heading} (hlevel : 1 ≤ h.level) :
    (ofPiece first piece).IsHeadedAt n h ↔ n = first ∧ piece.1 = some h := by
  obtain ⟨_ | g, own⟩ := piece
  · refine iff_of_false ?_ nofun
    rintro ⟨-, hzero, -⟩
    exact absurd hzero (Nat.ne_of_lt hlevel)
  · obtain ⟨level, text⟩ := g
    obtain ⟨level', text'⟩ := h
    simp [IsHeadedAt, ofPiece, String.ofList_inj, eq_comm]

/-- The headings of the blocks are those that are met line by line. -/
theorem exists_mem_number_cut {state : Option Fence} {first n : Nat} {ls : List (List Char)}
    {h : Heading} (hlevel : 1 ≤ h.level) :
    (∃ b ∈ number first (cut state ls), b.IsHeadedAt n h) ↔
      ∃ i l, ls[i]? = some l ∧ n = first + i ∧
        headingAt? (Fence.after state (ls.take i)) l = some h := by
  induction ls generalizing state first with
  | nil => simp [cut, number]
  | cons line rest ih =>
    -- the first line, or one of the others
    have hlines : (∃ i l, (line :: rest)[i]? = some l ∧ n = first + i ∧
          headingAt? (Fence.after state ((line :: rest).take i)) l = some h) ↔
        (n = first ∧ headingAt? state line = some h) ∨
          ∃ b ∈ number (first + 1) (cut (Fence.step state line) rest), b.IsHeadedAt n h := by
      rw [ih]
      constructor
      · rintro ⟨i, l, hl, hn, hh⟩
        cases i with
        | zero =>
          cases hl
          exact .inl ⟨hn, hh⟩
        | succ i => exact .inr ⟨i, l, hl, by omega, hh⟩
      · rintro (⟨hn, hh⟩ | ⟨i, l, hl, hn, hh⟩)
        · exact ⟨0, line, rfl, hn, hh⟩
        · exact ⟨i + 1, l, hl, by omega, hh⟩
    rw [hlines]
    obtain ⟨own, more, hrest, hcut⟩ | ⟨-, hcut⟩ := cut_cons state line rest
    · rw [hcut, hrest]
      simp only [number, List.mem_cons, exists_eq_or_imp, isHeadedAt_ofPiece hlevel,
        List.length_cons, Nat.add_assoc, Nat.add_comm 1, reduceCtorEq, and_false, false_or]
    · rw [hcut]
      simp only [number, List.mem_cons, exists_eq_or_imp, isHeadedAt_ofPiece hlevel,
        List.length_singleton]

/-- Whether a line is a heading that is not fenced. -/
def HeadingStands (ls : List (List Char)) (i : Nat) (h : Heading) : Prop :=
  ∃ l, ls[i]? = some l ∧ ¬Fence.IsFenced ls i ∧ Heading.ofLine? l = some h

/-- A heading stands where a line is one with what is open in front of it. -/
theorem headingStands_iff {ls : List (List Char)} {i : Nat} {h : Heading} :
    HeadingStands ls i h ↔
      ∃ l, ls[i]? = some l ∧ headingAt? (Fence.after none (ls.take i)) l = some h := by
  refine exists_congr fun l => and_congr_right fun hl => ?_
  rw [headingAt?_eq_some, Fence.place_eq_outside_iff hl]

/-! ## Blocks of lines -/

section Blocks

variable {first : Nat} {ls : List (List Char)}

/-- The blocks with a heading start where one stands. -/
theorem exists_headed_iff {i : Nat} {h : Heading} :
    (∃ b ∈ number first (cut none ls), 1 ≤ b.level ∧ b.level ≤ 6 ∧ b.IsHeadedAt (first + i) h) ↔
      HeadingStands ls i h := by
  rw [headingStands_iff]
  constructor
  · rintro ⟨b, hb, hone, -, hheaded⟩
    have hlevel : 1 ≤ h.level := hheaded.2.1 ▸ hone
    obtain ⟨k, l, hl, hk, hh⟩ := (exists_mem_number_cut hlevel).mp ⟨b, hb, hheaded⟩
    obtain rfl := Nat.add_left_cancel hk
    exact ⟨l, hl, hh⟩
  · rintro ⟨l, hl, hh⟩
    obtain ⟨hone, hsix⟩ := Heading.level_of_ofLine? (headingAt?_eq_some.mp hh).2
    obtain ⟨b, hb, hheaded⟩ := (exists_mem_number_cut hone).mpr ⟨i, l, hl, rfl, hh⟩
    exact ⟨b, hb, hheaded.2.1 ▸ hone, hheaded.2.1 ▸ hsix, hheaded⟩

/-- A block has a level if its piece has a heading, and no heading if not. -/
theorem level_ofPiece {state : Option Fence} {piece : Option Heading × List (List Char)}
    (hpiece : piece ∈ cut state ls) (first : Nat) :
    (ofPiece first piece).level = 0 ∧ (ofPiece first piece).heading = "" ∧ piece.1 = none ∨
      1 ≤ (ofPiece first piece).level ∧ (ofPiece first piece).level ≤ 6 ∧ piece.1 ≠ none := by
  have hheading := (of_mem_cut hpiece).2
  obtain ⟨_ | h, own⟩ := piece
  · exact .inl ⟨rfl, rfl, rfl⟩
  · obtain ⟨line, hline⟩ := hheading h rfl
    obtain ⟨hone, hsix⟩ := Heading.level_of_ofLine? hline
    exact .inr ⟨hone, hsix, nofun⟩

/-- All blocks but the first one have headings. -/
theorem level_of_mem_tail {b : Block} (hb : b ∈ (number first (cut none ls)).tail) :
    b.level ≠ 0 := by
  cases hcut : cut none ls with
  | nil =>
    rw [hcut] at hb
    cases hb
  | cons piece more =>
    rw [hcut] at hb
    obtain ⟨n, p, hp, rfl⟩ := exists_of_mem_number hb
    have hmem : p ∈ cut none ls := hcut ▸ List.mem_cons_of_mem piece hp
    obtain ⟨-, -, hnone⟩ | ⟨hone, -⟩ := level_ofPiece hmem n
    · exact absurd hnone (ne_none_of_cut_eq_cons hcut hp)
    · exact Nat.pos_iff_ne_zero.mp hone

/-- The first one has a heading if the first line is one. -/
theorem level_of_head? {b : Block} (hb : (number first (cut none ls)).head? = some b) :
    b.level = 0 ↔ ∀ h, ¬HeadingStands ls 0 h := by
  cases ls with
  | nil => cases hb
  | cons line rest =>
    obtain ⟨own, more, hcut⟩ := exists_cut_cons none line rest
    have hmem : (headingAt? none line, line :: own) ∈ cut none (line :: rest) :=
      hcut ▸ List.mem_cons_self
    have hstands : (∀ h, ¬HeadingStands (line :: rest) 0 h) ↔ headingAt? none line = none := by
      simp [headingStands_iff, Option.eq_none_iff_forall_ne_some, Fence.after]
    rw [hcut] at hb
    cases hb
    rw [hstands]
    obtain ⟨hzero, -, hnone⟩ | ⟨hone, -, hsome⟩ := level_ofPiece hmem first
    · exact iff_of_true hzero hnone
    · exact iff_of_false (Nat.pos_iff_ne_zero.mp hone) hsome

end Blocks

/-! ## Outlines -/

/-- What it means for blocks to divide lines that are numbered from `first` on. -/
structure IsOutline (first : Nat) (ls : List (List Char)) (blocks : List Block) : Prop where
  /-- The first block starts on the first line, -/
  startLine_eq : ∀ b, blocks.head? = some b → b.startLine = first
  /-- every other one on the line behind the block before it, -/
  isChain : blocks.IsChain fun a b => b.startLine = a.endLine + 1
  /-- and the last one ends on the last line. -/
  endLine_eq : ∀ b, blocks.getLast? = some b → b.endLine + 1 = first + ls.length
  /-- A block has a line, -/
  startLine_le : ∀ b ∈ blocks, b.startLine ≤ b.endLine
  /-- and there is none only where there are no lines. -/
  eq_nil_iff : blocks = [] ↔ ls = []
  /-- The texts are those of the lines. -/
  text_eq : blocks.flatMap (·.text.toList) = ls.flatMap (· ++ ['\n'])
  /-- The blocks with a heading start where one stands. -/
  headed_iff : ∀ i h,
    (∃ b ∈ blocks, 1 ≤ b.level ∧ b.level ≤ 6 ∧ b.IsHeadedAt (first + i) h) ↔ HeadingStands ls i h
  /-- Every block but the first has a level, -/
  level_ne_zero : ∀ b ∈ blocks.tail, b.level ≠ 0
  /-- and the first one has none exactly if no heading stands on its line. -/
  level_eq_zero_iff : ∀ b, blocks.head? = some b → (b.level = 0 ↔ ∀ h, ¬HeadingStands ls 0 h)
  /-- A block without a level has no heading, and there are six levels. -/
  level_le : ∀ b ∈ blocks, b.level = 0 ∧ b.heading = "" ∨ 1 ≤ b.level ∧ b.level ≤ 6

/-- The blocks of a text are an outline of its lines. -/
theorem isOutline_ofText (first : Nat) (text : String) :
    IsOutline first (lines text.toList) (ofText first text) := by
  rw [ofText]
  generalize lines text.toList = ls
  have hne : ∀ piece ∈ cut none ls, piece.2 ≠ [] := fun piece h => (of_mem_cut h).1
  exact {
    startLine_eq := fun b hb => startLine_of_head?_number hb
    isChain := isChain_number hne
    endLine_eq := fun b hb => by rw [endLine_of_getLast?_number hne hb, flatten_cut]
    startLine_le := by
      intro b hb
      obtain ⟨n, piece, hpiece, rfl⟩ := exists_of_mem_number hb
      have hend := endLine_ofPiece n (hne piece hpiece)
      have hlength := List.length_pos_iff.mpr (hne piece hpiece)
      have hstart : (ofPiece n piece).startLine = n := rfl
      omega
    eq_nil_iff := by
      rw [← cut_eq_nil_iff none]
      cases cut none ls <;> simp [number]
    text_eq := by rw [flatMap_text_number, flatten_cut]
    headed_iff := fun i h => exists_headed_iff
    level_ne_zero := fun b hb => level_of_mem_tail hb
    level_eq_zero_iff := fun b hb => level_of_head? hb
    level_le := by
      intro b hb
      obtain ⟨n, piece, hpiece, rfl⟩ := exists_of_mem_number hb
      obtain ⟨hzero, hheading, -⟩ | ⟨hone, hsix, -⟩ := level_ofPiece hpiece n
      · exact .inl ⟨hzero, hheading⟩
      · exact .inr ⟨hone, hsix⟩ }

end Block

end SkillAudit
