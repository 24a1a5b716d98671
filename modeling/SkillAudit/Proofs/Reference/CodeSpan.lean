import Mathlib.Data.List.Nodup
import SkillAudit.Proofs.Reference.Link
/-!
# SkillAudit.Proofs.Reference.CodeSpan

The code spans of a line and the pairs of its backticks. The texts between neighbouring backticks
are its gaps; when the backticks are paired from the left, every other gap is enclosed by a pair.
The spans are read from the gaps, too: a gap that is a word is taken, and the one behind it is
passed over. So reading and pairing part ways where an enclosed gap is no word and the one behind it
is:

* `codeSpans_eq` — the code spans of a line, from its gaps;
* `takeApart_eq_iff` — when taking apart takes every other element of the class;
* `codePaths_ofText_iff` — on which lines the references in code spans are those of the pairs.
-/

namespace SkillAudit

/-! ## Every other element -/

section Alternate

variable {α β : Type} {p : α → Bool} {l : List α}

/-- Every other element of a list, the first included. -/
def alternate : List α → List α
  | [] => []
  | [a] => [a]
  | a :: _ :: rest => a :: alternate rest

/-- Reads a list from the left: an element of the class is taken, and the one behind it is passed
    over. -/
def takeApart (p : α → Bool) : List α → List α
  | [] => []
  | [a] => if p a then [a] else []
  | a :: b :: rest => if p a then a :: takeApart p rest else takeApart p (b :: rest)

/-- Whether none of the class comes behind an element at an even place that is not of the class. -/
def KeepsStep (p : α → Bool) : List α → Prop
  | a :: b :: rest => (p a = false → p b = false) ∧ KeepsStep p rest
  | _ => True

instance decidableKeepsStep (p : α → Bool) : (l : List α) → Decidable (KeepsStep p l)
  | [] => isTrue trivial
  | [_] => isTrue trivial
  | a :: b :: rest =>
    have := decidableKeepsStep p rest
    inferInstanceAs (Decidable ((p a = false → p b = false) ∧ KeepsStep p rest))

/-- Every other element is an element. -/
theorem alternate_subset (l : List α) : alternate l ⊆ l := by
  induction l using alternate.induct with
  | case1 => exact List.Subset.refl _
  | case2 a => exact List.Subset.refl _
  | case3 a b rest ih => exact List.cons_subset_cons a (List.subset_cons_of_subset b ih)

theorem takeApart_cons (p : α → Bool) (a : α) (l : List α) :
    takeApart p (a :: l) = if p a then a :: takeApart p l.tail else takeApart p l := by
  cases l <;> rfl

/-- With an element that is taken the next one is passed over. -/
theorem takeApart_cons_of_pos {a : α} (ha : p a) (l : List α) :
    takeApart p (a :: l) = a :: takeApart p l.tail := by
  rw [takeApart_cons, if_pos ha]

/-- One that is not taken is passed over alone. -/
theorem takeApart_cons_of_neg {a : α} (ha : ¬p a) (l : List α) :
    takeApart p (a :: l) = takeApart p l := by
  rw [takeApart_cons, if_neg ha]

/-- Taking apart what is mapped is mapping what is taken apart. -/
theorem takeApart_map (p : β → Bool) (f : α → β) (l : List α) :
    takeApart p (l.map f) = (takeApart (fun a => p (f a)) l).map f := by
  induction l using takeApart.induct fun a => p (f a) with
  | case1 => rfl
  | case2 a ha | case3 a ha => simp [takeApart, ha]
  | case4 a b rest ha ih => simpa [takeApart, ha] using ih
  | case5 a b rest ha ih => simpa [takeApart_cons_of_neg, ha] using ih

theorem keepsStep_map (p : β → Bool) (f : α → β) (l : List α) :
    KeepsStep p (l.map f) ↔ KeepsStep (fun a => p (f a)) l := by
  induction l using alternate.induct with
  | case1 => exact Iff.rfl
  | case2 a => exact Iff.rfl
  | case3 a b rest ih => exact and_congr_right fun _ => ih

/-- Exactly where the step is kept, every other element of the class is taken. Otherwise one is
    taken that stands between two of these. -/
theorem takeApart_eq_iff (hl : l.Nodup) :
    takeApart p l = (alternate l).filter p ↔ KeepsStep p l := by
  induction l using alternate.induct with
  | case1 => exact iff_of_true rfl trivial
  | case2 a => exact iff_of_true (by cases h : p a <;> simp [takeApart, alternate, h]) trivial
  | case3 a b rest ih =>
    obtain ⟨hb, hrest⟩ := List.nodup_cons.mp hl.of_cons
    rw [alternate, KeepsStep, ← ih hrest]
    by_cases ha : p a
    · rw [takeApart_cons_of_pos ha, List.filter_cons_of_pos ha, List.tail_cons,
        List.cons_inj_right]
      simp [ha]
    · rw [takeApart_cons_of_neg ha, List.filter_cons_of_neg ha]
      by_cases hpb : p b
      · have hne : takeApart p (b :: rest) ≠ (alternate rest).filter p := by
          rw [takeApart_cons_of_pos hpb]
          intro h
          have hmem : b ∈ (alternate rest).filter p := h ▸ List.mem_cons_self
          exact hb (alternate_subset rest (List.mem_filter.mp hmem).1)
        simp [ha, hpb, hne]
      · rw [takeApart_cons_of_neg hpb]
        simp [hpb]

end Alternate

/-! ## Gaps -/

namespace Text

variable {sep : Char} {a g s : List Char}

/-- The pieces of a text with a separator behind them. -/
def closedPieces (sep : Char) (s : List Char) : List (List Char) := (splitOn sep s).dropLast

/-- The pieces with a separator in front of them, too. -/
def gaps (sep : Char) (s : List Char) : List (List Char) := (closedPieces sep s).tail

/-- Without a separator no piece is closed. -/
theorem closedPieces_of_not_mem (h : sep ∉ s) : closedPieces sep s = [] := by
  rw [closedPieces, splitOn_of_not_mem h, List.dropLast_singleton]

/-- The first piece is closed by the first separator. -/
theorem closedPieces_append (h : sep ∉ g) (s : List Char) :
    closedPieces sep (g ++ sep :: s) = g :: closedPieces sep s := by
  rw [closedPieces, splitOn_append, splitOn_of_not_mem h, List.singleton_append,
    List.dropLast_cons_of_ne_nil (splitOn_ne_nil sep s), ← closedPieces]

/-- Without a separator there is no gap. -/
theorem gaps_of_not_mem (h : sep ∉ s) : gaps sep s = [] := by
  rw [gaps, closedPieces_of_not_mem h, List.tail_nil]

/-- Behind the first separator every closed piece is a gap. -/
theorem gaps_append (h : sep ∉ a) (s : List Char) :
    gaps sep (a ++ sep :: s) = closedPieces sep s := by
  rw [gaps, closedPieces_append h, List.tail_cons]

theorem gaps_cons (sep : Char) (s : List Char) : gaps sep (sep :: s) = closedPieces sep s :=
  gaps_append List.not_mem_nil s

end Text

namespace Mention

open Text

variable {a g s : List Char}

/-! ## Reading code spans -/

/-- A backtick that nothing answers opens no code span. -/
theorem codeSpanAt?_of_not_mem (hs : '`' ∉ s) : codeSpanAt? ('`' :: s) = none := by
  refine Option.eq_none_iff_forall_ne_some.mpr fun span h => ?_
  obtain ⟨-, -, -, t, ht⟩ := codeSpanAt?_eq_some.mp h
  exact hs (by simp [(List.cons.inj ht).2])

/-- A span reaches to the next backtick, if what lies between is a word. -/
theorem codeSpanAt?_append (hg : '`' ∉ g) (s : List Char) :
    codeSpanAt? ('`' :: (g ++ '`' :: s)) = if isWord g then some (g, g.length + 2) else none := by
  split
  · next hword => exact codeSpanAt?_eq_some.mpr ⟨hword, hg, rfl, s, rfl⟩
  · next hword =>
    refine Option.eq_none_iff_forall_ne_some.mpr fun ⟨w, n⟩ h => ?_
    obtain ⟨hw, htick, -, t, ht⟩ := codeSpanAt?_eq_some.mp h
    have hcut : cutFirst? '`' (g ++ '`' :: s) = some (g, s) := cutFirst?_eq_some.mpr ⟨rfl, hg⟩
    have hcut' : cutFirst? '`' (g ++ '`' :: s) = some (w, t) :=
      cutFirst?_eq_some.mpr ⟨(List.cons.inj ht).2, htick⟩
    rw [hcut, Option.some.injEq, Prod.mk.injEq] at hcut'
    exact hword (hcut'.1 ▸ hw)

/-- A backtick that starts no span is passed over. -/
theorem codeSpans_cons_of_none (h : codeSpanAt? ('`' :: s) = none) :
    codeSpans ('`' :: s) = codeSpans s := by
  refine findAll_append_of_none (a := ['`']) fun t ht hta => ?_
  obtain rfl := (List.suffix_cons_iff.mp hta).resolve_right fun h => ht (List.suffix_nil.mp h)
  exact h

/-- Nor is there one behind it. -/
theorem codeSpans_cons_of_not_mem (hs : '`' ∉ s) : codeSpans ('`' :: s) = [] := by
  rw [codeSpans_cons_of_none (codeSpanAt?_of_not_mem hs), codeSpans_of_not_mem hs]

/-- Reading goes on behind a span, and at the closing backtick of what is none. -/
theorem codeSpans_cons_append (hg : '`' ∉ g) (s : List Char) :
    codeSpans ('`' :: (g ++ '`' :: s)) =
      if isWord g then g :: codeSpans s else codeSpans ('`' :: s) := by
  have hread := codeSpanAt?_append hg s
  split
  · next hword =>
    have hspan : '`' :: (g ++ '`' :: s) = ('`' :: (g ++ ['`'])) ++ s := by simp
    rw [if_pos hword, hspan] at hread
    rw [hspan]
    exact findAll_append_of_some (List.cons_ne_nil _ _) (by simpa using hread)
  · next hword =>
    rw [if_neg hword] at hread
    rw [codeSpans_cons_of_none hread, codeSpans_append hg]

/-- The code spans of a line are taken apart from its gaps. -/
theorem codeSpans_eq (s : List Char) : codeSpans s = takeApart isWord (gaps '`' s) := by
  induction hn : s.length using Nat.strongRecOn generalizing s with
  | ind n ih =>
    by_cases hs : '`' ∈ s
    · obtain ⟨a, t, rfl, ha⟩ := List.eq_append_cons_of_mem hs
      rw [codeSpans_append ha, gaps_append ha]
      by_cases ht : '`' ∈ t
      · obtain ⟨g, t, rfl, hg⟩ := List.eq_append_cons_of_mem ht
        rw [codeSpans_cons_append hg, closedPieces_append hg, takeApart_cons, ← gaps,
          ← gaps_cons, ih _ _ t rfl, ih _ _ ('`' :: t) rfl]
        all_goals
          subst hn
          simp +arith
      · rw [codeSpans_cons_of_not_mem ht, closedPieces_of_not_mem ht, takeApart]
    · rw [codeSpans_of_not_mem hs, gaps_of_not_mem hs, takeApart]

/-! ## Pairs of backticks -/

/-- The gaps of a line that are read as code spans, with their places. -/
def readGaps (line : List Char) : List (List Char × Nat) :=
  takeApart (fun g => isWord g.1) (gaps '`' line).zipIdx

/-- The gaps of a line that are enclosed by a pair when its backticks are paired from the left, with
    their places. -/
def enclosed (line : List Char) : List (List Char × Nat) := alternate (gaps '`' line).zipIdx

/-- Whether, behind every enclosed gap that is not a word, what lies up to the next pair is not a
    word either. -/
def IsAligned (line : List Char) : Prop := KeepsStep isWord (gaps '`' line)

instance (line : List Char) : Decidable (IsAligned line) :=
  inferInstanceAs (Decidable (KeepsStep _ _))

/-- The code spans are the gaps that are read. -/
theorem codeSpans_eq_map (line : List Char) : codeSpans line = (readGaps line).map Prod.fst := by
  rw [readGaps, ← takeApart_map, List.zipIdx_map_fst, codeSpans_eq]

/-- The gaps that are read are the enclosed ones without white space just if the line is aligned. -/
theorem readGaps_eq_iff (line : List Char) :
    readGaps line = (enclosed line).filter (fun g => isWord g.1) ↔ IsAligned line := by
  have hnodup : (gaps '`' line).zipIdx.Nodup := by
    refine List.Nodup.of_map Prod.snd ?_
    rw [List.zipIdx_map_snd]
    exact List.nodup_range'
  have hmap := keepsStep_map isWord Prod.fst (gaps '`' line).zipIdx
  rw [List.zipIdx_map_fst] at hmap
  rw [IsAligned, hmap]
  exact takeApart_eq_iff hnodup

/-- What looks like a path is a word. -/
theorem isWord_of_looksLikePath (h : Target.looksLikePath g) : isWord g := by
  obtain ⟨hne, -, hchars⟩ := Target.of_looksLikePath h
  have hblank : ∀ c ∈ g, isBlank c = false := fun c hc =>
    Target.isBlank_eq_false_of_isPathChar (hchars c hc)
  simpa [isWord, hne] using hblank

/-! ## References in code spans -/

/-- The reference to a path in code, on a line. -/
def pathMention (number : Nat) (path : List Char) : Mention :=
  ⟨number, String.ofList (dropRepeated ['.', '/'] path), .codePath⟩

/-- The references of a text to paths in code, on one of its lines. -/
def codePaths (first : Nat) (text : String) (number : Nat) : List Mention :=
  (ofText first text).filter fun m => m.line = number ∧ m.kind = .codePath

/-- The references of code spans are those of the spans that look like paths. -/
theorem filterMap_ofCodeSpan? (number : Nat) (spans : List (List Char)) :
    spans.filterMap (ofCodeSpan? number) =
      (spans.filter Target.looksLikePath).map (pathMention number) := by
  rw [← List.filterMap_eq_map', List.filterMap_filter]
  rfl

/-- Of the references of a line of prose, those to paths in code are in its code spans. -/
theorem filter_ofProse (number : Nat) (line : List Char) :
    (ofProse number line).filter (fun m => m.kind = .codePath) =
      (codeSpans line).filterMap (ofCodeSpan? number) := by
  have hlinks : ∀ m ∈ (linkTargets line).filterMap (ofLink? number), m.kind ≠ .codePath := by
    intro m hm
    obtain ⟨target, -, htarget⟩ := List.mem_filterMap.mp hm
    unfold ofLink? at htarget
    split at htarget
    · cases htarget
    · cases htarget
      by_cases hscheme : Target.hasScheme target <;> simp [hscheme]
  have hspans : ∀ m ∈ (codeSpans line).filterMap (ofCodeSpan? number), m.kind = .codePath := by
    intro m hm
    obtain ⟨span, -, hspan⟩ := List.mem_filterMap.mp hm
    exact (ofCodeSpan?_eq_some hspan).2.2
  rw [ofProse, List.filter_append, List.filter_eq_nil_iff.mpr (by simpa using hlinks),
    List.filter_eq_self.mpr (by simpa using hspans), List.nil_append]

/-- The references to paths in code on a line of prose are those of the gaps that are read. -/
theorem codePaths_eq {text : String} {i : Nat} {line : List Char}
    (hline : (lines text.toList)[i]? = some line)
    (hplace : Fence.place (Fence.after none ((lines text.toList).take i)) line = .outside)
    (first : Nat) :
    codePaths first text (first + i) =
      ((readGaps line).filter fun g => Target.looksLikePath g.1).map
        fun g => pathMention (first + i) g.1 := by
  obtain ⟨hi, hget⟩ := List.getElem?_eq_some_iff.mp hline
  have hlines : lines text.toList =
      (lines text.toList).take i ++ line :: (lines text.toList).drop (i + 1) := by
    rw [← hget, ← List.drop_eq_getElem_cons hi, List.take_append_drop]
  have hlength : ((lines text.toList).take i).length = i := List.length_take_of_le (Nat.le_of_lt hi)
  have honLine : (ofText first text).filter (fun m => m.line = first + i) =
      ofProse (first + i) line := by
    have hfilter := (filter_ofLines none first ((lines text.toList).take i) line
      ((lines text.toList).drop (i + 1))).2
    rwa [← hlines, hlength, hplace] at hfilter
  have hcodePaths : codePaths first text (first + i) =
      ((ofText first text).filter fun m => m.line = first + i).filter
        fun m => m.kind = .codePath := by
    rw [codePaths, List.filter_filter]
    congr 1
    funext m
    rw [Bool.decide_and, Bool.and_comm]
  rw [hcodePaths, honLine, filter_ofProse, codeSpans_eq_map, filterMap_ofCodeSpan?, List.filter_map,
    List.map_map]
  rfl

/-- On a line of prose the references to paths in code are those of the gaps that are read. Exactly
    if the line is aligned these gaps are the words that its pairs enclose; the references are then
    those of the enclosed paths. -/
theorem codePaths_ofText_iff {text : String} {i : Nat} {line : List Char}
    (hline : (lines text.toList)[i]? = some line)
    (hplace : Fence.place (Fence.after none ((lines text.toList).take i)) line = .outside)
    (first : Nat) :
    codePaths first text (first + i) =
        ((readGaps line).filter fun g => Target.looksLikePath g.1).map
          (fun g => pathMention (first + i) g.1) ∧
      (readGaps line = (enclosed line).filter (fun g => isWord g.1) ↔ IsAligned line) ∧
      (IsAligned line →
        codePaths first text (first + i) =
          ((enclosed line).filter fun g => Target.looksLikePath g.1).map
            fun g => pathMention (first + i) g.1) := by
  have hread := codePaths_eq hline hplace first
  refine ⟨hread, readGaps_eq_iff line, fun haligned => ?_⟩
  rw [hread, (readGaps_eq_iff line).mpr haligned, List.filter_filter]
  congr 2
  funext g
  cases hpath : Target.looksLikePath g.1
  · rfl
  · exact isWord_of_looksLikePath hpath

/-- Fenced lines, and a line of prose with a span that holds a space in front of a path. -/
def settingText : String :=
  "\x60\x60\x60\nx\n\x60\x60\x60\nSet \x60some value\x60 in \x60./config.yaml\x60.\n"

/-- The line of prose. -/
def settingLine : List Char := "Set \x60some value\x60 in \x60./config.yaml\x60.".toList

/-- A span with white space is passed over, and the path behind it is found. -/
theorem codePaths_settingText :
    IsAligned settingLine ∧
      enclosed settingLine = [("some value".toList, 0), ("./config.yaml".toList, 2)] ∧
      codePaths 1 settingText 4 = [⟨4, "config.yaml", .codePath⟩] := by
  have haligned : IsAligned settingLine := by decide +kernel
  have hline : (lines settingText.toList)[3]? = some settingLine := by decide +kernel
  have hplace : Fence.place (Fence.after none ((lines settingText.toList).take 3)) settingLine =
      .outside := by decide +kernel
  refine ⟨haligned, by decide +kernel, ?_⟩
  rw [(codePaths_ofText_iff hline hplace 1).2.2 haligned]
  decide +kernel

/-- A path right behind a span that holds a space is not read, and one between two such spans is
    read although no pair encloses it. -/
theorem codePaths_unaligned :
    (enclosed "Set \x60some value\x60/\x60config.yaml\x60 first.".toList =
        [("some value".toList, 0), ("config.yaml".toList, 2)] ∧
      codePaths 1 "Set \x60some value\x60/\x60config.yaml\x60 first.\n" 1 = []) ∧
    (enclosed "Set \x60a b\x60x/y.md\x60c d\x60 first.".toList =
        [("a b".toList, 0), ("c d".toList, 2)] ∧
      codePaths 1 "Set \x60a b\x60x/y.md\x60c d\x60 first.\n" 1 =
        [⟨1, "x/y.md", .codePath⟩]) := by
  decide +kernel

end Mention

end SkillAudit
