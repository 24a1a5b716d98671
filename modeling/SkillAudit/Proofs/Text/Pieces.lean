import SkillAudit.Text.Line
/-!
# SkillAudit.Proofs.Text.Pieces

What is cut out of a text stands in it: trimming and removing repeated beginnings leave a part of
the text, words are parts of it, and what a search finds is found at the start of one of its ends.
The pieces of a text are those in front of a separator and those behind it, and one of them is empty
where a separator has nothing on one of its sides. One more character at the end of a text is cut
off with what it belongs to.
-/

namespace SkillAudit.Text

/-! ## The ends of a text -/

/-- Trimming the start of a text leaves its end. -/
theorem trimStart_suffix (s : List Char) : trimStart s <:+ s := List.dropWhile_suffix _

/-- What follows a beginning is the end of the text. -/
theorem after?_suffix {start s r : List Char} (h : after? start s = some r) : r <:+ s :=
  ⟨start, (after?_eq_some.mp h).symm⟩

/-- Dropping from the end of a text leaves its beginning. -/
theorem prefix_dropEndWhile (p : Char → Bool) (s : List Char) : dropEndWhile p s <+: s := by
  rw [← List.reverse_suffix, dropEndWhile, List.reverse_reverse]
  exact List.dropWhile_suffix p

/-- Only characters of the class are dropped. -/
theorem exists_dropEndWhile_append (p : Char → Bool) (s : List Char) :
    ∃ tail, s = dropEndWhile p s ++ tail ∧ ∀ c ∈ tail, p c := by
  refine ⟨(s.reverse.takeWhile p).reverse, ?_, fun c hc => ?_⟩
  · rw [dropEndWhile, ← List.reverse_append, List.takeWhile_append_dropWhile, List.reverse_reverse]
  · exact List.all_eq_true.mp List.all_takeWhile c (List.mem_reverse.mp hc)

/-- A last character of the class is dropped. -/
theorem dropEndWhile_concat {p : Char → Bool} {c : Char} (hc : p c) (s : List Char) :
    dropEndWhile p (s ++ [c]) = dropEndWhile p s := by
  rw [dropEndWhile, List.reverse_concat, List.dropWhile_cons_of_pos hc, dropEndWhile]

/-- Stripping both ends of a text leaves what is between them. -/
theorem infix_stripWhile (p : Char → Bool) (s : List Char) : stripWhile p s <:+: s :=
  (prefix_dropEndWhile p _).isInfix.trans (List.dropWhile_suffix p).isInfix

/-- Only characters of the class are stripped. -/
theorem mem_stripWhile_or {p : Char → Bool} {s : List Char} {c : Char} (h : c ∈ s) :
    c ∈ stripWhile p s ∨ p c := by
  have hdrop {s : List Char} (h : c ∈ s) : c ∈ s.dropWhile p ∨ p c := by
    rw [← List.takeWhile_append_dropWhile (p := p) (l := s), List.mem_append] at h
    exact h.symm.imp_right (List.all_eq_true.mp List.all_takeWhile c)
  obtain h | h := hdrop h
  · rw [stripWhile, dropEndWhile, List.mem_reverse]
    exact hdrop (List.mem_reverse.mpr h)
  · exact .inr h

/-- Nothing is left of a text of the class. -/
theorem stripWhile_eq_nil {p : Char → Bool} {s : List Char} (h : ∀ c ∈ s, p c) :
    stripWhile p s = [] := by
  rw [stripWhile, ← List.append_nil s, List.dropWhile_append_of_pos h]
  rfl

/-- What is left does not end with a character of the class, -/
theorem getLast?_dropEndWhile {p : Char → Bool} {s : List Char} {c : Char}
    (h : (dropEndWhile p s).getLast? = some c) : p c = false := by
  have hnot := List.head?_dropWhile_not p s.reverse
  rw [dropEndWhile, List.getLast?_reverse] at h
  rw [h] at hnot
  exact hnot

/-- and does not start with one either. -/
theorem head?_stripWhile {p : Char → Bool} {s : List Char} {c : Char}
    (h : (stripWhile p s).head? = some c) : p c = false := by
  have hnot := List.head?_dropWhile_not p s
  obtain ⟨tail, htail⟩ := prefix_dropEndWhile p (s.dropWhile p)
  have hhead : (s.dropWhile p).head? = some c := by
    rw [← htail, List.head?_append, ← stripWhile, h]
    rfl
  rw [hhead] at hnot
  exact hnot

/-- Dropping repeated beginnings leaves the end. -/
theorem dropRepeated_suffix (start s : List Char) : dropRepeated start s <:+ s := by
  have hgo (n : Nat) (s : List Char) : dropRepeated.go start n s <:+ s := by
    induction n generalizing s with
    | zero => exact List.suffix_refl s
    | succ n ih =>
      rw [dropRepeated.go]
      split
      · next r h =>
        split
        · exact List.suffix_refl s
        · exact (ih r).trans (after?_suffix h)
      · exact List.suffix_refl s
  exact hgo s.length s

/-! ## Words -/

/-- A word being read is a part of what has been read of it and what is left. -/
theorem infix_of_mem_words_go {s current w : List Char} (h : w ∈ words.go s current) :
    w <:+: current.reverse ++ s := by
  induction s generalizing current with
  | nil =>
    rw [words.go] at h
    split at h
    · simp at h
    · obtain rfl := List.mem_singleton.mp h
      simp
  | cons c s ih =>
    have hrest {w : List Char} (hw : w <:+: s) : w <:+: current.reverse ++ c :: s :=
      (hw.trans (List.suffix_cons c s).isInfix).trans (List.suffix_append _ _).isInfix
    rw [words.go] at h
    split at h
    · split at h
      · exact hrest (by simpa using ih h)
      · obtain rfl | h := List.mem_cons.mp h
        · exact (List.prefix_append _ _).isInfix
        · exact hrest (by simpa using ih h)
    · simpa using ih h

/-- Words are parts of the text. -/
theorem infix_of_mem_words {s w : List Char} (h : w ∈ words s) : w <:+: s := by
  simpa using infix_of_mem_words_go h

/-! ## Searching -/

/-- What is searched for is found exactly if it is a part of the text. -/
theorem contains_iff_infix {needle s : List Char} : contains needle s ↔ needle <:+: s := by
  induction s with
  | nil =>
    rw [contains, findFirst?]
    split
    · next hempty => simp [List.isEmpty_iff.mp hempty]
    · next hempty => simpa using hempty
  | cons c s ih =>
    rw [List.infix_cons_iff, ← ih, ← List.isPrefixOf_iff_prefix, contains, contains, findFirst?]
    split
    · next h => simp [h]
    · next h => simp [h]

section Search

variable {α : Type} {take : List Char → Option (α × Nat)}

/-- A value among the pieces is one that `take` gives at an end of the text. -/
theorem take_of_mem_pieces {n : Nat} {s : List Char} {a : α} (h : .inl a ∈ pieces take n s) :
    ∃ t m, t <:+ s ∧ take t = some (a, m) := by
  induction s generalizing n with
  | nil => simp [pieces] at h
  | cons c s ih =>
    have hrest {n : Nat} (h : .inl a ∈ pieces take n s) :
        ∃ t m, t <:+ c :: s ∧ take t = some (a, m) := by
      obtain ⟨t, m, ht, ha⟩ := ih h
      exact ⟨t, m, ht.trans (List.suffix_cons c s), ha⟩
    cases n with
    | succ n => exact hrest (by simpa [pieces] using h)
    | zero =>
      rw [pieces] at h
      split at h
      · next b m hb =>
        obtain hab | h := List.mem_cons.mp h
        · cases hab
          exact ⟨c :: s, m, List.suffix_refl _, hb⟩
        · exact hrest h
      · exact hrest (by simpa using h)

/-- What is found starts somewhere in the text. -/
theorem take_of_mem_findAll {s : List Char} {a : α} (h : a ∈ findAll take s) :
    ∃ t m, t <:+ s ∧ take t = some (a, m) := by
  obtain ⟨piece, hpiece, ha⟩ := List.mem_filterMap.mp h
  cases piece with
  | inl b =>
    cases ha
    exact take_of_mem_pieces hpiece
  | inr c => cases ha

/-- Behind what the last value covers reading starts afresh. -/
theorem pieces_append (a b : List Char) : pieces take a.length (a ++ b) = pieces take 0 b := by
  induction a with
  | nil => rfl
  | cons c a ih => rw [List.length_cons, List.cons_append, pieces, ih]

/-- A value found at the start is followed by those behind what it covers. -/
theorem findAll_append_of_some {a b : List Char} {x : α} (ha : a ≠ [])
    (h : take (a ++ b) = some (x, a.length)) : findAll take (a ++ b) = x :: findAll take b := by
  obtain ⟨c, a, rfl⟩ := List.exists_cons_of_ne_nil ha
  have hrest : pieces take ((c :: a).length - 1) (a ++ b) = pieces take 0 b := pieces_append a b
  rw [List.cons_append] at h ⊢
  simp only [findAll, pieces, h, hrest, List.filterMap_cons]

/-- A value that covers the whole text is the only one. -/
theorem findAll_eq_singleton {c : Char} {s : List Char} {a : α}
    (h : take (c :: s) = some (a, (c :: s).length)) : findAll take (c :: s) = [a] := by
  have hcover : take (c :: s ++ []) = some (a, (c :: s).length) := by rwa [List.append_nil]
  have hfound := findAll_append_of_some (List.cons_ne_nil c s) hcover
  rwa [List.append_nil] at hfound

/-- Where nothing is found, the values are those behind. -/
theorem findAll_append_of_none {a b : List Char} (h : ∀ t, t ≠ [] → t <:+ a → take (t ++ b) = none) :
    findAll take (a ++ b) = findAll take b := by
  induction a with
  | nil => rfl
  | cons c a ih =>
    have hhere : take (c :: (a ++ b)) = none := h (c :: a) nofun (List.suffix_refl _)
    have hrest := ih fun t hne ht => h t hne (ht.trans (List.suffix_cons c a))
    simp only [findAll] at hrest ⊢
    rw [List.cons_append, pieces, hhere, List.filterMap_cons_none rfl, hrest]

end Search

/-- Replacing keeps what stands in front of the first place where something is found. -/
theorem replaceAll_append {take : List Char → Option (List Char × Nat)} {a b : List Char}
    (h : ∀ t, t ≠ [] → t <:+ a → take (t ++ b) = none) :
    replaceAll take (a ++ b) = a ++ replaceAll take b := by
  induction a with
  | nil => rfl
  | cons c a ih =>
    have hhere : take (c :: (a ++ b)) = none := h (c :: a) nofun (List.suffix_refl _)
    have hrest := ih fun t hne ht => h t hne (ht.trans (List.suffix_cons c a))
    simp only [replaceAll] at hrest ⊢
    rw [List.cons_append, pieces, hhere, List.flatMap_cons, hrest, List.singleton_append,
      List.cons_append]

/-- A fixed text is found only where its first character stands. -/
theorem literal_eq_none {α : Type} {a c : Char} {needle s : List Char} {value : α} (h : a ≠ c) :
    literal (a :: needle) value (c :: s) = none := by
  simp [literal, h]

/-! ## Cuts -/

/-- The first separator is the one with none in front of it. -/
theorem cutFirst?_eq_some {sep : Char} {s a b : List Char} :
    cutFirst? sep s = some (a, b) ↔ s = a ++ sep :: b ∧ sep ∉ a := by
  induction s generalizing a with
  | nil => simp [cutFirst?]
  | cons c s ih =>
    rw [cutFirst?]
    split
    · next hc =>
      subst hc
      cases a with
      | nil => simp [eq_comm]
      | cons d a => simp +contextual [eq_comm]
    · next hc =>
      cases a with
      | nil => simp [hc]
      | cons d a =>
        simp only [Option.map_eq_some_iff, Prod.exists, Prod.mk.injEq, List.cons.injEq,
          List.cons_append, List.mem_cons, not_or]
        constructor
        · rintro ⟨a, b, hcut, ⟨rfl, rfl⟩, rfl⟩
          obtain ⟨hs, ha⟩ := ih.mp hcut
          exact ⟨⟨rfl, hs⟩, Ne.symm hc, ha⟩
        · rintro ⟨⟨rfl, hs⟩, -, ha⟩
          exact ⟨a, b, ih.mpr ⟨hs, ha⟩, ⟨rfl, rfl⟩, rfl⟩

/-- There is a piece even in an empty text. -/
theorem splitOn_ne_nil (sep : Char) (s : List Char) : splitOn sep s ≠ [] := by
  cases s with
  | nil => simp [splitOn]
  | cons c s =>
    rw [splitOn]
    split
    · simp
    · split <;> simp

/-- A separator at the start ends an empty piece. -/
theorem splitOn_cons_self (sep : Char) (s : List Char) :
    splitOn sep (sep :: s) = [] :: splitOn sep s := if_pos rfl

/-- Any other character joins the first piece. -/
theorem splitOn_cons_of_ne {sep c : Char} (h : c ≠ sep) (s : List Char) :
    splitOn sep (c :: s) = (splitOn sep s).modifyHead (c :: ·) := by
  obtain ⟨p, ps, hsplit⟩ := List.exists_cons_of_ne_nil (splitOn_ne_nil sep s)
  rw [splitOn, if_neg h, hsplit]
  rfl

/-- A separator ends a piece and starts another one. -/
theorem splitOn_append (sep : Char) (a b : List Char) :
    splitOn sep (a ++ sep :: b) = splitOn sep a ++ splitOn sep b := by
  induction a with
  | nil => exact splitOn_cons_self sep b
  | cons c a ih =>
    by_cases hc : c = sep
    · rw [hc, List.cons_append, splitOn_cons_self, splitOn_cons_self, ih, List.cons_append]
    · obtain ⟨p, ps, hsplit⟩ := List.exists_cons_of_ne_nil (splitOn_ne_nil sep a)
      rw [List.cons_append, splitOn_cons_of_ne hc, splitOn_cons_of_ne hc, ih, hsplit]
      rfl

/-- Without a separator the text is the only piece. -/
theorem splitOn_of_not_mem {sep : Char} {s : List Char} (h : sep ∉ s) : splitOn sep s = [s] := by
  induction s with
  | nil => rfl
  | cons c s ih =>
    obtain ⟨hc, hs⟩ := List.ne_and_not_mem_of_not_mem_cons h
    rw [splitOn_cons_of_ne hc.symm, ih hs]
    rfl

/-- The pieces are those that the library cuts a list into. -/
theorem splitOn_eq (sep : Char) (s : List Char) : splitOn sep s = s.splitOn sep := by
  induction s with
  | nil => rfl
  | cons c s ih =>
    rw [List.splitOn_cons_eq_if_modifyHead, ← ih]
    by_cases hc : c = sep
    · rw [hc, splitOn_cons_self, if_pos (beq_self_eq_true sep)]
    · rw [splitOn_cons_of_ne hc, if_neg (by simpa using hc)]

/-- Without its separators a text is its pieces, one behind the other. -/
theorem flatten_splitOn (sep : Char) (s : List Char) :
    (splitOn sep s).flatten = s.filter fun c => c != sep := by
  induction s with
  | nil => rfl
  | cons c s ih =>
    by_cases hc : c = sep
    · rw [hc, splitOn_cons_self, List.flatten_cons, List.nil_append, ih,
        List.filter_cons_of_neg (by simp)]
    · obtain ⟨p, ps, hsplit⟩ := List.exists_cons_of_ne_nil (splitOn_ne_nil sep s)
      rw [List.filter_cons_of_pos (by simpa using hc), ← ih, splitOn_cons_of_ne hc, hsplit]
      rfl

/-- No piece holds the separator. -/
theorem not_mem_of_mem_splitOn {sep : Char} {s p : List Char} (h : p ∈ splitOn sep s) :
    sep ∉ p := by
  intro hmem
  have hflatten : sep ∈ (splitOn sep s).flatten := List.mem_flatten_of_mem h hmem
  rw [flatten_splitOn] at hflatten
  simp at hflatten

/-- The first piece is empty exactly if the text is, or starts with a separator. -/
theorem head?_splitOn_eq_some_nil_iff {sep : Char} {s : List Char} :
    (splitOn sep s).head? = some [] ↔ s = [] ∨ s.head? = some sep := by
  cases s with
  | nil => simp [splitOn]
  | cons c s =>
    by_cases hc : c = sep
    · simp [hc, splitOn_cons_self]
    · simp [hc, splitOn_cons_of_ne hc]

/-- Another piece is empty exactly if the text ends with a separator, or two of them stand side by
    side. -/
theorem nil_mem_tail_splitOn_iff {sep : Char} {s : List Char} :
    [] ∈ (splitOn sep s).tail ↔ s.getLast? = some sep ∨ [sep, sep] <:+: s := by
  induction s with
  | nil => simp [splitOn]
  | cons c s ih =>
    have hlast : (c :: s).getLast? = some sep ↔ (s = [] ∧ c = sep) ∨ s.getLast? = some sep := by
      cases s <;> simp
    have hpair : [sep, sep] <:+: c :: s ↔
        (c = sep ∧ s.head? = some sep) ∨ [sep, sep] <:+: s := by
      rw [List.infix_cons_iff, List.cons_prefix_cons, eq_comm (b := c)]
      cases s with
      | nil => simp
      | cons d s => simp [eq_comm (b := d)]
    by_cases hc : c = sep
    · -- what was the first piece is another one now
      subst hc
      obtain ⟨p, ps, hsplit⟩ := List.exists_cons_of_ne_nil (splitOn_ne_nil c s)
      have hfirst : [] = p ↔ s = [] ∨ s.head? = some c := by
        rw [← head?_splitOn_eq_some_nil_iff, hsplit, List.head?_cons, Option.some_inj, eq_comm]
      rw [hsplit, List.tail_cons] at ih
      rw [splitOn_cons_self, List.tail_cons, hsplit, List.mem_cons, hfirst, ih, hlast, hpair]
      simp only [and_true, true_and, or_or_or_comm]
    · rw [splitOn_cons_of_ne hc, List.tail_modifyHead, ih, hlast, hpair]
      simp only [hc, and_false, false_and, false_or]

/-- There is an empty piece exactly if the text is empty, or a separator has nothing on one of its
    sides: at the start, at the end, or beside another one. -/
theorem nil_mem_splitOn_iff {sep : Char} {s : List Char} :
    [] ∈ splitOn sep s ↔
      s = [] ∨ s.head? = some sep ∨ s.getLast? = some sep ∨ [sep, sep] <:+: s := by
  have hmem : [] ∈ splitOn sep s ↔
      (splitOn sep s).head? = some [] ∨ [] ∈ (splitOn sep s).tail := by
    cases splitOn sep s <;> simp [eq_comm]
  rw [hmem, head?_splitOn_eq_some_nil_iff, nil_mem_tail_splitOn_iff, or_assoc]

/-! ## A last character -/

/-- A character outside the class ends the run in front of it. -/
theorem takeWhile_concat {p : Char → Bool} {c : Char} (hc : p c = false) (s : List Char) :
    (s ++ [c]).takeWhile p = s.takeWhile p := by
  induction s with
  | nil => simp [hc]
  | cons d s ih =>
    rw [List.cons_append, List.takeWhile_cons, List.takeWhile_cons, ih]

/-- A character that is not dropped stays at the end. -/
theorem dropWhile_concat {p : Char → Bool} {c : Char} (hc : p c = false) (s : List Char) :
    (s ++ [c]).dropWhile p = s.dropWhile p ++ [c] := by
  induction s with
  | nil => simp [hc]
  | cons d s ih =>
    rw [List.cons_append, List.dropWhile_cons, List.dropWhile_cons, ih]
    split <;> rfl

/-- A character of the class goes with the run in front of it if that reaches the end. -/
theorem dropWhile_concat_of_pos {p : Char → Bool} {c : Char} (hc : p c = true) (s : List Char) :
    (s ++ [c]).dropWhile p = if s.dropWhile p = [] then [] else s.dropWhile p ++ [c] := by
  rw [List.dropWhile_append, List.dropWhile_cons_of_pos hc, List.dropWhile_nil]
  simp only [List.isEmpty_iff]

/-- A beginning without the last character ends in front of it. -/
theorem after?_concat {start : List Char} {c : Char} (hc : c ∉ start) (s : List Char) :
    after? start (s ++ [c]) = (after? start s).map (· ++ [c]) := by
  induction start generalizing s with
  | nil => rfl
  | cons a start ih =>
    obtain ⟨hac, hstart⟩ := not_or.mp (fun h => hc (List.mem_cons.mpr h))
    cases s with
    | nil => simp [after?, Ne.symm hac]
    | cons d s =>
      rw [List.cons_append, after?, after?, ih hstart]
      split <;> rfl

/-- White space at the end adds no word. -/
theorem words_concat {c : Char} (hc : isBlank c = true) (s : List Char) :
    words (s ++ [c]) = words s := by
  have hgo (s current : List Char) : words.go (s ++ [c]) current = words.go s current := by
    induction s generalizing current with
    | nil =>
      simp only [List.nil_append, words.go, hc, if_true, List.isEmpty_nil]
    | cons d s ih => simp only [List.cons_append, words.go, ih]
  exact hgo s []

/-- A last character adds nothing that is found if nothing starts at it and no find changes in front
    of it. -/
theorem findAll_concat {α : Type} {take : List Char → Option (α × Nat)} {c : Char}
    (hlast : take [c] = none) (htake : ∀ d s, take (d :: (s ++ [c])) = take (d :: s))
    (s : List Char) : findAll take (s ++ [c]) = findAll take s := by
  have hpieces (n : Nat) (s : List Char) :
      (pieces take n (s ++ [c])).filterMap Sum.getLeft? =
        (pieces take n s).filterMap Sum.getLeft? := by
    induction s generalizing n with
    | nil => cases n <;> simp [pieces, hlast]
    | cons d s ih =>
      cases n with
      | succ n => exact ih n
      | zero =>
        rw [List.cons_append, pieces, pieces, htake]
        split
        · rw [List.filterMap_cons, List.filterMap_cons, ih]
        · rw [List.filterMap_cons, List.filterMap_cons, ih]
  have hvalues (s : List Char) : findAll take s = (pieces take 0 s).filterMap Sum.getLeft? := by
    rw [findAll]
    congr 1
    funext piece
    cases piece <;> rfl
  rw [hvalues, hvalues, hpieces]

/-- A carriage return is white space. -/
theorem isBlank_return : isBlank '\r' = true := by decide

/-- It goes with the white space in front of it if there is nothing else. -/
theorem trimStart_append_return (s : List Char) :
    trimStart (s ++ ['\r']) = if trimStart s = [] then [] else trimStart s ++ ['\r'] :=
  dropWhile_concat_of_pos isBlank_return s

end SkillAudit.Text
