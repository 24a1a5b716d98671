import SkillAudit.Proofs.Text.Lines
import SkillAudit.Proofs.Text.Pieces
import SkillAudit.Reference.Mention
/-!
# SkillAudit.Proofs.Reference.Mention

What is known of the references of a text without looking at their resolution:

* `codeSpanAt?_eq_some` — a code span is a word between two backticks;
* `mem_ofLine` — a reference carries the number of its line, and its target stands on that line;
* `hasScheme_of_proseMention` — only a target with a scheme is a mention in prose;
* `ofLines_append`, `ofLines_add` — the references of a text are those of its parts, and numbering
  the lines from further on moves them along.
-/

namespace SkillAudit.Mention

open Text

/-! ## Code spans -/

section CodeSpan

variable {a g s : List Char}

/-- Whether a text can stand in a code span: it is not empty and has no white space. -/
def isWord (s : List Char) : Bool := !s.isEmpty && s.all (!isBlank ·)

/-- A span is a word between two backticks. -/
theorem codeSpanAt?_eq_some {n : Nat} :
    codeSpanAt? s = some (g, n) ↔
      isWord g ∧ '`' ∉ g ∧ n = g.length + 2 ∧ ∃ t, s = '`' :: (g ++ '`' :: t) := by
  have hword {g : List Char} :
      isWord g ∧ '`' ∉ g ↔ g ≠ [] ∧ ∀ c ∈ g, c != '`' && !isBlank c := by
    simpa [isWord, and_assoc, forall_and, List.forall_mem_ne'] using fun _ => and_comm
  constructor
  · intro h
    unfold codeSpanAt? at h
    split at h
    · next rest =>
      simp only at h
      split at h
      · next t heq =>
        split at h
        · cases h
        · next hne =>
          cases h
          have hrest := List.prefix_iff_eq_append.mp
            (List.takeWhile_prefix (l := rest) fun c => c != '`' && !isBlank c)
          rw [heq] at hrest
          have hspan := hword.mpr ⟨by simpa using hne, List.all_eq_true.mp List.all_takeWhile⟩
          exact ⟨hspan.1, hspan.2, rfl, t, by rw [hrest]⟩
      · cases h
    · cases h
  · rintro ⟨hw, htick, rfl, t, rfl⟩
    obtain ⟨hne, hall⟩ := hword.mp ⟨hw, htick⟩
    have hread : (g ++ '`' :: t).takeWhile (fun c => c != '`' && !isBlank c) = g := by
      rw [List.takeWhile_append_of_pos hall, List.takeWhile_cons_of_neg (by simp), List.append_nil]
    simp only [codeSpanAt?, hread, List.drop_left, List.isEmpty_iff, hne, if_false]

/-- Where no backtick stands, no span starts. -/
theorem codeSpans_append (ha : '`' ∉ a) (s : List Char) : codeSpans (a ++ s) = codeSpans s := by
  refine findAll_append_of_none fun t ht hta => ?_
  refine Option.eq_none_iff_forall_ne_some.mpr fun span h => ?_
  obtain ⟨c, t, rfl⟩ := List.exists_cons_of_ne_nil ht
  obtain ⟨-, -, -, u, hu⟩ := codeSpanAt?_eq_some.mp h
  exact ha (hta.subset ((List.cons.inj hu).1 ▸ List.mem_cons_self))

/-- Without a backtick there is no code span. -/
theorem codeSpans_of_not_mem (hs : '`' ∉ s) : codeSpans s = [] := by
  rw [← List.append_nil s, codeSpans_append hs]
  rfl

end CodeSpan

/-! ## Links -/

section Link

variable {s r target : List Char}

/-- An angle bracket is all that is passed over in front of a target. -/
theorem bareTarget_suffix (s : List Char) : bareTarget s <:+ s := by
  unfold bareTarget
  split
  · split
    · exact List.suffix_refl _
    · exact List.suffix_cons _ _
  · exact List.suffix_refl _

/-- The target of a link is what stands there up to a character that no target holds. -/
theorem eq_takeWhile_of_linkTarget? (h : linkTarget? s = some (target, r)) :
    target = (bareTarget (trimStart s)).takeWhile isTargetChar := by
  unfold linkTarget? at h
  extract_lets bare read at h
  split at h
  · cases h
  · obtain ⟨tail, -, hpair⟩ := Option.map_eq_some_iff.mp h
    exact (congrArg Prod.fst hpair).symm

/-- Behind the text of a link a parenthesis opens at once. -/
theorem afterBracket?_eq_some : afterBracket? s = some r ↔ s = ']' :: '(' :: r := by
  unfold afterBracket?
  split
  · simp
  · next hother => simpa using hother r

/-- A link is its text in brackets and its target behind them. -/
theorem exists_of_linkAt? {n : Nat} (h : linkAt? s = some (target, n)) :
    ∃ rest r behind, s = '[' :: rest ∧ ']' :: '(' :: r <:+ rest ∧
      linkTarget? r = some (target, behind) := by
  unfold linkAt? at h
  split at h
  · next rest =>
    obtain ⟨r, hbracket, hlink⟩ := Option.bind_eq_some_iff.mp h
    obtain ⟨⟨t, behind⟩, htarget, hpair⟩ := Option.map_eq_some_iff.mp hlink
    cases hpair
    exact ⟨rest, r, behind, rfl, afterBracket?_eq_some.mp hbracket ▸ List.dropWhile_suffix _, htarget⟩
  · cases h

end Link

/-! ## Targets stand in the text -/

/-- The target of a link is part of what is read. -/
theorem infix_of_linkTarget? {s target r : List Char} (h : linkTarget? s = some (target, r)) :
    target <:+: s := by
  rw [eq_takeWhile_of_linkTarget? h]
  exact (List.takeWhile_prefix _).isInfix.trans
    ((bareTarget_suffix _).trans (trimStart_suffix s)).isInfix

/-- So it is of the whole link. -/
theorem infix_of_linkAt? {s target : List Char} {n : Nat} (h : linkAt? s = some (target, n)) :
    target <:+: s := by
  obtain ⟨rest, r, behind, rfl, hrest, hlink⟩ := exists_of_linkAt? h
  have hr : r <:+ ']' :: '(' :: r := ⟨[']', '('], rfl⟩
  exact (infix_of_linkTarget? hlink).trans ((hr.trans hrest).trans (List.suffix_cons _ rest)).isInfix

/-- A code span is part of what is read. -/
theorem infix_of_codeSpanAt? {s span : List Char} {n : Nat} (h : codeSpanAt? s = some (span, n)) :
    span <:+: s := by
  obtain ⟨-, -, -, t, rfl⟩ := codeSpanAt?_eq_some.mp h
  exact ⟨['`'], '`' :: t, by simp⟩

/-- The arguments of a command are among its words. -/
theorem commandArguments?_subset {ws arguments : List (List Char)}
    (h : commandArguments? ws = some arguments) : arguments ⊆ ws := by
  cases ws with
  | nil => cases h
  | cons verb ws =>
    simp only [commandArguments?] at h
    split at h
    · cases h
      exact List.subset_cons_self _ _
    · split at h
      · split at h
        · split at h
          · cases h
            exact fun w hw => List.mem_cons_of_mem _ (List.mem_cons_of_mem _ hw)
          · cases h
        · cases h
      · cases h

/-- The file of a command is part of the line. -/
theorem infix_of_commandFile? {line path : List Char} (h : commandFile? line = some path) :
    path <:+: line := by
  -- every word that is read is a word of an end of the line
  have hwords {w : List Char}
      (hw : w ∈ words ((after? ['$', ' '] (trimStart line)).getD (trimStart line))) :
      w <:+: line := by
    refine (infix_of_mem_words hw).trans ?_
    cases hafter : after? ['$', ' '] (trimStart line) with
    | none => exact (trimStart_suffix line).isInfix
    | some r => exact ((after?_suffix hafter).trans (trimStart_suffix line)).isInfix
  simp only [commandFile?] at h
  split at h
  · next program hprogram =>
    obtain ⟨w, hw, hafter⟩ := Option.bind_eq_some_iff.mp hprogram
    split at h
    · cases h
      exact ((infix_stripWhile _ _).trans (after?_suffix hafter).isInfix).trans
        (hwords (List.mem_of_head? hw))
    · cases h
  · split at h
    · cases h
    · next arguments harguments =>
      obtain ⟨word, hword, rfl⟩ := Option.map_eq_some_iff.mp h
      obtain ⟨w, hw, rfl⟩ := List.mem_map.mp (List.mem_of_find?_eq_some hword)
      exact ((dropRepeated_suffix _ _).isInfix.trans (infix_stripWhile _ _)).trans
        (hwords (commandArguments?_subset harguments (List.mem_filter.mp hw).1))

/-! ## One line -/

/-- The links and code spans of a line of prose. -/
theorem mem_ofProse {number : Nat} {line : List Char} {m : Mention} (h : m ∈ ofProse number line) :
    (∃ target, target <:+: line ∧ ofLink? number target = some m) ∨
      ∃ span, span <:+: line ∧ ofCodeSpan? number span = some m := by
  obtain h | h := List.mem_append.mp h
  · obtain ⟨target, htarget, hm⟩ := List.mem_filterMap.mp h
    obtain ⟨t, n, ht, htake⟩ := take_of_mem_findAll htarget
    exact .inl ⟨target, (infix_of_linkAt? htake).trans ht.isInfix, hm⟩
  · obtain ⟨span, hspan, hm⟩ := List.mem_filterMap.mp h
    obtain ⟨t, n, ht, htake⟩ := take_of_mem_findAll hspan
    exact .inr ⟨span, (infix_of_codeSpanAt? htake).trans ht.isInfix, hm⟩

/-- The reference that a link makes, if it makes one. -/
theorem ofLink?_eq_some {number : Nat} {target : List Char} {m : Mention}
    (h : ofLink? number target = some m) :
    m.line = number ∧ m.target = String.ofList target ∧
      (m.kind = .proseMention ↔ Target.hasScheme target) := by
  unfold ofLink? at h
  split at h
  · cases h
  · cases h
    refine ⟨rfl, rfl, ?_⟩
    by_cases hscheme : Target.hasScheme target <;> simp [hscheme]

/-- The reference that a code span makes, if it makes one. -/
theorem ofCodeSpan?_eq_some {number : Nat} {span : List Char} {m : Mention}
    (h : ofCodeSpan? number span = some m) :
    m.line = number ∧ m.target = String.ofList (dropRepeated ['.', '/'] span) ∧
      m.kind = .codePath := by
  unfold ofCodeSpan? at h
  split at h
  · cases h
    exact ⟨rfl, rfl, rfl⟩
  · cases h

/-- A reference carries the number of its line, and its target stands on that line. -/
theorem mem_ofLine {place : Fence.Place} {number : Nat} {line : List Char} {m : Mention}
    (h : m ∈ ofLine place number line) : m.line = number ∧ m.target.toList <:+: line := by
  cases place with
  | outside =>
    obtain ⟨target, hinfix, hm⟩ | ⟨span, hinfix, hm⟩ := mem_ofProse h
    · obtain ⟨hline, htarget, -⟩ := ofLink?_eq_some hm
      exact ⟨hline, by rwa [htarget, String.toList_ofList]⟩
    · obtain ⟨hline, htarget, -⟩ := ofCodeSpan?_eq_some hm
      refine ⟨hline, ?_⟩
      rw [htarget, String.toList_ofList]
      exact (dropRepeated_suffix _ _).isInfix.trans hinfix
  | delimiter => simp [ofLine] at h
  | inside =>
    obtain ⟨path, hpath, rfl⟩ := by simpa [ofLine, ofCode] using h
    exact ⟨rfl, by simpa using infix_of_commandFile? hpath⟩

/-- Only a link whose target carries a scheme is a mention in prose. -/
theorem hasScheme_of_proseMention {place : Fence.Place} {number : Nat} {line : List Char}
    {m : Mention} (h : m ∈ ofLine place number line) (hkind : m.kind = .proseMention) :
    Target.hasScheme m.target.toList := by
  cases place with
  | outside =>
    obtain ⟨target, -, hm⟩ | ⟨span, -, hm⟩ := mem_ofProse h
    · obtain ⟨-, htarget, hiff⟩ := ofLink?_eq_some hm
      rw [htarget, String.toList_ofList]
      exact hiff.mp hkind
    · rw [(ofCodeSpan?_eq_some hm).2.2] at hkind
      cases hkind
  | delimiter => simp [ofLine] at h
  | inside =>
    obtain ⟨path, -, rfl⟩ := by simpa [ofLine, ofCode] using h
    cases hkind

/-! ## Several lines -/

/-- A reference of a text is one of its lines in its place. -/
theorem mem_ofLines {state : Option Fence} {number : Nat} {ls : List (List Char)} {m : Mention}
    (h : m ∈ ofLines state number ls) :
    ∃ i line, ls[i]? = some line ∧
      m ∈ ofLine (Fence.place (Fence.after state (ls.take i)) line) (number + i) line := by
  induction ls generalizing state number with
  | nil => simp [ofLines] at h
  | cons line ls ih =>
    obtain h | h := List.mem_append.mp h
    · exact ⟨0, line, rfl, h⟩
    · obtain ⟨i, l, hl, hm⟩ := ih h
      refine ⟨i + 1, l, hl, ?_⟩
      rwa [List.take_succ_cons, Fence.after, List.foldl_cons, Nat.add_comm i 1, ← Nat.add_assoc]

/-- The references of lines carry the numbers of these lines. -/
theorem line_of_mem_ofLines {state : Option Fence} {number : Nat} {ls : List (List Char)}
    {m : Mention} (h : m ∈ ofLines state number ls) :
    number ≤ m.line ∧ m.line < number + ls.length := by
  obtain ⟨i, line, hline, hm⟩ := mem_ofLines h
  have hi := (List.getElem?_eq_some_iff.mp hline).1
  rw [(mem_ofLine hm).1]
  omega

/-- Lines are read one after the other, with the fence that is open behind the first ones. -/
theorem ofLines_append (state : Option Fence) (number : Nat) (xs ys : List (List Char)) :
    ofLines state number (xs ++ ys) =
      ofLines state number xs ++ ofLines (Fence.after state xs) (number + xs.length) ys := by
  induction xs generalizing state number with
  | nil => rfl
  | cons x xs ih =>
    rw [List.cons_append, ofLines, ih, ofLines, List.append_assoc, Fence.after, Fence.after,
      List.foldl_cons, List.length_cons, Nat.add_assoc, Nat.add_comm 1]

/-- The references of one line among others, and those of the others. -/
theorem filter_ofLines (state : Option Fence) (number : Nat) (xs : List (List Char))
    (line : List Char) (ys : List (List Char)) :
    (ofLines state number (xs ++ line :: ys)).filter (fun m => m.line ≠ number + xs.length) =
        ofLines state number xs ++
          ofLines (Fence.step (Fence.after state xs) line) (number + xs.length + 1) ys ∧
      (ofLines state number (xs ++ line :: ys)).filter (fun m => m.line = number + xs.length) =
        ofLine (Fence.place (Fence.after state xs) line) (number + xs.length) line := by
  rw [ofLines_append, ofLines]
  exact filter_number (fun m hm => (line_of_mem_ofLines hm).2) (fun m hm => (mem_ofLine hm).1)
    (fun m hm => (line_of_mem_ofLines hm).1)

/-- The reference further down the text. -/
def moveDown (k : Nat) (m : Mention) : Mention := { m with line := m.line + k }

/-- Further down a line makes the same references further down. -/
theorem ofLine_add (place : Fence.Place) (number k : Nat) (line : List Char) :
    ofLine place (number + k) line = (ofLine place number line).map (moveDown k) := by
  have hlink (target : List Char) :
      ofLink? (number + k) target = (ofLink? number target).map (moveDown k) := by
    unfold ofLink?
    split <;> rfl
  have hspan (span : List Char) :
      ofCodeSpan? (number + k) span = (ofCodeSpan? number span).map (moveDown k) := by
    unfold ofCodeSpan?
    split <;> rfl
  cases place with
  | outside =>
    rw [ofLine, ofLine, ofProse, ofProse, List.map_append, List.map_filterMap, List.map_filterMap,
      funext hlink, funext hspan]
  | delimiter => rfl
  | inside => cases h : commandFile? line <;> simp [ofLine, ofCode, h, moveDown]

/-- Numbering the lines from further on moves the references along. -/
theorem ofLines_add (state : Option Fence) (number k : Nat) (ls : List (List Char)) :
    ofLines state (number + k) ls = (ofLines state number ls).map (moveDown k) := by
  induction ls generalizing state number with
  | nil => rfl
  | cons line ls ih =>
    rw [ofLines, ofLines, List.map_append, ← ih, ofLine_add, Nat.add_right_comm]

end SkillAudit.Mention
