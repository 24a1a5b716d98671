import SkillAudit.Proofs.Reference.Blocks
/-!
# SkillAudit.Proofs.Reference.Return

A carriage return at the end of a line makes no difference to its references. It is white space, so
it ends every word and every target that reaches up to it, and it closes no link and no code span:
whatever reads a line reads the same in front of it, and leaves it over. A block has lost such
carriage returns, but its references are still those of its lines in the text.
-/

namespace SkillAudit

open Text

/-! ## Lines -/

namespace Mention

theorem afterTitle?_append_return (s : List Char) :
    afterTitle? (s ++ ['\r']) = (afterTitle? s).map (· ++ ['\r']) := by
  cases s with
  | nil => rfl
  | cons q rest =>
    by_cases hq : q = '"' ∨ q = '\''
    · have hreturn : ('\r' != q) = true := by
        obtain rfl | rfl := hq <;> rfl
      have hdrop := dropWhile_concat_of_pos (p := (· != q)) hreturn rest
      simp only [List.cons_append, afterTitle?, hq, if_true, hdrop]
      cases rest.dropWhile (· != q) <;> rfl
    · simp only [List.cons_append, afterTitle?, hq, if_false, Option.map_none]

/-- A carriage return does not close a link. -/
theorem afterClosing?_trimStart_append_return (s : List Char) :
    afterClosing? (trimStart (s ++ ['\r'])) =
      (afterClosing? (trimStart s)).map (· ++ ['\r']) := by
  rw [trimStart_append_return]
  cases trimStart s with
  | nil => rfl
  | cons c u =>
    rw [if_neg (List.cons_ne_nil c u), List.cons_append]
    by_cases hc : c = ')'
    · subst hc
      rfl
    · simp [afterClosing?, hc]

theorem afterLinkEnd?_append_return (s : List Char) :
    afterLinkEnd? (s ++ ['\r']) = (afterLinkEnd? s).map (· ++ ['\r']) := by
  have htitle :
      (if (trimStart (s ++ ['\r'])).length < (s ++ ['\r']).length then
          afterTitle? (trimStart (s ++ ['\r']))
        else none) =
        (if (trimStart s).length < s.length then afterTitle? (trimStart s) else none).map
          (· ++ ['\r']) := by
    by_cases hs : trimStart s = []
    · simp [trimStart_append_return, hs, afterTitle?]
    · rw [trimStart_append_return, if_neg hs, afterTitle?_append_return]
      simp only [List.length_append, Nat.add_lt_add_iff_right]
      split <;> rfl
  simp only [afterLinkEnd?, htitle]
  cases if (trimStart s).length < s.length then afterTitle? (trimStart s) else none with
  | none => exact afterClosing?_trimStart_append_return s
  | some r => exact afterClosing?_trimStart_append_return r

/-- White space is no part of a target. -/
theorem isTargetChar_return : isTargetChar '\r' = false := by decide

theorem bareTarget_append_return (c : Char) (u : List Char) :
    bareTarget (c :: u ++ ['\r']) = bareTarget (c :: u) ++ ['\r'] := by
  by_cases hc : c = '<'
  · subst hc
    simp only [List.cons_append, bareTarget, takeWhile_concat isTargetChar_return]
    split <;> rfl
  · simp [bareTarget, hc]

theorem afterAngle_append_return (s : List Char) :
    afterAngle (s ++ ['\r']) = afterAngle s ++ ['\r'] := by
  cases s with
  | nil => rfl
  | cons c s =>
    by_cases hc : c = '>'
    · subst hc
      rfl
    · simp [afterAngle, hc]

/-- The target of a link stands in front of the carriage return, as the end of the link does. -/
theorem linkTarget?_append_return (s : List Char) :
    linkTarget? (s ++ ['\r']) = (linkTarget? s).map fun p => (p.1, p.2 ++ ['\r']) := by
  rw [linkTarget?, linkTarget?, trimStart_append_return]
  cases trimStart s with
  | nil => rfl
  | cons c u =>
    rw [if_neg (List.cons_ne_nil c u), bareTarget_append_return,
      takeWhile_concat isTargetChar_return, dropWhile_concat isTargetChar_return,
      afterAngle_append_return, afterLinkEnd?_append_return]
    split
    · rfl
    · rw [Option.map_map, Option.map_map]
      rfl

theorem afterBracket?_append_return (s : List Char) :
    afterBracket? (s ++ ['\r']) = (afterBracket? s).map (· ++ ['\r']) := by
  match s with
  | [] => rfl
  | [c] =>
    by_cases hc : c = ']'
    · subst hc
      rfl
    · simp [afterBracket?, hc]
  | c :: d :: s =>
    by_cases hc : c = ']' ∧ d = '('
    · obtain ⟨rfl, rfl⟩ := hc
      rfl
    · have hnone (t : List Char) : afterBracket? (c :: d :: t) = none := by
        unfold afterBracket?
        split
        · next h =>
          cases h
          exact absurd ⟨rfl, rfl⟩ hc
        · rfl
      rw [List.cons_append, List.cons_append, hnone, hnone]
      rfl

/-- A link covers what it covers without the carriage return. -/
theorem linkAt?_append_return (c : Char) (rest : List Char) :
    linkAt? (c :: (rest ++ ['\r'])) = linkAt? (c :: rest) := by
  by_cases hc : c = '['
  · subst hc
    have hdrop : afterBracket? ((rest ++ ['\r']).dropWhile (· != ']')) =
        (afterBracket? (rest.dropWhile (· != ']'))).map (· ++ ['\r']) := by
      rw [dropWhile_concat_of_pos (p := (· != ']')) rfl]
      split
      · next h => rw [h]; rfl
      · exact afterBracket?_append_return _
    simp only [linkAt?, hdrop]
    cases afterBracket? (rest.dropWhile (· != ']')) with
    | none => rfl
    | some r =>
      simp [linkTarget?_append_return, Function.comp_def]
  · simp [linkAt?, hc]

theorem codeSpanAt?_append_return (c : Char) (rest : List Char) :
    codeSpanAt? (c :: (rest ++ ['\r'])) = codeSpanAt? (c :: rest) := by
  by_cases hc : c = '`'
  · subst hc
    have hspan := takeWhile_concat (p := fun c => c != '`' && !isBlank c) (c := '\r') rfl rest
    have hlength : (rest.takeWhile fun c => c != '`' && !isBlank c).length ≤ rest.length :=
      (List.takeWhile_prefix _).length_le
    simp only [codeSpanAt?, hspan, List.drop_append_of_le_length hlength]
    cases rest.drop (rest.takeWhile fun c => c != '`' && !isBlank c).length with
    | nil => rfl
    | cons d r =>
      by_cases hd : d = '`'
      · subst hd
        rfl
      · simp [hd]
  · simp [codeSpanAt?, hc]

/-- A prompt and the words of a command stand in front of the carriage return. -/
theorem commandFile?_append_return (line : List Char) :
    commandFile? (line ++ ['\r']) = commandFile? line := by
  have hwords :
      words ((after? ['$', ' '] (trimStart (line ++ ['\r']))).getD (trimStart (line ++ ['\r']))) =
        words ((after? ['$', ' '] (trimStart line)).getD (trimStart line)) := by
    rw [trimStart_append_return]
    split
    · next h => rw [h]
    · have hprompt : '\r' ∉ ['$', ' '] := by decide
      rw [after?_concat hprompt]
      cases after? ['$', ' '] (trimStart line) with
      | none => exact words_concat isBlank_return _
      | some r => exact words_concat isBlank_return r
  simp only [commandFile?, hwords]

/-- Wherever a line stands, its references are those without the carriage return. -/
theorem ofLine_dropReturn (place : Fence.Place) (number : Nat) (line : List Char) :
    ofLine place number (dropReturn line) = ofLine place number line := by
  have hreturn (w : List Char) : ofLine place number (w ++ ['\r']) = ofLine place number w := by
    cases place with
    | outside =>
      have hlinks : linkTargets (w ++ ['\r']) = linkTargets w :=
        findAll_concat rfl linkAt?_append_return w
      have hspans : codeSpans (w ++ ['\r']) = codeSpans w :=
        findAll_concat rfl codeSpanAt?_append_return w
      rw [ofLine, ofLine, ofProse, ofProse, hlinks, hspans]
    | delimiter => rfl
    | inside => rw [ofLine, ofLine, ofCode, ofCode, commandFile?_append_return]
  obtain h | h := dropReturn_cases line
  · rw [h]
  · rw [← hreturn, ← h]

theorem ofLines_map_dropReturn (state : Option Fence) (number : Nat) (ls : List (List Char)) :
    ofLines state number (ls.map dropReturn) = ofLines state number ls := by
  induction ls generalizing state number with
  | nil => rfl
  | cons line ls ih =>
    have hplace : Fence.place state (dropReturn line) = Fence.place state line := by
      unfold Fence.place
      rw [Fence.step_dropReturn]
    rw [List.map_cons, ofLines, ofLines, Fence.step_dropReturn, ih, hplace, ofLine_dropReturn]

end Mention

/-! ## Blocks -/

/-- The references of the blocks of a text, block by block, are the references of the text. -/
theorem Block.flatMap_mentions_ofText (first : Nat) (text : String) :
    ((Block.ofText first text).flatMap fun b => Mention.ofText b.startLine b.text) =
      Mention.ofText first text := by
  rw [mentions_ofText, Mention.ofLines_map_dropReturn, Mention.ofText]

end SkillAudit
