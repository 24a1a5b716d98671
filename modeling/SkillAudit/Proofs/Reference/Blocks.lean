import SkillAudit.Markdown.Heading
import SkillAudit.Proofs.Markdown.Fence
import SkillAudit.Proofs.Reference.Mention
/-!
# SkillAudit.Proofs.Reference.Blocks

The references of the blocks of a text are the references of the text. A block starts outside any
fence, so reading it on its own, without a fence open, sees its lines in their places; and its
lines carry the numbers that they have in the text. Only a carriage return may get lost, for the
lines of a block have been read once before.
-/

namespace SkillAudit.Block

open Text

/-- What starts a block stands outside any fence. -/
theorem state_eq_none_of_headingAt? {state : Option Fence} {line : List Char} {h : Heading}
    (hline : headingAt? state line = some h) : state = none := by
  unfold headingAt? at hline
  split at hline
  · next hplace =>
    unfold Fence.place at hplace
    split at hplace
    · cases hplace
    · rfl
    · cases hplace
  · cases hline

/-- No fence is open in front of a headed piece. -/
theorem state_eq_none_of_cut {state : Option Fence} {ls piece : List (List Char)} {h : Heading}
    {more : List (Option Heading × List (List Char))}
    (hcut : cut state ls = (some h, piece) :: more) :
    state = none := by
  cases ls with
  | nil => cases hcut
  | cons line rest =>
    simp only [cut] at hcut
    split at hcut
    all_goals
      injection hcut with hfirst
      exact state_eq_none_of_headingAt? (congrArg Prod.fst hfirst)

/-- The lines of the pieces are the lines. -/
theorem flatten_cut (state : Option Fence) (ls : List (List Char)) :
    ((cut state ls).flatMap (·.2)) = ls := by
  induction ls generalizing state with
  | nil => rfl
  | cons line rest ih =>
    have hrest := ih (Fence.step state line)
    simp only [cut]
    split
    · next h =>
      rw [h] at hrest
      rw [← hrest]
      rfl
    · next h =>
      rw [h] at hrest
      rw [← hrest]
      rfl
    · next h =>
      rw [h] at hrest
      rw [← hrest]
      rfl

/-- The references of pieces whose first line has the number `first`, each read as a block of its
    own. -/
def mentionsOf (first : Nat) (pieces : List (Option Heading × List (List Char))) : List Mention :=
  (number first pieces).flatMap fun b => Mention.ofText b.startLine b.text

theorem mentionsOf_cons (first : Nat) (piece : Option Heading × List (List Char))
    (more : List (Option Heading × List (List Char))) (h : ∀ l ∈ piece.2, '\n' ∉ l) :
    mentionsOf first (piece :: more) =
      Mention.ofLines none first (piece.2.map dropReturn) ++
        mentionsOf (first + piece.2.length) more := by
  rw [mentionsOf, number, List.flatMap_cons, Mention.ofText, ofPiece, String.toList_ofList,
    lines_flatMap_newline h, mentionsOf]

/-- Reading lines in one go, from the state before them, is reading the first piece from that
    state and the others without a fence open. -/
theorem ofLines_cut (state : Option Fence) (first : Nat) {ls : List (List Char)}
    (hls : ∀ l ∈ ls, '\n' ∉ l) :
    Mention.ofLines state first (ls.map dropReturn) =
      match cut state ls with
      | [] => []
      | piece :: more =>
        Mention.ofLines state first (piece.2.map dropReturn) ++
          mentionsOf (first + piece.2.length) more := by
  induction ls generalizing state first with
  | nil => rfl
  | cons line rest ih =>
    have hread := ih (Fence.step state line) (first + 1)
      fun l hl => hls l (List.mem_cons_of_mem line hl)
    rw [List.map_cons, Mention.ofLines, Fence.step_dropReturn, hread]
    cases hcut : cut (Fence.step state line) rest with
    | nil =>
      simp only [cut, hcut, List.map_cons, List.map_nil, Mention.ofLines, mentionsOf, number,
        List.flatMap_nil, List.append_nil]
    | cons piece more =>
      obtain ⟨heading, ls⟩ := piece
      cases heading with
      | none =>
        -- the line joins the first piece, which goes on in the state behind it
        simp only [cut, hcut]
        rw [List.map_cons, Mention.ofLines, Fence.step_dropReturn, List.append_assoc,
          List.length_cons, Nat.add_assoc, Nat.add_comm 1]
      | some h =>
        -- the line is a piece of its own, and the next one starts outside any fence
        have hlines : ∀ l ∈ ls, '\n' ∉ l := by
          intro l hl
          refine hls l (List.mem_cons_of_mem line ?_)
          rw [← flatten_cut (Fence.step state line) rest, hcut, List.flatMap_cons]
          exact List.mem_append_left _ hl
        simp only [cut, hcut]
        rw [state_eq_none_of_cut hcut, List.map_singleton, Mention.ofLines, Mention.ofLines,
          List.append_nil, List.length_singleton,
          mentionsOf_cons (first + 1) (some h, ls) more hlines]

/-- The references of the blocks of a text are those of its lines. -/
theorem mentions_ofText (first : Nat) (text : String) :
    ((ofText first text).flatMap fun b => Mention.ofText b.startLine b.text) =
      Mention.ofLines none first ((lines text.toList).map dropReturn) := by
  have hlines : ∀ l ∈ lines text.toList, '\n' ∉ l := fun l hl => newline_not_mem_of_mem_lines hl
  rw [ofLines_cut none first hlines]
  have hflatten := flatten_cut none (lines text.toList)
  change mentionsOf first (cut none (lines text.toList)) = _
  cases h : cut none (lines text.toList) with
  | nil => rfl
  | cons piece more =>
    refine mentionsOf_cons first piece more fun l hl => hlines l ?_
    rw [← hflatten, h, List.flatMap_cons]
    exact List.mem_append_left _ hl

end SkillAudit.Block
