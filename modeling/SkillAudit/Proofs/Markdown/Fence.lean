import SkillAudit.Markdown.Fence
import SkillAudit.Proofs.Text.Lines
import SkillAudit.Proofs.Text.Pieces
/-!
# SkillAudit.Proofs.Markdown.Fence

A carriage return at the end of a line is white space, so it decides nothing about fences.
-/

namespace SkillAudit.Fence

open Text

/-- A carriage return at the end stays behind the run. -/
theorem run?_append_return (w : List Char) :
    run? (w ++ ['\r']) = (run? w).map fun r => (r.1, r.2.1, r.2.2 ++ ['\r']) := by
  unfold run?
  rw [trimStart_append_return]
  cases trimStart w with
  | nil => rfl
  | cons c rest =>
    rw [if_neg (List.cons_ne_nil c rest), List.cons_append]
    by_cases hc : c = '`' ∨ c = '~'
    · have hreturn : ('\r' == c) = false := by
        obtain rfl | rfl := hc <;> rfl
      have htake := takeWhile_concat (p := (· == c)) hreturn rest
      have hdrop := dropWhile_concat (p := (· == c)) hreturn rest
      simp only [if_pos hc, htake, hdrop, Option.map_some]
    · simp only [if_neg hc, Option.map_none]

theorem closedBy_append_return (fence : Fence) (w : List Char) :
    fence.closedBy (w ++ ['\r']) = fence.closedBy w := by
  unfold closedBy
  rw [run?_append_return]
  cases run? w with
  | none => rfl
  | some r => simp [isBlank_return]

theorem openedBy?_append_return (w : List Char) : openedBy? (w ++ ['\r']) = openedBy? w := by
  unfold openedBy?
  rw [run?_append_return]
  cases run? w <;> rfl

theorem step_dropReturn (state : Option Fence) (line : List Char) :
    step state (dropReturn line) = step state line := by
  obtain h | h := dropReturn_cases line
  · rw [h]
  · have hstep (w : List Char) : step state (w ++ ['\r']) = step state w := by
      cases state with
      | none => exact openedBy?_append_return w
      | some fence => rw [step, step, closedBy_append_return]
    rw [← hstep, ← h]

theorem after_map_dropReturn (state : Option Fence) (ls : List (List Char)) :
    after state (ls.map dropReturn) = after state ls := by
  rw [after, after, List.foldl_map]
  simp only [step_dropReturn]

end SkillAudit.Fence
