import SkillAudit.Proofs.Markdown.Fenced
import SkillAudit.Proofs.Markdown.Sentence
/-!
# SkillAudit.Proofs.Markdown.Comment

Comments on lines of their own, in front of the reader of sentences. While a comment is open, its
lines are dropped, whatever they look like, with one exception: the fences are followed in front of
all else, so a line that opens a fence ends the paragraph around the comment, and hides the end of
the comment if the fence is still open there.

* `Reader.after_comment` — a comment without such a line leaves nothing behind;
* `ofText_comment_iff` — a comment makes no difference anywhere if and only if it has no such line.
-/

namespace SkillAudit.Sentence

open Text

/-- Whether a text is a comment on lines of its own, with the given lines between the two that open
    and close it. -/
structure IsComment (comment : String) (inner : List (List Char)) : Prop where
  endsLine : EndsLine comment.toList
  lines_eq : lines comment.toList = ['<', '!', '-', '-'] :: (inner ++ [['-', '-', '>']])
  staysOpen : ∀ l ∈ inner, contains ['-', '-', '>'] l = false

variable {comment : String} {inner : List (List Char)}

namespace Reader

/-! ## Lines of a comment -/

theorem step_opening (paragraph : List Char) :
    step ⟨none, false, paragraph⟩ ['<', '!', '-', '-'] = ([], ⟨none, true, paragraph⟩) := rfl

theorem step_closing (paragraph : List Char) :
    step ⟨none, true, paragraph⟩ ['-', '-', '>'] = ([], ⟨none, false, paragraph⟩) := rfl

/-- A line within a comment is dropped, unless it opens a fence. -/
theorem step_inner {l : List Char} (hl : contains ['-', '-', '>'] l = false)
    (hopens : Fence.openedBy? l = none) (paragraph : List Char) :
    step ⟨none, true, paragraph⟩ l = ([], ⟨none, true, paragraph⟩) := by
  simp [step, Fence.place, Fence.step, hopens, effect, hl]

/-- A line within a comment that opens a fence ends the paragraph around the comment. -/
theorem step_fence {l : List Char} {fence : Fence} (hopens : Fence.openedBy? l = some fence)
    (paragraph : List Char) :
    step ⟨none, true, paragraph⟩ l = ([paragraph], ⟨some fence, true, []⟩) := by
  simp [step, Fence.place, Fence.step, hopens]

/-! ## Comments -/

/-- Behind the lines of a comment the reader is where it was, if none of them opens a fence. -/
theorem paragraphs_inner (hinner : ∀ l ∈ inner, contains ['-', '-', '>'] l = false)
    (hopens : ∀ l ∈ inner, Fence.openedBy? l = none) (paragraph : List Char)
    (rest : List (List Char)) :
    paragraphs ⟨none, true, paragraph⟩ (inner ++ rest) =
      paragraphs ⟨none, true, paragraph⟩ rest := by
  induction inner with
  | nil => rfl
  | cons l inner ih =>
    obtain ⟨hl, hinner⟩ := List.forall_mem_cons.mp hinner
    obtain ⟨hopens, hrest⟩ := List.forall_mem_cons.mp hopens
    rw [List.cons_append, paragraphs_cons, step_inner hl hopens, ih hinner hrest,
      List.nil_append]

/-- Where one of them does, the paragraph around the comment ends there. -/
theorem exists_paragraphs_inner (hinner : ∀ l ∈ inner, contains ['-', '-', '>'] l = false)
    {l : List Char} (hl : l ∈ inner) {fence : Fence} (hopens : Fence.openedBy? l = some fence)
    (paragraph : List Char) (rest : List (List Char)) :
    ∃ more, paragraphs ⟨none, true, paragraph⟩ (inner ++ rest) = paragraph :: more := by
  induction inner with
  | nil => cases hl
  | cons k inner ih =>
    obtain ⟨hk, hinner⟩ := List.forall_mem_cons.mp hinner
    rw [List.cons_append, paragraphs_cons]
    cases hfence : Fence.openedBy? k with
    | some other => exact ⟨_, by rw [step_fence hfence, List.singleton_append]⟩
    | none =>
      rw [step_inner hk hfence, List.nil_append]
      obtain rfl | hl := List.mem_cons.mp hl
      · rw [hfence] at hopens
        cases hopens
      · exact ih hinner hl

/-! ## Comments -/

/-- A comment in prose is read over if none of its lines opens a fence. -/
theorem paragraphs_comment (hc : IsComment comment inner)
    (hopens : ∀ l ∈ inner, Fence.openedBy? l = none) {r : Reader} (hr : r.InProse)
    (rest : List (List Char)) :
    r.paragraphs (lines comment.toList ++ rest) = r.paragraphs rest := by
  rw [hr.eq, hc.lines_eq, List.cons_append, List.append_assoc, paragraphs_cons, step_opening,
    List.nil_append, paragraphs_inner hc.staysOpen hopens, List.singleton_append, paragraphs_cons,
    step_closing, List.nil_append]

/-- A comment in prose ends the paragraph around it if one of its lines opens a fence. -/
theorem exists_paragraphs_comment (hc : IsComment comment inner) {l : List Char} (hl : l ∈ inner)
    {fence : Fence} (hopens : Fence.openedBy? l = some fence) {r : Reader} (hr : r.InProse)
    (rest : List (List Char)) :
    ∃ more, r.paragraphs (lines comment.toList ++ rest) = r.paragraph :: more := by
  rw [hr.eq, hc.lines_eq, List.cons_append, List.append_assoc, paragraphs_cons, step_opening,
    List.nil_append]
  exact exists_paragraphs_inner hc.staysOpen hl hopens _ _

end Reader

/-! ## Texts -/

/-- The paragraphs of a text with a comment in it. -/
theorem paragraphs_append_comment (hc : IsComment comment inner) {a : String}
    (ha : EndsLine a.toList) (b : String) :
    Reader.start.paragraphs (lines (a ++ comment ++ b).toList) =
      Reader.start.completed (lines a.toList) ++
        (Reader.start.after (lines a.toList)).paragraphs
          (lines comment.toList ++ lines b.toList) := by
  rw [String.toList_append, String.toList_append, List.append_assoc, lines_append ha,
    lines_append hc.endsLine, Reader.paragraphs_append]

/-- A comment without a line that opens a fence makes no difference to the sentences of a text. -/
theorem ofText_comment (hc : IsComment comment inner)
    (hopens : ∀ l ∈ inner, Fence.openedBy? l = none) {a : String} (ha : EndsLine a.toList)
    (hprose : (Reader.start.after (lines a.toList)).InProse) (b : String) :
    ofText (a ++ comment ++ b) = ofText (a ++ b) := by
  rw [ofText, paragraphs_append_comment hc ha, Reader.paragraphs_comment hc hopens hprose,
    ← Reader.paragraphs_append, ← lines_append ha, ← String.toList_append, ofText]

/-- A comment with such a line parts two words of a sentence. -/
theorem head?_ofText_comment (hc : IsComment comment inner) {l : List Char} (hl : l ∈ inner)
    {fence : Fence} (hopens : Fence.openedBy? l = some fence) :
    (ofText ("Use\n" ++ comment ++ "it.\n")).head? = some "Use" := by
  have hprose : (Reader.start.after (lines "Use\n".toList)).InProse := by decide +kernel
  obtain ⟨more, hmore⟩ :=
    Reader.exists_paragraphs_comment hc hl hopens hprose (lines "it.\n".toList)
  have hparagraph : ofParagraph (Reader.start.after (lines "Use\n".toList)).paragraph =
      ["Use".toList] := by decide +kernel
  have hcompleted : Reader.start.completed (lines "Use\n".toList) = [] := by decide +kernel
  rw [ofText, paragraphs_append_comment hc (by decide), hcompleted, hmore, List.nil_append,
    List.flatMap_cons, hparagraph]
  rfl

/-- A comment makes no difference to the sentences of any text, wherever in prose it is put, if and
    only if none of its lines opens a fence. -/
theorem ofText_comment_iff (hc : IsComment comment inner) :
    (∀ a b : String, EndsLine a.toList → (Reader.start.after (lines a.toList)).InProse →
        ofText (a ++ comment ++ b) = ofText (a ++ b)) ↔
      ∀ l ∈ inner, ∀ fence : Fence, ¬fence.Opens l := by
  simp only [← Fence.openedBy?_eq_none]
  constructor
  · intro h l hl
    cases hopens : Fence.openedBy? l with
    | none => rfl
    | some fence =>
      have hwith := head?_ofText_comment hc hl hopens
      have hwithout : (ofText ("Use\n" ++ "it.\n")).head? = some "Use it." := by decide +kernel
      rw [h "Use\n" "it.\n" (by decide) (by decide +kernel), hwithout] at hwith
      exact absurd hwith (by decide)
  · intro hopens a b ha hprose
    exact ofText_comment hc hopens ha hprose b

/-! ### Two comments -/

/-- A comment with lines that would be a heading, an item of a list, a row of a table and a blank
    line anywhere else. -/
def draftComment : String := "<!--\n# Draft\n- item.\n| a |\n\n<!-- again\n-->\n"

theorem isComment_draftComment : IsComment draftComment
    ["# Draft".toList, "- item.".toList, "| a |".toList, [], "<!-- again".toList] where
  endsLine := by decide
  lines_eq := by decide
  staysOpen := by decide

/-- A comment with headings, items and tables in it is passed over. -/
theorem ofText_draftComment :
    ofText ("Use\n" ++ draftComment ++ "it.\n") = ofText ("Use\n" ++ "it.\n") :=
  (ofText_comment_iff isComment_draftComment).mpr
    (fun l hl => Fence.openedBy?_eq_none.mp (by revert l; decide))
    "Use\n" "it.\n" (by decide) (by decide +kernel)

/-- A comment with a line that opens a fence. -/
def fencedComment : String := "<!--\n```\n-->\n"

theorem isComment_fencedComment : IsComment fencedComment ["```".toList] where
  endsLine := by decide
  lines_eq := by decide
  staysOpen := by decide

/-- All that follows such a comment is lost. -/
theorem ofText_fencedComment :
    IsComment fencedComment ["```".toList] ∧ EndsLine "Use it.\n".toList ∧
      (Reader.start.after (lines "Use it.\n".toList)).InProse ∧
      ofText ("Use it.\n" ++ fencedComment ++ "Run it.\n") = ["Use it."] ∧
      ofText ("Use it.\n" ++ fencedComment ++ "Run it.\n") ≠
        ofText ("Use it.\n" ++ "Run it.\n") :=
  ⟨isComment_fencedComment, by decide, by decide +kernel, by decide +kernel, by decide +kernel⟩

end SkillAudit.Sentence
