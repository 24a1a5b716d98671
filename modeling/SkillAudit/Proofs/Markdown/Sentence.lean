import SkillAudit.Proofs.Text.Lines
import SkillAudit.Proofs.Text.Pieces
import SkillAudit.Score.Voice
/-!
# SkillAudit.Proofs.Markdown.Sentence

The sentences of a text, part by part. The reader of paragraphs takes the lines behind a part of a
text from the state in which that part leaves it; a blank line in prose leaves nothing behind, so
the texts in front of it and behind it are read independently of each other.

* `Reader.paragraphs_append` — the paragraphs of a text from those of its parts;
* `isSentence_of_mem` — what every sentence is like;
* `ofText_append_blank` — the sentences in front of a blank line and those behind it.
-/

namespace SkillAudit.Sentence

open Text

/-! ## The reader -/

namespace Reader

/-- The reader behind several lines. -/
def after (r : Reader) (ls : List (List Char)) : Reader :=
  ls.foldl (fun r l => (r.step l).2) r

/-- The paragraphs that several lines complete. -/
def completed (r : Reader) : List (List Char) → List (List Char)
  | [] => []
  | l :: rest => (r.step l).1 ++ (r.step l).2.completed rest

/-- Whether the reader is in prose: no fence is open, and no comment. -/
def InProse (r : Reader) : Prop := r.fence = none ∧ r.inComment = false

instance (r : Reader) : Decidable r.InProse :=
  inferInstanceAs (Decidable (_ ∧ _))

theorem InProse.eq {r : Reader} (h : r.InProse) : r = ⟨none, false, r.paragraph⟩ := by
  obtain ⟨fence, inComment, paragraph⟩ := r
  obtain ⟨rfl, rfl⟩ := h
  rfl

theorem paragraphs_cons (r : Reader) (line : List Char) (rest : List (List Char)) :
    r.paragraphs (line :: rest) = (r.step line).1 ++ (r.step line).2.paragraphs rest := rfl

/-- The lines behind several others are read from where these leave the reader. -/
theorem paragraphs_append (r : Reader) (xs ys : List (List Char)) :
    r.paragraphs (xs ++ ys) = r.completed xs ++ (r.after xs).paragraphs ys := by
  induction xs generalizing r with
  | nil => rfl
  | cons x xs ih =>
    rw [List.cons_append, paragraphs_cons, ih, completed, List.append_assoc, after, after,
      List.foldl_cons]

/-- The end of the text completes the paragraph that is being read. -/
theorem paragraphs_eq (r : Reader) (ls : List (List Char)) :
    r.paragraphs ls = r.completed ls ++ [(r.after ls).paragraph] := by
  have h := r.paragraphs_append ls []
  rwa [List.append_nil] at h

/-- A blank line in prose ends the paragraph, and that is all. -/
theorem step_blank {r : Reader} (hr : r.InProse) {w : List Char} (hw : ∀ c ∈ w, isBlank c) :
    r.step w = ([r.paragraph], start) := by
  have hopens : Fence.openedBy? w = none := by
    have hstart : trimStart w = [] := by
      rw [trimStart, ← List.append_nil w, List.dropWhile_append_of_pos hw]
      rfl
    rw [Fence.openedBy?, Fence.run?, hstart]
  have heffect : effect false w = (.breaks, false) := by
    have htrim : trim w = [] := stripWhile_eq_nil hw
    simp [effect, htrim, findFirst?]
  rw [hr.eq]
  simp only [step, Fence.place, Fence.step, hopens, heffect, start]

/-- A blank line in prose parts a text. -/
theorem paragraphs_append_blank {xs : List (List Char)} (hxs : (start.after xs).InProse)
    {w : List Char} (hw : ∀ c ∈ w, isBlank c) (ys : List (List Char)) :
    start.paragraphs (xs ++ w :: ys) = start.paragraphs xs ++ start.paragraphs ys := by
  rw [paragraphs_append, paragraphs_cons, step_blank hxs hw, paragraphs_eq start xs,
    List.append_assoc]

end Reader

/-! ## Sentences -/

/-- What a sentence is like: it is not empty and has no white space around it, holds a letter, and
    has none of the marks of emphasis and code. -/
structure IsSentence (s : String) : Prop where
  ne_empty : s ≠ ""
  head : ∀ c, s.toList.head? = some c → isBlank c = false
  last : ∀ c, s.toList.getLast? = some c → isBlank c = false
  letter : ∃ c ∈ s.toList, isLetter c
  unmarked : ∀ c ∈ s.toList, c ≠ '*' ∧ c ≠ '_' ∧ c ≠ '`'

/-- Nothing is lost in the cut. -/
theorem flatten_cut (s : List Char) : (cut s).flatten = s := by
  induction s with
  | nil => rfl
  | cons c rest ih =>
    rw [cut]
    split
    · rw [List.flatten_cons, ih, List.singleton_append]
    · cases hcut : cut rest with
      | nil =>
        rw [hcut] at ih
        rw [← ih]
        rfl
      | cons p ps =>
        rw [hcut] at ih
        rw [← ih]
        rfl

/-- The sentences of a paragraph are its trimmed pieces that have a letter. -/
theorem mem_ofParagraph {paragraph s : List Char} :
    s ∈ ofParagraph paragraph ↔ s.any isLetter ∧ ∃ p ∈ cut (stripInline paragraph), s = trim p := by
  simp only [ofParagraph, List.mem_filter, List.mem_map, and_comm, eq_comm]

theorem isSentence_of_mem_ofParagraph {paragraph s : List Char} (h : s ∈ ofParagraph paragraph) :
    IsSentence (String.ofList s) := by
  obtain ⟨hletter, p, hp, rfl⟩ := mem_ofParagraph.mp h
  obtain ⟨c, hc, hcletter⟩ := List.any_eq_true.mp hletter
  have htext : (String.ofList (trim p)).toList = trim p := String.toList_ofList
  constructor
  case ne_empty =>
    intro hempty
    rw [← htext, hempty] at hc
    cases hc
  all_goals rw [htext]
  case head => exact fun d hd => head?_stripWhile hd
  case last => exact fun d hd => getLast?_dropEndWhile hd
  case letter => exact ⟨c, hc, hcletter⟩
  case unmarked =>
    intro d hd
    have hmem : d ∈ stripInline paragraph := by
      rw [← flatten_cut (stripInline paragraph)]
      exact List.mem_flatten_of_mem hp ((infix_stripWhile isBlank p).subset hd)
    simpa [and_assoc] using (List.mem_filter.mp hmem).2

/-- What is read as a sentence is one. -/
theorem isSentence_of_mem {text s : String} (h : s ∈ ofText text) : IsSentence s := by
  obtain ⟨l, hl, rfl⟩ := List.mem_map.mp h
  obtain ⟨paragraph, -, hl⟩ := List.mem_flatMap.mp hl
  exact isSentence_of_mem_ofParagraph hl

/-! ## Blank lines -/

/-- A blank line in prose parts the sentences of a text, and so what is counted of them. What it
    parts are sentences, as in every text. -/
theorem ofText_append_blank {a w : String} (ha : EndsLine a.toList)
    (hprose : (Reader.start.after (lines a.toList)).InProse) (hw : ∀ c ∈ w.toList, isBlank c)
    (hline : '\n' ∉ w.toList) (b : String) :
    let whole := a ++ w ++ "\n" ++ b
    ofText whole = ofText a ++ ofText b ∧
      (∀ s ∈ ofText whole, s ∈ ofText a ∨ s ∈ ofText b) ∧
      (∀ {α : Type} [Quantity α] (style : StyleConfig α),
        (Voice.ofText style whole).sentences =
            (Voice.ofText style a).sentences + (Voice.ofText style b).sentences ∧
          (Voice.ofText style whole).imperative =
            (Voice.ofText style a).imperative + (Voice.ofText style b).imperative) ∧
      ∀ text, ∀ s ∈ ofText text, IsSentence s := by
  intro whole
  have hblank : ∀ c ∈ dropReturn w.toList, isBlank c :=
    fun c hc => hw c ((prefix_dropReturn _).subset hc)
  have hlines : lines whole.toList = lines a.toList ++ dropReturn w.toList :: lines b.toList := by
    have hparts : whole.toList = a.toList ++ (w.toList ++ '\n' :: b.toList) := by
      simp [whole]
    rw [hparts, lines_append ha, lines_line_append hline]
  have hsentences : ofText whole = ofText a ++ ofText b := by
    rw [ofText, hlines, Reader.paragraphs_append_blank hprose hblank, List.flatMap_append,
      List.map_append, ofText, ofText]
  refine ⟨hsentences, ?_, ?_, fun text s hs => isSentence_of_mem hs⟩
  · intro s hs
    rwa [hsentences, List.mem_append] at hs
  · intro α _ style
    simp only [Voice.ofText, hsentences, List.length_append, List.countP_append, and_self]

/-! ### Two parts -/

/-- A text that ends in prose, behind fenced code, an item of a list and a comment. -/
def firstPart : String :=
  "# Notes\n```sh\n<!--\n```\n- Run it\nnow <!-- soon -->\n<!--\n# Draft\n-->\n**twice**\n"

theorem ofText_firstPart_append :
    (Reader.start.after (lines firstPart.toList)).InProse ∧
      ofText (firstPart ++ " \t" ++ "\n" ++ "Then stop.\n~~~\n") =
        ofText firstPart ++ ofText "Then stop.\n~~~\n" := by
  have hprose : (Reader.start.after (lines firstPart.toList)).InProse := by decide +kernel
  have hblank : ∀ c ∈ " \t".toList, isBlank c := List.all_eq_true.mp (by decide +kernel)
  exact ⟨hprose, (ofText_append_blank (by decide +kernel) hprose hblank (by decide +kernel) _).1⟩

end SkillAudit.Sentence
