import SkillAudit.Proofs.Markdown.Fenced
import SkillAudit.Proofs.Markdown.Sentence
import SkillAudit.Proofs.Reference.Insertion
import SkillAudit.Proofs.Security.Exact
/-!
# SkillAudit.Proofs.Markdown.Opaque

What stands inside a fence is hidden from all readers of markdown. The line that is there decides
about no other line: blocks are where they are whatever it says, the sentences are the same, and the
references and the findings of other lines are too. On the line itself only the command of a shell
can make a reference.

Every reader is followed in the same way: up to the line it does the same for both texts, the line
leaves it in the same state, and from there on it does the same again.
-/

namespace SkillAudit

open Text

variable {fence : Fence} {state : Option Fence} {xs ys : List (List Char)} {l old new : List Char}

/-- A line inside a fence leaves the fence open. -/
theorem Fence.step_inside (hl : fence.closedBy l = false) :
    Fence.step (some fence) l = some fence ∧ Fence.place (some fence) l = .inside := by
  simp [Fence.step, Fence.place, hl]

/-! ## Blocks -/

namespace Block

/-- A block but for its text. -/
def outline (b : Block) : String × Nat × Nat × Nat := (b.heading, b.level, b.startLine, b.endLine)

/-- A piece but for its text. -/
def shape (piece : Option Heading × List (List Char)) : Option Heading × Nat :=
  (piece.1, piece.2.length)

/-- The shapes of the pieces follow from the headings that the lines give one by one. -/
theorem map_shape_cut_cons {state' : Option Fence} {l' : List Char}
    (hhere : headingAt? state l = headingAt? state' l')
    (hrest : (cut (Fence.step state l) xs).map shape = (cut (Fence.step state' l') ys).map shape) :
    (cut state (l :: xs)).map shape = (cut state' (l' :: ys)).map shape := by
  simp only [cut]
  cases hx : cut (Fence.step state l) xs with
  | nil =>
    rw [hx, List.map_nil, eq_comm, List.map_eq_nil_iff] at hrest
    simp [hrest, shape, hhere]
  | cons piece more =>
    cases hy : cut (Fence.step state' l') ys with
    | nil => simp [hx, hy] at hrest
    | cons piece' more' =>
      rw [hx, hy, List.map_cons, List.map_cons] at hrest
      obtain ⟨hpiece, hmore⟩ := List.cons.inj hrest
      obtain ⟨heading, own⟩ := piece
      obtain ⟨heading', own'⟩ := piece'
      obtain ⟨rfl, hown⟩ := Prod.mk.inj hpiece
      cases heading <;> simp_all [shape]

/-- A line inside a fence does not show in the shapes. -/
theorem map_shape_cut_inside (hafter : Fence.after state xs = some fence)
    (hold : fence.closedBy old = false) (hnew : fence.closedBy new = false)
    (ys : List (List Char)) :
    (cut state (xs ++ new :: ys)).map shape = (cut state (xs ++ old :: ys)).map shape := by
  induction xs generalizing state with
  | nil =>
    obtain rfl : state = some fence := hafter
    obtain ⟨hstepOld, hplaceOld⟩ := Fence.step_inside hold
    obtain ⟨hstepNew, hplaceNew⟩ := Fence.step_inside hnew
    refine map_shape_cut_cons ?_ ?_
    · simp only [headingAt?, hplaceOld, hplaceNew]
    · rw [hstepOld, hstepNew]
  | cons x xs ih => exact map_shape_cut_cons rfl (ih hafter)

/-- The outlines of blocks follow from the shapes of their pieces. -/
theorem map_outline_number {first : Nat} {ps qs : List (Option Heading × List (List Char))}
    (h : ps.map shape = qs.map shape) :
    (number first ps).map outline = (number first qs).map outline := by
  induction ps generalizing qs first with
  | nil =>
    rw [List.map_nil, eq_comm, List.map_eq_nil_iff] at h
    rw [h]
  | cons p ps ih =>
    cases qs with
    | nil => cases h
    | cons q qs =>
      obtain ⟨hpq, hrest⟩ := List.cons.inj h
      obtain ⟨hheading, hlength⟩ := Prod.mk.inj hpq
      rw [number, number, List.map_cons, List.map_cons, ← hlength, ih hrest]
      simp only [outline, ofPiece, hheading, hlength]

end Block

/-! ## Sentences -/

namespace Sentence.Reader

/-- The reader follows the fences. -/
theorem fence_step (r : Reader) (l : List Char) : (r.step l).2.fence = Fence.step r.fence l := by
  unfold step
  simp only
  split
  · split <;> rfl
  · rfl

theorem fence_after (r : Reader) (ls : List (List Char)) :
    (r.after ls).fence = Fence.after r.fence ls := by
  induction ls generalizing r with
  | nil => rfl
  | cons l ls ih =>
    rw [after, List.foldl_cons, ← after, ih, fence_step, Fence.after, Fence.after, List.foldl_cons]

/-- A line inside a fence ends the paragraph, and that is all. -/
theorem step_inside {r : Reader} (hr : r.fence = some fence) (hl : fence.closedBy l = false) :
    r.step l = ([r.paragraph], ⟨some fence, r.inComment, []⟩) := by
  obtain ⟨hstep, hplace⟩ := Fence.step_inside hl
  simp only [step, hr, hplace, hstep]

theorem paragraphs_inside (hafter : Fence.after none xs = some fence)
    (hold : fence.closedBy old = false) (hnew : fence.closedBy new = false)
    (ys : List (List Char)) :
    start.paragraphs (xs ++ new :: ys) = start.paragraphs (xs ++ old :: ys) := by
  have hfence : (start.after xs).fence = some fence := by rw [fence_after, ← hafter, start]
  rw [paragraphs_append, paragraphs_append, paragraphs_cons, paragraphs_cons,
    step_inside hfence hold, step_inside hfence hnew]

end Sentence.Reader

/-! ## References -/

namespace Mention

/-- The references of lines one of which is inside a fence. -/
theorem filter_ofLines_inside (hafter : Fence.after none xs = some fence)
    (hl : fence.closedBy l = false) (first : Nat) (ys : List (List Char)) :
    (ofLines none first (xs ++ l :: ys)).filter (fun m => m.line ≠ first + xs.length) =
        ofLines none first xs ++ ofLines (some fence) (first + xs.length + 1) ys ∧
      (ofLines none first (xs ++ l :: ys)).filter (fun m => m.line = first + xs.length) =
        ofCode (first + xs.length) l := by
  obtain ⟨hstep, hplace⟩ := Fence.step_inside hl
  have hfilter := filter_ofLines none first xs l ys
  rwa [hafter, hstep, hplace] at hfilter

/-- A line of code makes one reference at most, and that to the path of a command. -/
theorem kind_of_mem_ofCode (n : Nat) (l : List Char) :
    (ofCode n l).length ≤ 1 ∧ ∀ m ∈ ofCode n l, m.kind = .codePath := by
  unfold ofCode
  cases commandFile? l <;> simp

end Mention

/-! ## Findings -/

namespace Scan

theorem markdownFrom_append (file : String) (state : Option Fence) (first : Nat)
    (xs ys : List (List Char)) :
    markdownFrom file state first (xs ++ ys) =
      markdownFrom file state first xs ++
        markdownFrom file (Fence.after state xs) (first + xs.length) ys := by
  induction xs generalizing state first with
  | nil => rfl
  | cons x xs ih =>
    rw [List.cons_append, markdownFrom, ih, markdownFrom, List.append_assoc, Fence.after,
      Fence.after, List.foldl_cons, List.length_cons, Nat.add_assoc, Nat.add_comm 1]

theorem number_of_mem_markdownFrom {file : String} {first : Nat} {ls : List (List Char)}
    {line : Line} (h : line ∈ markdownFrom file state first ls) :
    first ≤ line.number ∧ line.number < first + ls.length := by
  obtain ⟨-, i, place, hi, -, hn⟩ := mem_markdownFrom.mp h
  have hline : ls[i]? = some line.text := by
    rw [← Fence.map_snd_places state ls, List.getElem?_map, hi]
    rfl
  have hlt := (List.getElem?_eq_some_iff.mp hline).1
  omega

/-- The findings at all places but one are those about the lines at these places. -/
theorem filter_findings {file : String} {n : Nat} {ls : List Line} (hfile : ∀ l ∈ ls, l.file = file)
    (config : SecurityConfig) :
    (ls.flatMap (findingsOf config)).filter (fun f => f.location ≠ some ⟨file, some n⟩) =
      (ls.filter fun l => l.number ≠ n).flatMap (findingsOf config) := by
  induction ls with
  | nil => rfl
  | cons l ls ih =>
    obtain ⟨rfl, hrest⟩ := List.forall_mem_cons.mp hfile
    rw [List.flatMap_cons, List.filter_append, ih hrest]
    by_cases hn : l.number = n
    · have hnone : (findingsOf config l).filter
          (fun f => f.location ≠ some ⟨l.file, some n⟩) = [] := by
        refine List.filter_eq_nil_iff.mpr fun f hf => ?_
        simp [location_of_mem_findingsOf hf, hn]
      rw [hnone, List.filter_cons_of_neg (by simpa using hn), List.nil_append]
    · have hall : (findingsOf config l).filter
          (fun f => f.location ≠ some ⟨l.file, some n⟩) = findingsOf config l := by
        refine List.filter_eq_self.mpr fun f hf => ?_
        simp [location_of_mem_findingsOf hf, hn]
      rw [hall, List.filter_cons_of_pos (by simpa using hn), List.flatMap_cons]

/-- The findings about markdown with a line inside a fence, at all other lines. -/
theorem filter_findings_inside (hafter : Fence.after none xs = some fence)
    (hl : fence.closedBy l = false) (file : String) (first : Nat) (ys : List (List Char))
    (config : SecurityConfig) :
    ((markdownFrom file none first (xs ++ l :: ys)).flatMap (findingsOf config)).filter
        (fun f => f.location ≠ some ⟨file, some (first + xs.length)⟩) =
      (markdownFrom file none first xs ++
        markdownFrom file (some fence) (first + xs.length + 1) ys).flatMap
          (findingsOf config) := by
  obtain ⟨hstep, hplace⟩ := Fence.step_inside hl
  have hlines : (markdownFrom file none first (xs ++ l :: ys)).filter
      (fun line => line.number ≠ first + xs.length) =
        markdownFrom file none first xs ++
          markdownFrom file (some fence) (first + xs.length + 1) ys := by
    rw [markdownFrom_append, hafter, markdownFrom, hstep, hplace]
    exact (filter_number (fun line h => (number_of_mem_markdownFrom h).2)
      (by simp [contextAt?]) (fun line h => (number_of_mem_markdownFrom h).1)).1
  rw [filter_findings (fun line h => (mem_markdownFrom.mp h).1), hlines]

end Scan

/-! ## Texts -/

/-- What two texts that differ in line `i` have in common for the readers of markdown; in the second
    text it is `line`. -/
structure DifferInside (i : Nat) (line : List Char) (s t : String) : Prop where
  /-- The blocks have the same headings, levels and lines. -/
  outline : ∀ first, (Block.ofText first t).map Block.outline =
    (Block.ofText first s).map Block.outline
  /-- The sentences are the same, -/
  sentences : Sentence.ofText t = Sentence.ofText s
  /-- and so is all that is measured of them. -/
  voice : ∀ {α : Type} [Quantity α] (style : StyleConfig α),
    Voice.ofText style t = Voice.ofText style s
  /-- The references of the other lines are the same, -/
  mentions : ∀ first, (Mention.ofText first t).filter (fun m => m.line ≠ first + i) =
    (Mention.ofText first s).filter fun m => m.line ≠ first + i
  /-- and on the line itself only a command makes one, -/
  mentions_line : ∀ first, (Mention.ofText first t).filter (fun m => m.line = first + i) =
    Mention.ofCode (first + i) line
  /-- which is one at most, and a path in code. -/
  kind_line : ∀ first,
    ((Mention.ofText first t).filter fun m => m.line = first + i).length ≤ 1 ∧
      ∀ m ∈ Mention.ofText first t, m.line = first + i → m.kind = .codePath
  /-- The findings about the other lines of a file with the text are the same, -/
  findings : ∀ (config : SecurityConfig) (file : String) (first : Nat),
    ((Scan.markdown file first t).flatMap (Scan.findingsOf config)).filter
        (fun f => f.location ≠ some ⟨file, some (first + i)⟩) =
      ((Scan.markdown file first s).flatMap (Scan.findingsOf config)).filter
        fun f => f.location ≠ some ⟨file, some (first + i)⟩
  /-- and those about the other lines of a package with the text as its body. -/
  lineFindings : ∀ (config : SecurityConfig) (p : Package), p.body = s →
    (SecurityReport.ofPackage (p.withBody t) config).lineFindings.filter
        (fun f => f.location ≠ some ⟨p.manifestPath, some (p.bodyStartLine + i)⟩) =
      (SecurityReport.ofPackage p config).lineFindings.filter
        fun f => f.location ≠ some ⟨p.manifestPath, some (p.bodyStartLine + i)⟩

/-- The findings about the lines of a package with another body: those about the body change. -/
theorem SecurityReport.filter_lineFindings_withBody {p : Package} {t : String}
    {config : SecurityConfig} {keep : Finding → Bool}
    (h : ((Scan.markdown p.manifestPath p.bodyStartLine t).flatMap
        (Scan.findingsOf config)).filter keep =
      ((Scan.markdown p.manifestPath p.bodyStartLine p.body).flatMap
        (Scan.findingsOf config)).filter keep) :
    (ofPackage (p.withBody t) config).lineFindings.filter keep =
      (ofPackage p config).lineFindings.filter keep := by
  simp only [lineFindings_ofPackage, Scan.ofPackage, Scan.ofManifest, List.flatMap_append,
    List.filter_append, Package.withBody, h]

/-- Texts that differ in a line that is met with a fence open, and closes it in neither. -/
theorem differInside_of_lines {s t : String} (hafter : Fence.after none xs = some fence)
    (hold : fence.closedBy old = false) (hnew : fence.closedBy new = false)
    (hs : lines s.toList = xs ++ old :: ys) (ht : lines t.toList = xs ++ new :: ys) :
    DifferInside xs.length new s t := by
  have hsentences : Sentence.ofText t = Sentence.ofText s := by
    rw [Sentence.ofText, Sentence.ofText, hs, ht,
      Sentence.Reader.paragraphs_inside hafter hold hnew]
  have hmentions (first : Nat) :=
    Mention.filter_ofLines_inside hafter hnew first ys
  have hkind (first : Nat) := Mention.kind_of_mem_ofCode (first + xs.length) new
  have hfindings (config : SecurityConfig) (file : String) (first : Nat) :
      ((Scan.markdown file first t).flatMap (Scan.findingsOf config)).filter
          (fun f => f.location ≠ some ⟨file, some (first + xs.length)⟩) =
        ((Scan.markdown file first s).flatMap (Scan.findingsOf config)).filter
          fun f => f.location ≠ some ⟨file, some (first + xs.length)⟩ := by
    rw [Scan.markdown, Scan.markdown, hs, ht, Scan.filter_findings_inside hafter hold,
      Scan.filter_findings_inside hafter hnew]
  refine {
    outline := fun first => ?_
    sentences := hsentences
    voice := fun style => by simp only [Voice.ofText, hsentences]
    mentions := fun first => ?_
    mentions_line := fun first => ?_
    kind_line := fun first => ?_
    findings := hfindings
    lineFindings := fun config p hp => ?_ }
  · rw [Block.ofText, Block.ofText, hs, ht]
    exact Block.map_outline_number (Block.map_shape_cut_inside hafter hold hnew ys)
  · rw [Mention.ofText, Mention.ofText, hs, ht, (hmentions first).1,
      (Mention.filter_ofLines_inside hafter hold first ys).1]
  · rw [Mention.ofText, ht, (hmentions first).2]
  · rw [Mention.ofText, ht]
    refine ⟨by rw [(hmentions first).2]; exact (hkind first).1, fun m hm hn => ?_⟩
    refine (hkind first).2 m ?_
    rw [← (hmentions first).2]
    exact List.mem_filter.mpr ⟨hm, decide_eq_true hn⟩
  · subst hp
    exact SecurityReport.filter_lineFindings_withBody (hfindings config _ _)

/-- A line strictly inside a fence is hidden from the readers of markdown: whatever is put in its
    place, unless it closes the fence, makes no difference but on that line. -/
theorem differInside_of_encloses {i : Nat} {line : List Char} {s t : String}
    (hi : i < (lines s.toList).length) (hinside : fence.Encloses (lines s.toList) i)
    (hline : ¬fence.Closes line) (ht : lines t.toList = (lines s.toList).set i line) :
    DifferInside i line s t := by
  obtain ⟨hafter, hold⟩ := (Fence.encloses_iff (List.getElem?_eq_getElem hi)).mp hinside
  have hnew : fence.closedBy line = false := by
    obtain ⟨j, -, hopens, -⟩ := hinside
    obtain ⟨opener, -, hopener⟩ := hopens.exists_opens
    exact hopener.closedBy_eq_false_iff.mpr hline
  have hs : lines s.toList =
      (lines s.toList).take i ++ (lines s.toList)[i] :: (lines s.toList).drop (i + 1) := by
    rw [List.getElem_cons_drop, List.take_append_drop]
  rw [List.set_eq_take_append_cons_drop, if_pos hi] at ht
  have hdiffer := differInside_of_lines hafter hold hnew hs ht
  rwa [List.length_take_of_le (Nat.le_of_lt hi)] at hdiffer

/-! ### A line of a session -/

/-- A session in a fence of four tildes, with three on one of its lines. -/
def tildeSession (line : String) : String := "# Notes\n~~~~sh\n" ++ line ++ "\n~~~\n~~~~\nRun it.\n"

/-- What would be a heading, a link, a comment and code in turn. -/
theorem differInside_tildeSession :
    DifferInside 2 "## [x](gone.md) <!-- eval(x)".toList (tildeSession "cat notes.md")
      (tildeSession "## [x](gone.md) <!-- eval(x)") := by
  have hopens : Fence.Opens ⟨'~', 4⟩ "~~~~sh".toList :=
    Fence.openedBy?_eq_some.mp (by decide +kernel)
  have hinside : Fence.Encloses ⟨'~', 4⟩ (lines (tildeSession "cat notes.md").toList) 2 :=
    (Fence.encloses_iff rfl).mpr ⟨by decide +kernel, by decide +kernel⟩
  exact differInside_of_encloses (by decide +kernel) hinside
    (hopens.closedBy_eq_false_iff.mp (by decide +kernel)) (by decide +kernel)

end SkillAudit
