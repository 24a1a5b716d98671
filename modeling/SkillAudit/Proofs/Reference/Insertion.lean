import SkillAudit.Proofs.Package.Notes
import SkillAudit.Proofs.Reference.Blocks
import SkillAudit.Proofs.Reference.FileGraph
import SkillAudit.Proofs.Reference.Graph
import SkillAudit.Proofs.Reference.Link
/-!
# SkillAudit.Proofs.Reference.Insertion

Putting a line into the body of a manifest that is a link to a path that leads nowhere. The one new
finding is that of the new line. All other references are still made, from the lines below it one
line further down, so that all other findings stay but for their lines:

* `exists_ofPackage_insert` — the citations of the package with the new line;
* `findings_insert` — its findings.
-/

namespace SkillAudit

open Text

/-! ## Moving down -/

/-- The number of a line after a line has been put in as line `n`. -/
def movedLine (n line : Nat) : Nat := if n ≤ line then line + 1 else line

theorem movedLine_inj {n a b : Nat} : movedLine n a = movedLine n b ↔ a = b := by
  unfold movedLine
  split <;> split <;> omega

/-- The new line is not one of the old ones. -/
theorem movedLine_ne (n line : Nat) : movedLine n line ≠ n := by
  unfold movedLine
  split <;> omega

/-- A place after a line has been put into a file as line `n`. -/
def Location.moved (path : String) (n : Nat) (l : Location) : Location :=
  if l.file = path then { l with line := l.line.map (movedLine n) } else l

/-- A finding after a line has been put into a file as line `n`: only its line may change. -/
def Finding.moved (path : String) (n : Nat) (f : Finding) : Finding :=
  { f with location := f.location.map (Location.moved path n) }

namespace Citation

/-- A citation after a line has been put into a file as line `n`. -/
def moved (path : String) (n : Nat) (c : Citation) : Citation :=
  if c.source = path then { c with mention.line := movedLine n c.mention.line } else c

variable {path : String} {n : Nat} {c : Citation}

theorem moved_source : (c.moved path n).source = c.source := by
  unfold moved
  split <;> rfl

theorem moved_target : (c.moved path n).mention.target = c.mention.target := by
  unfold moved
  split <;> rfl

theorem sameAs_moved (path : String) (n : Nat) (a b : Citation) :
    (a.moved path n).sameAs (b.moved path n) = a.sameAs b := by
  rw [Bool.eq_iff_iff, sameAs_iff, sameAs_iff, moved_source, moved_source, moved_target,
    moved_target]
  refine and_congr_right fun hsource => and_congr_left' ?_
  unfold moved
  rw [hsource]
  split
  · exact movedLine_inj
  · rfl

/-- The line that is put in holds none of the old citations. -/
theorem moved_line_ne (h : c.source = path) : (c.moved path n).mention.line ≠ n := by
  rw [moved, if_pos h]
  exact movedLine_ne n c.mention.line

/-- A citation leads where it led. -/
theorem resolution_moved (p : Package) (path : String) (n : Nat) (c : Citation) :
    (c.moved path n).resolution p = c.resolution p := by
  rw [resolution, resolution, Citation.path, Citation.path, moved_source, moved_target]

/-- What is reported about a citation moves with it. -/
theorem finding?_moved (p : Package) (path : String) (n : Nat) (c : Citation) :
    (c.moved path n).finding? p = (c.finding? p).map (Finding.moved path n) := by
  have hlocation : (⟨(c.moved path n).source, some (c.moved path n).mention.line⟩ : Location) =
      Location.moved path n ⟨c.source, some c.mention.line⟩ := by
    unfold moved Location.moved
    split <;> rfl
  unfold finding?
  simp only [resolution_moved, hlocation, moved_target]
  cases c.resolution p with
  | ending first others =>
    simp only
    split <;> rfl
  | _ => rfl

/-- Whether a citation stands in a file of the package other than the one at `path`, and leads
    there. -/
def leadsTo (p : Package) (path : String) (c : Citation) : Bool :=
  (c.resolution p).path? == some path && c.source != path && p.hasFile c.source

end Citation

/-! ## Another body -/

/-- The package with another body, cut into blocks again. -/
def Package.withBody (p : Package) (body : String) : Package :=
  { p with body := body, blocks := Block.ofText p.bodyStartLine body }

namespace Citation

variable {p : Package}

/-- The citations that the reference files make. -/
def ofReferences (p : Package) : List Citation :=
  (p.filesOf .reference).flatMap fun f =>
    ofMentions f.path ((f.text.map (Mention.ofText 1)).getD [])

/-- The citations of a manifest are those of the lines of its body. -/
theorem ofPackage_withBody (p : Package) (body : String) :
    ofPackage (p.withBody body) =
      ofMentions p.manifestPath
        (Mention.ofLines none p.bodyStartLine ((lines body.toList).map dropReturn)) ++
        ofReferences p := by
  rw [ofPackage, Package.withBody, Block.mentions_ofText]
  rfl

/-- A coherent package is determined by its body and what is around it. -/
theorem withBody_body (hp : p.Coherent) : p.withBody p.body = p := by
  rw [Package.withBody, ← hp.blocks_eq]

/-- The reference files are not touched. -/
theorem map_moved_ofReferences (hp : p.Coherent) (n : Nat) :
    (ofReferences p).map (moved p.manifestPath n) = ofReferences p := by
  have hid : ∀ c ∈ ofReferences p, moved p.manifestPath n c = id c := by
    intro c hc
    obtain ⟨f, hf, hc⟩ := List.mem_flatMap.mp hc
    obtain ⟨hmem, hrole⟩ := List.mem_filter.mp hf
    have hne : c.source ≠ p.manifestPath := by
      rw [(mem_ofMentions.mp hc).1]
      refine hp.path_ne hmem ?_
      rw [beq_iff_eq.mp hrole]
      decide
    rw [moved, if_neg hne, id]
  rw [List.map_congr_left hid, List.map_id]

/-- Nothing moves above the new line. -/
theorem map_moved_above {path : String} {n : Nat} {mentions : List Mention}
    (h : ∀ m ∈ mentions, m.line < n) :
    (ofMentions path mentions).map (moved path n) = ofMentions path mentions := by
  rw [ofMentions, List.map_map]
  refine List.map_congr_left fun m hm => ?_
  have hline : movedLine n m.line = m.line := if_neg (Nat.not_le.mpr (h m hm))
  rw [Function.comp_apply, moved, if_pos rfl, hline]

/-- All lines below the new one move down by one. -/
theorem map_moved_below {path : String} {state : Option Fence} {n : Nat} {ls : List (List Char)} :
    (ofMentions path (Mention.ofLines state n ls)).map (moved path n) =
      ofMentions path (Mention.ofLines state (n + 1) ls) := by
  rw [Mention.ofLines_add, ofMentions, ofMentions, List.map_map, List.map_map]
  refine List.map_congr_left fun m hm => ?_
  have hline : movedLine n m.line = m.line + 1 := if_pos (Mention.line_of_mem_ofLines hm).1
  rw [Function.comp_apply, Function.comp_apply, moved, if_pos rfl, hline]
  rfl

/-- With a link on a new line, outside any fence, a package has its old citations and that of the
    link between them. -/
theorem exists_ofPackage_insert (hp : p.Coherent) {a b t : String} (hbody : p.body = a ++ b)
    (ha : EndsLine a.toList) (hfence : Fence.after none (lines a.toList) = none)
    (ht : Target.looksLikePath t.toList) {n : Nat}
    (hn : n = p.bodyStartLine + (lines a.toList).length) :
    ∃ xs ys, ofPackage p = xs ++ ys ∧
      ofPackage (p.withBody (a ++ "[x](" ++ t ++ ")\n" ++ b)) =
        xs.map (moved p.manifestPath n) ++
          ⟨p.manifestPath, n, t, .markdownLink⟩ :: ys.map (moved p.manifestPath n) := by
  have hafter : Fence.after none ((lines a.toList).map dropReturn) = none := by
    rw [Fence.after_map_dropReturn, hfence]
  have htext : (a ++ "[x](" ++ t ++ ")\n" ++ b).toList =
      a.toList ++ (Mention.linkLine t.toList ++ '\n' :: b.toList) := by
    simp [Mention.linkLine]
  have hold : (lines p.body.toList).map dropReturn =
      (lines a.toList).map dropReturn ++ (lines b.toList).map dropReturn := by
    rw [hbody, String.toList_append, lines_append ha, List.map_append]
  have hnew : (lines (a ++ "[x](" ++ t ++ ")\n" ++ b).toList).map dropReturn =
      (lines a.toList).map dropReturn ++
        Mention.linkLine t.toList :: (lines b.toList).map dropReturn := by
    rw [htext, lines_append ha, lines_line_append (Mention.newline_not_mem_linkLine ht),
      List.map_append, List.map_cons, Mention.dropReturn_linkLine, Mention.dropReturn_linkLine]
  have habove : ∀ m ∈ Mention.ofLines none p.bodyStartLine ((lines a.toList).map dropReturn),
      m.line < n := by
    intro m hm
    have hline := (Mention.line_of_mem_ofLines hm).2
    rwa [List.length_map, ← hn] at hline
  refine ⟨ofMentions p.manifestPath
      (Mention.ofLines none p.bodyStartLine ((lines a.toList).map dropReturn)),
    ofMentions p.manifestPath (Mention.ofLines none n ((lines b.toList).map dropReturn)) ++
      ofReferences p, ?_, ?_⟩
  · have hsplit := ofPackage_withBody p p.body
    rw [withBody_body hp, hold, Mention.ofLines_append, hafter, List.length_map, ← hn,
      ofMentions, List.map_append] at hsplit
    rw [hsplit, ofMentions, ofMentions, List.append_assoc]
  · rw [ofPackage_withBody, hnew, Mention.ofLines_append, hafter, List.length_map, ← hn,
      Mention.ofLines_linkLine ht, map_moved_above habove, List.map_append, map_moved_below,
      map_moved_ofReferences hp, ofMentions, List.map_append, List.map_cons, String.ofList_toList,
      ofMentions, ofMentions, List.append_assoc, List.cons_append]

end Citation

/-! ## The graph -/

namespace ReferenceGraph

/-- The finding about a link that leads nowhere. -/
def brokenLink (path : String) (n : Nat) (target : String) : Finding where
  rule := "broken-reference"
  category := .reference
  severity := .high
  message := s!"Broken reference: '{target}' does not exist in the package"
  location := some ⟨path, some n⟩
  suggestion := none

variable {p : Package} {config : ReferencesConfig}

/-- The references of a package with a new line that leads nowhere: the old ones, moved, and the
    new one between them. -/
theorem exists_distinct_insert (hp : p.Coherent) {a b t : String} (hbody : p.body = a ++ b)
    (ha : EndsLine a.toList) (hfence : Fence.after none (lines a.toList) = none)
    (ht : Target.looksLikePath t.toList) {n : Nat}
    (hn : n = p.bodyStartLine + (lines a.toList).length) :
    ∃ before behind, Citation.distinct (Citation.ofPackage p) = before ++ behind ∧
      Citation.distinct (Citation.ofPackage (p.withBody (a ++ "[x](" ++ t ++ ")\n" ++ b))) =
        before.map (Citation.moved p.manifestPath n) ++
          ⟨p.manifestPath, n, t, .markdownLink⟩ ::
            behind.map (Citation.moved p.manifestPath n) := by
  obtain ⟨xs, ys, hold, hnew⟩ := Citation.exists_ofPackage_insert hp hbody ha hfence ht hn
  have hfresh : ∀ d ∈ xs.map (Citation.moved p.manifestPath n) ++
      ys.map (Citation.moved p.manifestPath n),
      ¬d.sameAs ⟨p.manifestPath, n, t, .markdownLink⟩ := by
    intro d hd hsame
    rw [← List.map_append] at hd
    obtain ⟨c, -, rfl⟩ := List.mem_map.mp hd
    obtain ⟨hsource, hline, -⟩ := Citation.sameAs_iff.mp hsame
    rw [Citation.moved_source] at hsource
    exact Citation.moved_line_ne hsource hline
  obtain ⟨before, behind, hmoved, hinsert⟩ := Citation.exists_distinct_cons hfresh
  have hmap : before ++ behind =
      (Citation.distinct (Citation.ofPackage p)).map (Citation.moved p.manifestPath n) := by
    rw [← hmoved, ← List.map_append, ← hold]
    exact Citation.distinctFrom_map (Citation.sameAs_moved p.manifestPath n) [] _
  obtain ⟨before', behind', hsplit, rfl, rfl⟩ := List.map_eq_append_iff.mp hmap.symm
  exact ⟨before', behind', hsplit, hnew ▸ hinsert⟩

/-- The graph of citations that repeat nothing. -/
def ofCitations (p : Package) (config : ReferencesConfig) (citations : List Citation) :
    ReferenceGraph :=
  let edges := citations.map (Edge.ofCitation p)
  let entrypoints := p.entrypoints config
  let orphans := orphansOf p entrypoints edges
  { edges := edges
    orphans := orphans
    entrypoints := entrypoints
    findings := citations.filterMap (Citation.finding? p) ++ orphans.map orphanFinding }

theorem ofPackage_eq (p : Package) (config : ReferencesConfig) :
    ofPackage p config = ofCitations p config (Citation.distinct (Citation.ofPackage p)) := rfl

/-- The body matters for the citations only. -/
theorem ofCitations_withBody (p : Package) (body : String) (config : ReferencesConfig)
    (citations : List Citation) :
    ofCitations (p.withBody body) config citations = ofCitations p config citations := by
  have hresolution : Citation.resolution (p.withBody body) = Citation.resolution p := rfl
  have hedge : Edge.ofCitation (p.withBody body) = Edge.ofCitation p := by
    funext c
    simp only [Edge.ofCitation, hresolution]
  have hfinding : Citation.finding? (p.withBody body) = Citation.finding? p := by
    funext c
    simp only [Citation.finding?, hresolution]
  have hreferenced : isReferenced (p.withBody body) = isReferenced p := rfl
  have hentrypoints : (p.withBody body).entrypoints config = p.entrypoints config := rfl
  have hfiles : (p.withBody body).files = p.files := rfl
  simp only [ofCitations, orphansOf_eq, hedge, hfinding, hreferenced, hentrypoints, hfiles]

/-- A file is referred to if a citation from another file leads to it. -/
theorem isReferenced_map (p : Package) (citations : List Citation) (path : String) :
    isReferenced p (citations.map (Edge.ofCitation p)) path = citations.any (·.leadsTo p path) := by
  simp only [isReferenced, List.any_map, Function.comp_def, Edge.ofCitation, Citation.leadsTo]

section

variable {path : String} {n : Nat} {before behind : List Citation} {c : Citation}

/-- Moving citations, and putting one that leads nowhere between them, refers to no other files. -/
theorem isReferenced_insert (hc : c.resolution p = .broken) (file : String) :
    isReferenced p ((before.map (Citation.moved path n) ++
        c :: behind.map (Citation.moved path n)).map (Edge.ofCitation p)) file =
      isReferenced p ((before ++ behind).map (Edge.ofCitation p)) file := by
  have hmoved : (fun d : Citation => (d.moved path n).leadsTo p file) = (·.leadsTo p file) := by
    funext d
    rw [Citation.leadsTo, Citation.resolution_moved, Citation.moved_source, Citation.leadsTo]
  have hnone : c.leadsTo p file = false := by
    rw [Citation.leadsTo, hc]
    rfl
  rw [isReferenced_map, isReferenced_map, List.any_append, List.any_append, List.any_cons,
    List.any_map, List.any_map, Function.comp_def, hmoved, hnone, Bool.false_or]

/-- So it leaves the same files alone. -/
theorem orphans_insert (hc : c.resolution p = .broken) :
    (ofCitations p config (before.map (Citation.moved path n) ++
        c :: behind.map (Citation.moved path n))).orphans =
      (ofCitations p config (before ++ behind)).orphans := by
  simp only [ofCitations, orphansOf_eq, isReferenced_insert hc]

/-- A file that nothing refers to is reported without a line, so nothing moves. -/
theorem moved_orphanFinding (path : String) (n : Nat) (file : String) :
    (orphanFinding file).moved path n = orphanFinding file := by
  simp only [Finding.moved, orphanFinding, Option.map_some, Location.moved, Option.map_none,
    ite_self]

/-- The findings move with their citations, and that of the new one stands between them. -/
theorem findings_ofCitations_insert {f : Finding} (hc : c.resolution p = .broken)
    (hf : c.finding? p = some f) :
    ∃ above below, (ofCitations p config (before ++ behind)).findings = above ++ below ∧
      (ofCitations p config (before.map (Citation.moved path n) ++
          c :: behind.map (Citation.moved path n))).findings =
        above.map (Finding.moved path n) ++ f :: below.map (Finding.moved path n) := by
  have hmoved (citations : List Citation) :
      (citations.map (Citation.moved path n)).filterMap (Citation.finding? p) =
        (citations.filterMap (Citation.finding? p)).map (Finding.moved path n) := by
    have hcomp : Citation.finding? p ∘ Citation.moved path n =
        fun d => (d.finding? p).map (Finding.moved path n) := by
      funext d
      rw [Function.comp_apply, Citation.finding?_moved]
    rw [List.filterMap_map, List.map_filterMap, hcomp]
  have horphans (files : List String) :
      (files.map orphanFinding).map (Finding.moved path n) = files.map orphanFinding := by
    rw [List.map_map]
    exact List.map_congr_left fun file _ => moved_orphanFinding path n file
  have hfindings (citations : List Citation) : (ofCitations p config citations).findings =
      citations.filterMap (Citation.finding? p) ++
        (ofCitations p config citations).orphans.map orphanFinding := rfl
  refine ⟨before.filterMap (Citation.finding? p), behind.filterMap (Citation.finding? p) ++
    (ofCitations p config (before ++ behind)).orphans.map orphanFinding, ?_, ?_⟩
  · rw [hfindings, List.filterMap_append, List.append_assoc]
  · rw [hfindings, orphans_insert hc, List.filterMap_append, List.filterMap_cons_some hf, hmoved,
      hmoved, List.map_append, horphans, List.append_assoc, List.cons_append]

end

/-- A new line that is a link to a path that leads nowhere makes one new finding, that of the link
    on its line. All other findings stay in their order, those in the manifest at or below the new
    line one line further down, and the orphans and the entry points stay. -/
theorem findings_insert (hp : p.Coherent) {a b t : String} (hbody : p.body = a ++ b)
    (ha : EndsLine a.toList) (hfence : Fence.after none (lines a.toList) = none)
    (ht : Target.looksLikePath t.toList)
    (hbroken : p.resolve "" (FilePath.ofTarget t) = .broken) (config : ReferencesConfig) :
    let q := p.withBody (a ++ "[x](" ++ t ++ ")\n" ++ b)
    let n := p.bodyStartLine + (lines a.toList).length
    (∃ before behind, (ofPackage p config).findings = before ++ behind ∧
      (ofPackage q config).findings =
        before.map (Finding.moved p.manifestPath n) ++
          brokenLink p.manifestPath n t :: behind.map (Finding.moved p.manifestPath n)) ∧
      (ofPackage q config).orphans = (ofPackage p config).orphans ∧
      (ofPackage q config).entrypoints = (ofPackage p config).entrypoints := by
  intro q n
  obtain ⟨before, behind, hold, hnew⟩ := exists_distinct_insert hp hbody ha hfence ht rfl
  have hlink : (⟨p.manifestPath, n, t, .markdownLink⟩ : Citation).resolution p = .broken := by
    rw [Citation.resolution, hp.folder_manifestPath]
    exact hbroken
  have hfinding : (⟨p.manifestPath, n, t, .markdownLink⟩ : Citation).finding? p =
      some (brokenLink p.manifestPath n t) := by
    unfold Citation.finding?
    rw [hlink]
    rfl
  rw [ofPackage_eq, ofPackage_eq, hold, hnew, ofCitations_withBody]
  exact ⟨findings_ofCitations_insert hlink hfinding, orphans_insert hlink, rfl⟩

/-! ### A second dangling link -/

/-- A package whose manifest has a dangling link below a heading. -/
def danglingNotes : Package := .notes .named ("# Notes\n" ++ "See [y](gone.md).\r\n") []

/-- A second dangling link between the heading and the first one is found where it stands. -/
theorem findings_insert_danglingNotes :
    ∃ before behind, (ofPackage danglingNotes ⟨[]⟩).findings = before ++ behind ∧
      (ofPackage (danglingNotes.withBody
          ("# Notes\n" ++ "[x](" ++ "references/guide.md" ++ ")\n" ++ "See [y](gone.md).\r\n"))
        ⟨[]⟩).findings =
          before.map (Finding.moved "SKILL.md" 5) ++
            brokenLink "SKILL.md" 5 "references/guide.md" ::
              behind.map (Finding.moved "SKILL.md" 5) :=
  (findings_insert Package.coherent_notes rfl (by decide +kernel) (by decide +kernel)
    (by decide +kernel) (by decide +kernel) ⟨[]⟩).1

end ReferenceGraph

end SkillAudit
