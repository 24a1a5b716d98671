import Mathlib.Data.List.Nodup
import SkillAudit.Proofs.Markdown.Layout
import SkillAudit.Proofs.Package.Path
import SkillAudit.Security.Scan
/-!
# SkillAudit.Proofs.Security.Line

The lines that a security scan looks at. Every line of the front matter, of the body, of a script
and of a reference file stands in the package under its path and number, in the context that it has
there by the layout of its text; only the lines that delimit a fence have none. These are the lines
that are scanned, each one once:

* `mem_ofPackage` — a line is scanned if and only if it stands in the package in a context;
* `Stands.unique` — a path and a number name one line at most;
* `pairwise_ofPackage` — no path and number are scanned twice.
-/

namespace SkillAudit.Scan

open Text

/-- The lines of a package that are code or prose, by path, number and text, with the context that
    they have; the lines that delimit a fence have none. -/
inductive Stands (p : Package) : String → Nat → List Char → Option LineContext → Prop
  | frontMatter {i : Nat} {text : List Char}
      (line : (lines p.frontMatter.raw.toList)[i]? = some text) :
      Stands p p.manifestPath (FrontMatter.startLine + i) text (some .prose)
  | body {i : Nat} {text : List Char} {places : List Fence.Place} {place : Fence.Place}
      (line : (lines p.body.toList)[i]? = some text)
      (layout : Fence.Layout (lines p.body.toList) places) (stands : places[i]? = some place) :
      Stands p p.manifestPath (p.bodyStartLine + i) text (contextAt? place)
  | script {f : PackageFile} {content : String} {i : Nat} {text : List Char} (file : f ∈ p.files)
      (role : f.role = .script) (read : f.text = some content)
      (line : (lines content.toList)[i]? = some text) :
      Stands p f.path (1 + i) text (some .script)
  | reference {f : PackageFile} {content : String} {i : Nat} {text : List Char}
      {places : List Fence.Place} {place : Fence.Place} (file : f ∈ p.files)
      (role : f.role = .reference) (read : f.text = some content)
      (line : (lines content.toList)[i]? = some text)
      (layout : Fence.Layout (lines content.toList) places) (stands : places[i]? = some place) :
      Stands p f.path (1 + i) text (contextAt? place)

variable {p : Package} {l : Line}

/-- Every line of the body stands in the package. -/
theorem exists_stands_body {i : Nat} {text : List Char}
    (h : (lines p.body.toList)[i]? = some text) :
    ∃ context, Stands p p.manifestPath (p.bodyStartLine + i) text context := by
  rw [← Fence.map_snd_places none (lines p.body.toList), List.getElem?_map,
    Option.map_eq_some_iff] at h
  obtain ⟨⟨place, line⟩, hi, rfl⟩ := h
  obtain ⟨hline, places, hlayout, hplace⟩ := Fence.getElem?_places.mp hi
  exact ⟨contextAt? place, .body hline hlayout hplace⟩

/-! ## Scanned lines -/

theorem mem_plain {file : String} {context : LineContext} {first : Nat} {text : String} :
    l ∈ plain file context first text ↔
      l.file = file ∧ l.context = context ∧
        ∃ i, (lines text.toList)[i]? = some l.text ∧ l.number = first + i := by
  rw [plain, List.mem_map]
  constructor
  · rintro ⟨⟨n, line⟩, hmem, rfl⟩
    exact ⟨rfl, rfl, mem_numberedLines.mp hmem⟩
  · rintro ⟨rfl, rfl, i, hi, hn⟩
    exact ⟨(l.number, l.text), mem_numberedLines.mpr ⟨i, hi, hn⟩, rfl⟩

theorem mem_markdownFrom {file : String} {state : Option Fence} {first : Nat}
    {ls : List (List Char)} :
    l ∈ markdownFrom file state first ls ↔
      l.file = file ∧ ∃ i place, (Fence.places state ls)[i]? = some (place, l.text) ∧
        contextAt? place = some l.context ∧ l.number = first + i := by
  induction ls generalizing state first with
  | nil => simp [markdownFrom, Fence.places]
  | cons text ls ih =>
    simp only [markdownFrom, List.mem_append, Option.mem_toList, Option.map_eq_some_iff, ih,
      Fence.places]
    constructor
    · rintro (⟨context, hcontext, rfl⟩ | ⟨hfile, i, place, hi, hcontext, hn⟩)
      · exact ⟨rfl, 0, _, rfl, hcontext, rfl⟩
      · exact ⟨hfile, i + 1, place, hi, hcontext, by omega⟩
    · rintro ⟨hfile, i, place, hi, hcontext, hn⟩
      cases i with
      | zero =>
        cases hi
        exact .inl ⟨l.context, hcontext, by rw [← hfile, ← Nat.add_zero first, ← hn]⟩
      | succ i => exact .inr ⟨hfile, i, place, hi, hcontext, by omega⟩

/-- The scanned lines of a markdown text are those that have a context by its layout. -/
theorem mem_markdown {file : String} {first : Nat} {text : String} :
    l ∈ markdown file first text ↔
      l.file = file ∧ ∃ i places place, (lines text.toList)[i]? = some l.text ∧
        Fence.Layout (lines text.toList) places ∧ places[i]? = some place ∧
          contextAt? place = some l.context ∧ l.number = first + i := by
  rw [markdown, mem_markdownFrom]
  refine and_congr_right fun _ => exists_congr fun i => ?_
  constructor
  · rintro ⟨place, hi, hcontext, hn⟩
    obtain ⟨hline, places, hlayout, hplace⟩ := Fence.getElem?_places.mp hi
    exact ⟨places, place, hline, hlayout, hplace, hcontext, hn⟩
  · rintro ⟨places, place, hline, hlayout, hplace, hcontext, hn⟩
    exact ⟨place, Fence.getElem?_places.mpr ⟨hline, places, hlayout, hplace⟩, hcontext, hn⟩

theorem ofFile_eq_some {f : PackageFile} {ls : List Line} :
    ofFile f = some ls ↔ ∃ content, f.text = some content ∧
      (f.role = .script ∧ ls = plain f.path .script 1 content ∨
        f.role = .reference ∧ ls = markdown f.path 1 content) := by
  unfold ofFile
  rw [Option.bind_eq_some_iff]
  refine exists_congr fun content => and_congr_right fun _ => ?_
  cases f.role <;> simp [eq_comm]

/-- A line is scanned if and only if it stands in the package in a context. -/
theorem mem_ofPackage : l ∈ ofPackage p ↔ Stands p l.file l.number l.text (some l.context) := by
  simp only [ofPackage, ofManifest, List.mem_append, List.mem_flatten, List.mem_filterMap]
  constructor
  · rintro ((h | h) | ⟨ls, ⟨f, hf, hfile⟩, h⟩)
    · obtain ⟨hfile, hcontext, i, hline, hn⟩ := mem_plain.mp h
      rw [hfile, hcontext, hn]
      exact .frontMatter hline
    · obtain ⟨hfile, i, places, place, hline, hlayout, hplace, hcontext, hn⟩ := mem_markdown.mp h
      rw [hfile, ← hcontext, hn]
      exact .body hline hlayout hplace
    · obtain ⟨content, hread, ⟨hrole, rfl⟩ | ⟨hrole, rfl⟩⟩ := ofFile_eq_some.mp hfile
      · obtain ⟨hfile, hcontext, i, hline, hn⟩ := mem_plain.mp h
        rw [hfile, hcontext, hn]
        exact .script hf hrole hread hline
      · obtain ⟨hfile, i, places, place, hline, hlayout, hplace, hcontext, hn⟩ := mem_markdown.mp h
        rw [hfile, ← hcontext, hn]
        exact .reference hf hrole hread hline hlayout hplace
  · obtain ⟨file, number, context, text⟩ := l
    intro h
    generalize hcontext : some context = context? at h
    cases h with
    | frontMatter line =>
      cases hcontext
      exact .inl (.inl (mem_plain.mpr ⟨rfl, rfl, _, line, rfl⟩))
    | body line layout stands =>
      exact .inl (.inr (mem_markdown.mpr ⟨rfl, _, _, _, line, layout, stands, hcontext.symm, rfl⟩))
    | script file role read line =>
      cases hcontext
      exact .inr ⟨_, ⟨_, file, ofFile_eq_some.mpr ⟨_, read, .inl ⟨role, rfl⟩⟩⟩,
        mem_plain.mpr ⟨rfl, rfl, _, line, rfl⟩⟩
    | reference file role read line layout stands =>
      exact .inr ⟨_, ⟨_, file, ofFile_eq_some.mpr ⟨_, read, .inr ⟨role, rfl⟩⟩⟩,
        mem_markdown.mpr ⟨rfl, _, _, _, line, layout, stands, hcontext.symm, rfl⟩⟩

/-! ## Paths and numbers -/

/-- A path and a number name one line at most, and give it one context at most. -/
theorem Stands.unique (hp : p.IsUnambiguous) {file : String} {n : Nat} {s t : List Char}
    {c d : Option LineContext} (hs : Stands p file n s c) (ht : Stands p file n t d) :
    s = t ∧ c = d := by
  have hlt {i : Nat} {ls : List (List Char)} {l : List Char} (h : ls[i]? = some l) :
      i < ls.length := (List.getElem?_eq_some_iff.mp h).1
  have hplaces {i : Nat} {ls : List (List Char)} {ps qs : List Fence.Place} {x y : Fence.Place}
      (hps : Fence.Layout ls ps) (hqs : Fence.Layout ls qs) (hx : ps[i]? = some x)
      (hy : qs[i]? = some y) : contextAt? x = contextAt? y := by
    rw [hps.eq] at hx
    rw [hqs.eq, hx] at hy
    rw [Option.some.inj hy]
  have hraw := hp.raw_le_body
  generalize hfile : file = file' at ht
  generalize hn : n = n' at ht
  -- lines of different kinds differ in number within the manifest, and in path or role otherwise
  cases hs with
  | frontMatter line =>
    have hi := hlt line
    cases ht with
    | frontMatter line' =>
      obtain rfl := Nat.add_left_cancel hn
      exact ⟨Option.some.inj (line.symm.trans line'), rfl⟩
    | body line' _ _ => omega
    | script mem role _ _ => exact absurd hfile.symm (hp.path_ne _ mem (.inl role))
    | reference mem role _ _ _ _ => exact absurd hfile.symm (hp.path_ne _ mem (.inr role))
  | body line layout stands =>
    cases ht with
    | frontMatter line' =>
      have hi := hlt line'
      omega
    | body line' layout' stands' =>
      obtain rfl := Nat.add_left_cancel hn
      exact ⟨Option.some.inj (line.symm.trans line'), hplaces layout layout' stands stands'⟩
    | script mem role _ _ => exact absurd hfile.symm (hp.path_ne _ mem (.inl role))
    | reference mem role _ _ _ _ => exact absurd hfile.symm (hp.path_ne _ mem (.inr role))
  | script mem role read line =>
    cases ht with
    | frontMatter _ => exact absurd hfile (hp.path_ne _ mem (.inl role))
    | body _ _ _ => exact absurd hfile (hp.path_ne _ mem (.inl role))
    | script mem' role' read' line' =>
      obtain rfl := Nat.add_left_cancel hn
      obtain rfl := List.inj_on_of_nodup_map hp.nodup_paths mem mem' hfile
      obtain rfl := Option.some.inj (read.symm.trans read')
      exact ⟨Option.some.inj (line.symm.trans line'), rfl⟩
    | reference mem' role' _ _ _ _ =>
      obtain rfl := List.inj_on_of_nodup_map hp.nodup_paths mem mem' hfile
      rw [role] at role'
      cases role'
  | reference mem role read line layout stands =>
    cases ht with
    | frontMatter _ => exact absurd hfile (hp.path_ne _ mem (.inr role))
    | body _ _ _ => exact absurd hfile (hp.path_ne _ mem (.inr role))
    | script mem' role' _ _ =>
      obtain rfl := List.inj_on_of_nodup_map hp.nodup_paths mem mem' hfile
      rw [role] at role'
      cases role'
    | reference mem' role' read' line' layout' stands' =>
      obtain rfl := Nat.add_left_cancel hn
      obtain rfl := List.inj_on_of_nodup_map hp.nodup_paths mem mem' hfile
      obtain rfl := Option.some.inj (read.symm.trans read')
      exact ⟨Option.some.inj (line.symm.trans line'), hplaces layout layout' stands stands'⟩

/-! ### In their order -/

theorem pairwise_plain (file : String) (context : LineContext) (first : Nat) (text : String) :
    (plain file context first text).Pairwise fun a b => a.number < b.number := by
  rw [plain, numberedLines, List.pairwise_map, List.pairwise_iff_getElem]
  intro i j hi hj hij
  simpa using hij

theorem pairwise_markdownFrom (file : String) (state : Option Fence) (first : Nat)
    (ls : List (List Char)) :
    (markdownFrom file state first ls).Pairwise fun a b => a.number < b.number := by
  induction ls generalizing state first with
  | nil => exact .nil
  | cons text ls ih =>
    rw [markdownFrom, List.pairwise_append]
    refine ⟨?_, ih _ _, ?_⟩
    · cases contextAt? (Fence.place state text) with
      | none => exact .nil
      | some context => exact List.pairwise_singleton _ _
    · intro a ha b hb
      obtain ⟨context, -, rfl⟩ := Option.map_eq_some_iff.mp (Option.mem_toList.mp ha)
      obtain ⟨-, i, place, -, -, hn⟩ := mem_markdownFrom.mp hb
      exact Nat.lt_of_lt_of_le (Nat.lt_succ_self first) (by omega)

/-- The scanned lines of a file have numbers of their own, and are lines of that file. -/
theorem pairwise_ofFile {f : PackageFile} {ls : List Line} (h : ofFile f = some ls) :
    (ls.Pairwise fun a b => a.number < b.number) ∧ ∀ l ∈ ls, l.file = f.path := by
  obtain ⟨content, -, ⟨-, rfl⟩ | ⟨-, rfl⟩⟩ := ofFile_eq_some.mp h
  · exact ⟨pairwise_plain _ _ _ _, fun l hl => (mem_plain.mp hl).1⟩
  · exact ⟨pairwise_markdownFrom _ _ _ _, fun l hl => (mem_markdown.mp hl).1⟩

/-- No line is scanned twice. -/
theorem pairwise_ofPackage (hp : p.IsUnambiguous) :
    (ofPackage p).Pairwise fun a b => ¬(a.file = b.file ∧ a.number = b.number) := by
  have hnumber {ls : List Line} (h : ls.Pairwise fun a b => a.number < b.number) :
      ls.Pairwise fun a b => ¬(a.file = b.file ∧ a.number = b.number) := by
    refine h.imp ?_
    rintro a b hlt ⟨-, heq⟩
    exact Nat.ne_of_lt hlt heq
  have hraw := hp.raw_le_body
  rw [ofPackage, List.pairwise_append]
  refine ⟨?_, ?_, ?_⟩
  · rw [ofManifest, List.pairwise_append]
    refine ⟨hnumber (pairwise_plain _ _ _ _), hnumber (pairwise_markdownFrom _ _ _ _), ?_⟩
    rintro a ha b hb ⟨-, heq⟩
    obtain ⟨-, -, i, hi, hn⟩ := mem_plain.mp ha
    obtain ⟨-, j, -, -, -, -, -, -, hn'⟩ := mem_markdown.mp hb
    have hlt := (List.getElem?_eq_some_iff.mp hi).1
    omega
  · rw [List.pairwise_flatten, List.pairwise_filterMap]
    constructor
    · intro ls hls
      obtain ⟨f, -, hfile⟩ := List.mem_filterMap.mp hls
      exact hnumber (pairwise_ofFile hfile).1
    · refine (List.pairwise_map.mp hp.nodup_paths).imp fun hne ls hls ms hms a ha b hb => ?_
      rw [(pairwise_ofFile hls).2 a ha, (pairwise_ofFile hms).2 b hb]
      exact fun heq => hne heq.1
  · rintro a ha b hb ⟨heq, -⟩
    obtain ⟨ls, hls, hb⟩ := List.mem_flatten.mp hb
    obtain ⟨f, hf, hfile⟩ := List.mem_filterMap.mp hls
    have hmanifest : a.file = p.manifestPath := by
      obtain ha | ha := List.mem_append.mp ha
      · exact (mem_plain.mp ha).1
      · exact (mem_markdown.mp ha).1
    have hrole : f.role = .script ∨ f.role = .reference := by
      obtain ⟨-, -, ⟨hrole, -⟩ | ⟨hrole, -⟩⟩ := ofFile_eq_some.mp hfile
      · exact .inl hrole
      · exact .inr hrole
    rw [hmanifest, (pairwise_ofFile hfile).2 b hb] at heq
    exact hp.path_ne f hf hrole heq.symm

end SkillAudit.Scan
