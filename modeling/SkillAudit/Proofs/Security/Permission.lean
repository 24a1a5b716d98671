import Mathlib.Data.List.Basic
import SkillAudit.Proofs.Package.Notes
import SkillAudit.Proofs.Text.Words
import SkillAudit.Security.Permission
/-!
# SkillAudit.Proofs.Security.Permission

What is read of the permissions that a text declares. The text is cut at its commas, and a piece with
a parenthesis in it is taken for one entry, else its words are. So a comma in a scope cuts an entry
in two, and an entry with a scope swallows the neighbours that only white space parts from it; every
other declaration is read entry by entry.

* `Declaration.entriesIn_eq_iff` — which declarations are read entry by entry;
* `Entry.isBroad_text` — which entries are broad.
-/

namespace SkillAudit.Permission

open Text

/-! ## Declarations -/

/-- An entry of a declaration: a name, and a scope in parentheses or none. -/
structure Entry where
  name : List Char
  scope : Option (List Char)
  name_ne_nil : name ≠ []
  name_chars : ∀ c ∈ name, isBlank c = false ∧ c ∉ [',', '(', ')']
  scope_chars : ∀ s ∈ scope, ∀ c ∈ s, c ∉ ['(', ')']

namespace Entry

/-- The entry as it is written. -/
def chars (e : Entry) : List Char :=
  match e.scope with
  | none => e.name
  | some s => e.name ++ '(' :: (s ++ [')'])

/-- The entry as a text. -/
def text (e : Entry) : String := String.ofList e.chars

/-- Whether an entry permits too much: without a scope, a pattern, everything by name, or a powerful
    tool; with a scope, a powerful tool in the scope of everything. -/
def IsBroad (e : Entry) : Prop :=
  match e.scope with
  | none => '*' ∈ e.name ∨ lower e.name = "all".toList ∨ e.name = "Bash".toList ∨
      e.name = "Write".toList
  | some s => s = "*".toList ∧ (e.name = "Bash".toList ∨ e.name = "Write".toList)

variable {e : Entry}

theorem chars_of_none (h : e.scope = none) : e.chars = e.name := by
  rw [chars, h]

theorem chars_of_some {s : List Char} (h : e.scope = some s) :
    e.chars = e.name ++ '(' :: (s ++ [')']) := by
  rw [chars, h]

/-- The name of an entry is free of commas and parentheses. -/
theorem not_mem_name {c : Char} (hc : c ∈ [',', '(', ')']) : c ∉ e.name := fun h =>
  (e.name_chars c h).2 hc

/-- A parenthesis tells an entry with a scope. -/
theorem paren_mem_chars : '(' ∈ e.chars ↔ e.scope ≠ none := by
  cases h : e.scope with
  | none => simpa [chars_of_none h] using not_mem_name (by decide)
  | some s => simp [chars_of_some h]

/-- An entry starts as its name does. -/
theorem exists_chars (e : Entry) : ∃ c rest, e.chars = c :: rest ∧ isBlank c = false := by
  obtain ⟨c, name, hname⟩ := List.exists_cons_of_ne_nil e.name_ne_nil
  have hc : isBlank c = false := (e.name_chars c (by rw [hname]; exact List.mem_cons_self)).1
  cases h : e.scope with
  | none => exact ⟨c, name, by rw [chars_of_none h, hname], hc⟩
  | some s => exact ⟨c, _, by rw [chars_of_some h, hname, List.cons_append], hc⟩

/-- There is no white space at its ends. -/
theorem trim_chars (e : Entry) : trim e.chars = e.chars := by
  refine trim_eq_self (fun c hc => ?_) (fun c hc => ?_)
  · obtain ⟨d, rest, hchars, hd⟩ := e.exists_chars
    rw [hchars] at hc
    obtain rfl : d = c := Option.some.inj hc
    exact hd
  · cases h : e.scope with
    | none =>
      rw [chars_of_none h] at hc
      exact (e.name_chars c (List.mem_of_getLast? hc)).1
    | some s =>
      rw [chars_of_some h, ← List.cons_append, ← List.append_assoc, List.getLast?_concat] at hc
      obtain rfl := Option.some.inj hc
      decide

end Entry

/-- What stands between two entries: commas, white space, or both. -/
structure Separator where
  chars : List Char
  chars_ne_nil : chars ≠ []
  chars_apart : ∀ c ∈ chars, c = ',' ∨ isBlank c

namespace Separator

variable {sep : Separator}

/-- A separator without a comma is white space. -/
theorem isBlank_of_mem (h : ',' ∉ sep.chars) : ∀ c ∈ sep.chars, isBlank c := fun c hc =>
  (sep.chars_apart c hc).resolve_left fun hcomma => h (hcomma ▸ hc)

/-- No separator holds a parenthesis. -/
theorem paren_not_mem (sep : Separator) : '(' ∉ sep.chars := fun h =>
  absurd (sep.chars_apart _ h) (by decide)

/-- In front of the first comma there is nothing but white space. -/
theorem exists_cut (h : ',' ∈ sep.chars) :
    ∃ b a, sep.chars = b ++ ',' :: a ∧ ',' ∉ b ∧ (∀ c ∈ b, isBlank c) ∧
      ∀ c ∈ a, c = ',' ∨ isBlank c := by
  obtain ⟨b, a, hchars, hb⟩ := List.eq_append_cons_of_mem h
  refine ⟨b, a, hchars, hb, fun c hc => ?_, fun c hc => sep.chars_apart c (by simp [hchars, hc])⟩
  exact (sep.chars_apart c (by simp [hchars, hc])).resolve_left fun hcomma => hb (hcomma ▸ hc)

end Separator

/-- One or more entries with what stands between them. -/
inductive Declaration where
  | last (e : Entry)
  | cons (e : Entry) (sep : Separator) (rest : Declaration)

namespace Declaration

/-- The first entry. -/
def first : Declaration → Entry
  | last e => e
  | cons e _ _ => e

/-- The entries. -/
def entries : Declaration → List Entry
  | last e => [e]
  | cons e _ rest => e :: rest.entries

/-- The declaration as it is written. -/
def chars : Declaration → List Char
  | last e => e.chars
  | cons e sep rest => e.chars ++ (sep.chars ++ rest.chars)

/-- The declaration as a text. -/
def text (d : Declaration) : String := String.ofList d.chars

/-- Whether a comma stands on both sides of every entry with a scope, where it has a neighbour. -/
def SetsScopesApart : Declaration → Prop
  | last _ => True
  | cons e sep rest =>
    (',' ∈ sep.chars ∨ e.scope = none ∧ rest.first.scope = none) ∧ rest.SetsScopesApart

/-- Whether the cuts at commas are those between entries: no comma in a scope, and one wherever an
    entry with a scope has a neighbour. -/
structure IsCutAtCommas (d : Declaration) : Prop where
  comma_not_mem : ∀ e ∈ d.entries, ',' ∉ e.chars
  setsScopesApart : d.SetsScopesApart

/-- A declaration starts with its first entry. -/
theorem prefix_chars (d : Declaration) : d.first.chars <+: d.chars := by
  cases d with
  | last e => exact List.prefix_refl _
  | cons e sep rest => exact List.prefix_append _ _

/-- The first entry is one of the entries. -/
theorem first_mem_entries (d : Declaration) : d.first ∈ d.entries := by
  cases d <;> exact List.mem_cons_self

end Declaration

/-! ## Reading -/

/-- The entries that are read of a text. -/
def entriesIn (s : List Char) : List (List Char) := (splitOn ',' s).flatMap entriesOfPiece

/-- Reading a text is reading its characters. -/
theorem entriesOf_ofList (s : List Char) :
    entriesOf (String.ofList s) = (entriesIn s).map String.ofList := by
  rw [entriesOf, entriesIn, String.toList_ofList]

/-- Of a piece with a parenthesis all that is not white space at its ends is one entry; of any other
    the words are. -/
theorem entriesOfPiece_eq (s : List Char) :
    entriesOfPiece s = if '(' ∈ s then [trim s] else words s := by
  have hparen : (trim s).contains '(' = true ↔ '(' ∈ s := by
    rw [List.contains_iff_mem, mem_trim_iff (by decide)]
  simp only [entriesOfPiece, hparen, words_trim]

/-- No entry that is read holds a comma. -/
theorem comma_not_mem_of_mem_entriesIn {s x : List Char} (h : x ∈ entriesIn s) : ',' ∉ x := by
  obtain ⟨piece, hpiece, hx⟩ := List.mem_flatMap.mp h
  have hpart : x <:+: piece := by
    rw [entriesOfPiece_eq] at hx
    split at hx
    · rw [List.mem_singleton.mp hx]
      exact infix_stripWhile isBlank piece
    · exact infix_of_mem_words hx
  exact fun hcomma => not_mem_of_mem_splitOn hpiece (hpart.subset hcomma)

/-- A text without a comma is a single piece. -/
theorem entriesIn_of_not_mem {s : List Char} (h : ',' ∉ s) : entriesIn s = entriesOfPiece s := by
  rw [entriesIn, splitOn_of_not_mem h, List.flatMap_singleton]

/-- What stands on the two sides of a comma is read apart. -/
theorem entriesIn_append_comma (a b : List Char) :
    entriesIn (a ++ ',' :: b) = entriesIn a ++ entriesIn b := by
  rw [entriesIn, splitOn_append, List.flatMap_append, ← entriesIn, ← entriesIn]

/-- The part of a text in front of its first comma. -/
def front (s : List Char) : List Char := s.takeWhile (· != ',')

/-- What stands in front of the first comma goes with the rest up to there. -/
theorem front_append {a : List Char} (ha : ',' ∉ a) (s : List Char) :
    front (a ++ s) = a ++ front s := by
  refine List.takeWhile_append_of_pos fun c hc => ?_
  rw [bne_iff_ne]
  rintro rfl
  exact ha hc

/-- It is all there is up to there if a comma follows. -/
theorem front_append_comma {a : List Char} (ha : ',' ∉ a) (s : List Char) :
    front (a ++ ',' :: s) = a := by
  rw [front_append ha, front, List.takeWhile_cons_of_neg (by simp), List.append_nil]

/-- What stands in front of a text goes with the part in front of its first comma. -/
theorem exists_entriesIn_append (s : List Char) :
    ∃ more, entriesIn s = entriesOfPiece (front s) ++ more ∧
      ∀ a, ',' ∉ a → entriesIn (a ++ s) = entriesOfPiece (a ++ front s) ++ more := by
  have hcomma : ',' ∉ front s := fun h => by
    simpa using List.all_eq_true.mp List.all_takeWhile ',' h
  have hs : front s ++ s.dropWhile (· != ',') = s := List.takeWhile_append_dropWhile
  have hnot := List.head?_dropWhile_not (· != ',') s
  generalize front s = piece at hcomma hs ⊢
  have hall : ∃ more, ∀ a, ',' ∉ a → entriesIn (a ++ s) = entriesOfPiece (a ++ piece) ++ more := by
    cases hrest : s.dropWhile (· != ',') with
    | nil =>
      refine ⟨[], fun a ha => ?_⟩
      rw [← hs, hrest, List.append_nil, List.append_nil]
      exact entriesIn_of_not_mem (List.not_mem_append ha hcomma)
    | cons c rest =>
      rw [hrest] at hnot
      obtain rfl : c = ',' := by simpa using hnot
      refine ⟨entriesIn rest, fun a ha => ?_⟩
      rw [← hs, hrest, ← List.append_assoc, entriesIn_append_comma,
        entriesIn_of_not_mem (List.not_mem_append ha hcomma)]
  obtain ⟨more, hmore⟩ := hall
  exact ⟨more, hmore [] List.not_mem_nil, hmore⟩

/-- White space in front of a piece is passed over. -/
theorem entriesOfPiece_blanks_append {a : List Char} (ha : ∀ c ∈ a, isBlank c) (s : List Char) :
    entriesOfPiece (a ++ s) = entriesOfPiece s := by
  have hparen : '(' ∉ a := fun h => absurd (ha _ h) (by decide)
  simp only [entriesOfPiece_eq, List.mem_append, hparen, false_or, trim_blanks_append ha,
    words_blanks_append ha]

/-- Commas and white space in front of a text are passed over. -/
theorem entriesIn_append_of_apart {a : List Char} (ha : ∀ c ∈ a, c = ',' ∨ isBlank c)
    (s : List Char) : entriesIn (a ++ s) = entriesIn s := by
  induction a with
  | nil => rfl
  | cons c a ih =>
    obtain ⟨hc, hrest⟩ := List.forall_mem_cons.mp ha
    rw [← ih hrest, List.cons_append]
    by_cases hcomma : c = ','
    · rw [hcomma]
      exact entriesIn_append_comma [] (a ++ s)
    · obtain ⟨more, hrest, hmore⟩ := exists_entriesIn_append (a ++ s)
      have hblank : ∀ d ∈ [c], isBlank d := by simpa [hcomma] using hc
      have hwith := hmore [c] (by simpa using Ne.symm hcomma)
      rw [entriesOfPiece_blanks_append hblank, ← hrest] at hwith
      exact hwith

/-- An entry by itself is read as it is, with white space behind it or not. -/
theorem entriesOfPiece_chars (e : Entry) {b : List Char} (hb : ∀ c ∈ b, isBlank c) :
    entriesOfPiece (e.chars ++ b) = [e.chars] := by
  have hparen : '(' ∈ e.chars ++ b ↔ e.scope ≠ none := by
    have hblank : '(' ∉ b := fun h => absurd (hb _ h) (by decide)
    rw [List.mem_append, Entry.paren_mem_chars, or_iff_left hblank]
  rw [entriesOfPiece_eq, words_append_blanks hb, trim_append_blanks hb, e.trim_chars]
  simp only [hparen]
  split
  · rfl
  · next hscope =>
    rw [Entry.chars_of_none (Decidable.not_not.mp hscope)]
    exact words_of_not_blank e.name_ne_nil fun c hc => (e.name_chars c hc).1

/-- A piece with anything but white space in it has an entry. -/
theorem entriesOfPiece_ne_nil {s : List Char} {c : Char} (hc : c ∈ s) (hblank : isBlank c = false) :
    entriesOfPiece s ≠ [] := by
  rw [entriesOfPiece_eq]
  split
  · exact List.cons_ne_nil _ _
  · exact words_ne_nil hc hblank

/-! ## Reading an entry in front of others -/

variable {e : Entry} {sep : Separator}

/-- A comma parts an entry from what follows. -/
theorem entriesIn_append_of_comma (he : ',' ∉ e.chars) (hsep : ',' ∈ sep.chars) (s : List Char) :
    entriesIn (e.chars ++ (sep.chars ++ s)) = e.chars :: entriesIn s := by
  obtain ⟨b, a, hchars, hb, hblank, hapart⟩ := Separator.exists_cut hsep
  have hcut : e.chars ++ (sep.chars ++ s) = (e.chars ++ b) ++ ',' :: (a ++ s) := by
    simp [hchars]
  rw [hcut, entriesIn_append_comma, entriesIn_of_not_mem (List.not_mem_append he hb),
    entriesOfPiece_chars e hblank, entriesIn_append_of_apart hapart, List.singleton_append]

section Blank

variable (he : ',' ∉ e.chars) (hsep : ',' ∉ sep.chars) {s : List Char}

include he hsep

/-- White space parts an entry from what follows where no scope is near. -/
theorem entriesIn_append_of_scope_eq_none (hscope : e.scope = none) (hfront : '(' ∉ front s) :
    entriesIn (e.chars ++ (sep.chars ++ s)) = e.chars :: entriesIn s := by
  obtain ⟨more, hrest, hmore⟩ := exists_entriesIn_append s
  have hparen : '(' ∉ e.chars ++ sep.chars ++ front s :=
    List.not_mem_append (List.not_mem_append (fun h => Entry.paren_mem_chars.mp h hscope)
      sep.paren_not_mem) hfront
  have hwords : words (e.chars ++ sep.chars ++ front s) = e.chars :: words (front s) := by
    rw [Entry.chars_of_none hscope, List.append_assoc]
    exact words_append e.name_ne_nil (fun c hc => (e.name_chars c hc).1) sep.chars_ne_nil
      (Separator.isBlank_of_mem hsep) (front s)
  rw [← List.append_assoc, hmore _ (List.not_mem_append he hsep), hrest, entriesOfPiece_eq,
    entriesOfPiece_eq, if_neg hparen, if_neg hfront, hwords, List.cons_append]

/-- With a scope near, an entry goes with what follows, and nothing more is read than of that. -/
theorem length_entriesIn_append_le (hscope : e.scope ≠ none ∨ '(' ∈ front s) {c : Char}
    (hc : c ∈ front s) (hblank : isBlank c = false) :
    (entriesIn (e.chars ++ (sep.chars ++ s))).length ≤ (entriesIn s).length := by
  obtain ⟨more, hrest, hmore⟩ := exists_entriesIn_append s
  have hparen : '(' ∈ e.chars ++ sep.chars ++ front s := by
    simp only [List.mem_append, Entry.paren_mem_chars]
    exact hscope.imp_left .inl
  have hpos : 0 < (entriesOfPiece (front s)).length :=
    List.length_pos_iff.mpr (entriesOfPiece_ne_nil hc hblank)
  rw [← List.append_assoc, hmore _ (List.not_mem_append he hsep), hrest, entriesOfPiece_eq,
    if_pos hparen, List.length_append, List.length_append, List.length_singleton]
  omega

end Blank

/-! ## Reading a declaration -/

namespace Declaration

variable {d : Declaration}

/-- The first entry stands in front of the first comma. -/
theorem prefix_front (h : ',' ∉ d.first.chars) : d.first.chars <+: front d.chars := by
  obtain ⟨rest, hrest⟩ := d.prefix_chars
  rw [← hrest, front_append h]
  exact List.prefix_append _ _

/-- Where the scopes are set apart, there is none in front of the first comma if the first entry has
    none. -/
theorem paren_not_mem_front (hcomma : ∀ e ∈ d.entries, ',' ∉ e.chars) (hapart : d.SetsScopesApart)
    (hscope : d.first.scope = none) : '(' ∉ front d.chars := by
  have hfirst : '(' ∉ d.first.chars := fun h => Entry.paren_mem_chars.mp h hscope
  induction d with
  | last e => exact fun h => hfirst ((List.takeWhile_prefix _).subset h)
  | cons e sep rest ih =>
    obtain ⟨he, hrest⟩ := List.forall_mem_cons.mp hcomma
    have hsepparen := sep.paren_not_mem
    rw [chars, front_append he]
    refine List.not_mem_append hfirst ?_
    by_cases hsep : ',' ∈ sep.chars
    · obtain ⟨b, a, hchars, hb, -, -⟩ := Separator.exists_cut hsep
      rw [hchars, List.append_assoc, List.cons_append, front_append_comma hb]
      exact fun h => hsepparen (by simp [hchars, h])
    · have hnone := (hapart.1.resolve_left hsep).2
      rw [front_append hsep]
      exact List.not_mem_append hsepparen
        (ih hrest hapart.2 hnone fun h => Entry.paren_mem_chars.mp h hnone)

/-- An entry without a comma is read as it is. -/
theorem entriesIn_last (he : ',' ∉ e.chars) : entriesIn (last e).chars = [e.chars] := by
  have hread := entriesOfPiece_chars e (b := []) nofun
  rw [List.append_nil] at hread
  rw [chars, entriesIn_of_not_mem he, hread]

variable {rest : Declaration}

/-- An entry is read by itself if a comma follows, or if neither it nor anything in front of the next
    comma has a scope. -/
theorem entriesIn_cons (he : ',' ∉ e.chars)
    (h : ',' ∈ sep.chars ∨ e.scope = none ∧ '(' ∉ front rest.chars) :
    entriesIn (cons e sep rest).chars = e.chars :: entriesIn rest.chars := by
  by_cases hsep : ',' ∈ sep.chars
  · exact entriesIn_append_of_comma he hsep rest.chars
  · obtain ⟨hscope, hfront⟩ := h.resolve_left hsep
    exact entriesIn_append_of_scope_eq_none he hsep hscope hfront

/-- Else it adds nothing to what is read. -/
theorem length_entriesIn_cons_le (he : ',' ∉ e.chars) (hrest : ',' ∉ rest.first.chars)
    (h : ¬(',' ∈ sep.chars ∨ e.scope = none ∧ '(' ∉ front rest.chars)) :
    (entriesIn (cons e sep rest).chars).length ≤ (entriesIn rest.chars).length := by
  obtain ⟨hsep, hscope⟩ := not_or.mp h
  obtain ⟨c, tail, hchars, hblank⟩ := rest.first.exists_chars
  have hc : c ∈ front rest.chars := (prefix_front hrest).subset (by simp [hchars])
  refine length_entriesIn_append_le he hsep ?_ hc hblank
  by_cases hnone : e.scope = none
  · exact .inr (Decidable.not_not.mp fun hfront => hscope ⟨hnone, hfront⟩)
  · exact .inl hnone

/-- Of entries without commas no more are read than there are. -/
theorem length_entriesIn_le (hcomma : ∀ e ∈ d.entries, ',' ∉ e.chars) :
    (entriesIn d.chars).length ≤ d.entries.length := by
  induction d with
  | last e =>
    rw [entriesIn_last (hcomma e List.mem_cons_self)]
    exact Nat.le_refl _
  | cons e sep rest ih =>
    obtain ⟨he, hrest⟩ := List.forall_mem_cons.mp hcomma
    have hle := ih hrest
    rw [entries, List.length_cons]
    by_cases h : ',' ∈ sep.chars ∨ e.scope = none ∧ '(' ∉ front rest.chars
    · rw [entriesIn_cons he h]
      exact Nat.succ_le_succ hle
    · have hcons := length_entriesIn_cons_le he (hrest _ rest.first_mem_entries) h
      omega

/-- A declaration that is cut at commas is read entry by entry. -/
theorem IsCutAtCommas.entriesIn_eq (h : d.IsCutAtCommas) :
    entriesIn d.chars = d.entries.map Entry.chars := by
  obtain ⟨hcomma, hapart⟩ := h
  induction d with
  | last e => exact entriesIn_last (hcomma e List.mem_cons_self)
  | cons e sep rest ih =>
    obtain ⟨he, hrest⟩ := List.forall_mem_cons.mp hcomma
    have hparted : ',' ∈ sep.chars ∨ e.scope = none ∧ '(' ∉ front rest.chars :=
      hapart.1.imp_right fun hscopes =>
        ⟨hscopes.1, paren_not_mem_front hrest hapart.2 hscopes.2⟩
    rw [entriesIn_cons he hparted, ih hrest hapart.2, entries, List.map_cons]

/-- One that is read entry by entry sets its scopes apart: otherwise too few entries are read. -/
theorem setsScopesApart_of_entriesIn_eq (hcomma : ∀ e ∈ d.entries, ',' ∉ e.chars)
    (h : entriesIn d.chars = d.entries.map Entry.chars) : d.SetsScopesApart := by
  induction d with
  | last e => trivial
  | cons e sep rest ih =>
    obtain ⟨he, hrest⟩ := List.forall_mem_cons.mp hcomma
    have hfirst := hrest _ rest.first_mem_entries
    by_cases hparted : ',' ∈ sep.chars ∨ e.scope = none ∧ '(' ∉ front rest.chars
    · rw [entriesIn_cons he hparted, entries, List.map_cons, List.cons.injEq] at h
      refine ⟨hparted.imp_right fun hscopes => ⟨hscopes.1, ?_⟩, ih hrest h.2⟩
      exact Decidable.byContradiction fun hscope =>
        hscopes.2 ((prefix_front hfirst).subset (Entry.paren_mem_chars.mpr hscope))
    · have hle := length_entriesIn_cons_le he hfirst hparted
      have hrestle := length_entriesIn_le hrest
      rw [h, List.length_map, entries, List.length_cons] at hle
      omega

/-- A declaration is read entry by entry exactly when it is cut at commas. -/
theorem entriesIn_eq_iff : entriesIn d.chars = d.entries.map Entry.chars ↔ d.IsCutAtCommas := by
  refine ⟨fun h => ?_, IsCutAtCommas.entriesIn_eq⟩
  have hcomma : ∀ e ∈ d.entries, ',' ∉ e.chars := fun e he =>
    comma_not_mem_of_mem_entriesIn (by rw [h]; exact List.mem_map_of_mem he)
  exact ⟨hcomma, setsScopesApart_of_entriesIn_eq hcomma h⟩

end Declaration

/-! ## Broad entries -/

/-- A parenthesis stays as it is in small letters. -/
theorem paren_mem_lower {s : List Char} (h : '(' ∈ s) : '(' ∈ lower s := by
  have hfrom (before s : List Char) (h : '(' ∈ s) : '(' ∈ lowerFrom before s := by
    induction s generalizing before with
    | nil => exact absurd h List.not_mem_nil
    | cons c s ih =>
      rw [lowerFrom, List.mem_append]
      obtain rfl | h := List.mem_cons.mp h
      · exact .inl (List.mem_singleton_self _)
      · exact .inr (ih (c :: before) h)
  exact hfrom [] s h

/-- The texts that are broad, by their characters. -/
theorem isBroad_iff (text : String) : isBroad text ↔
    '*' ∈ text.toList ∧ '(' ∉ text.toList ∨ lower text.toList = "all".toList ∨
      text.toList = "Bash".toList ∨ text.toList = "Write".toList ∨
        text.toList = "Bash(*)".toList ∨ text.toList = "Write(*)".toList := by
  simp [isBroad, ← String.toList_inj, or_assoc]

namespace Entry

variable {e : Entry}

/-- The name and the scope of an entry are in front of the first parenthesis and behind it. -/
theorem chars_eq_iff {s : List Char} (h : e.scope = some s) {name : List Char} (hname : '(' ∉ name)
    (scope : List Char) : e.chars = name ++ '(' :: (scope ++ [')']) ↔ e.name = name ∧ s = scope := by
  constructor
  · intro hchars
    rw [chars_of_some h] at hchars
    have hcut : cutFirst? '(' (e.name ++ '(' :: (s ++ [')'])) = some (e.name, s ++ [')']) :=
      cutFirst?_eq_some.mpr ⟨rfl, not_mem_name (by decide)⟩
    have hcut' : cutFirst? '(' (e.name ++ '(' :: (s ++ [')'])) = some (name, scope ++ [')']) :=
      cutFirst?_eq_some.mpr ⟨hchars, hname⟩
    rw [hcut, Option.some.injEq, Prod.mk.injEq] at hcut'
    exact ⟨hcut'.1, List.append_cancel_right hcut'.2⟩
  · rintro ⟨rfl, rfl⟩
    exact chars_of_some h

/-- The broad entries are those that permit too much. -/
theorem isBroad_text (e : Entry) : isBroad e.text ↔ e.IsBroad := by
  rw [isBroad_iff, text, String.toList_ofList, IsBroad]
  cases h : e.scope with
  | none =>
    have hparen : '(' ∉ e.name := not_mem_name (by decide)
    have hne {w : List Char} (hw : '(' ∈ w) : e.name ≠ w := fun heq => hparen (heq ▸ hw)
    have hbash : e.name ≠ "Bash(*)".toList := hne (by decide)
    have hwrite : e.name ≠ "Write(*)".toList := hne (by decide)
    rw [chars_of_none h]
    simp only [hparen, hbash, hwrite, not_false_eq_true, and_true, or_false]
  | some s =>
    have hparen : '(' ∈ e.chars := paren_mem_chars.mpr (by simp [h])
    have hne {w : List Char} (hw : '(' ∉ w) : e.chars ≠ w := fun heq => hw (heq ▸ hparen)
    have hbash : e.chars ≠ "Bash".toList := hne (by decide)
    have hwrite : e.chars ≠ "Write".toList := hne (by decide)
    have hall : lower e.chars ≠ "all".toList := fun heq =>
      absurd (heq ▸ paren_mem_lower hparen) (by decide)
    have hbashAll : e.chars = "Bash(*)".toList ↔ e.name = "Bash".toList ∧ s = "*".toList := by
      have hname : '(' ∉ "Bash".toList := by decide
      exact chars_eq_iff h hname "*".toList
    have hwriteAll : e.chars = "Write(*)".toList ↔ e.name = "Write".toList ∧ s = "*".toList := by
      have hname : '(' ∉ "Write".toList := by decide
      exact chars_eq_iff h hname "*".toList
    simp only [hparen, hbash, hwrite, hall, hbashAll, hwriteAll, not_true_eq_false, and_false,
      false_or]
    rw [← or_and_right, and_comm]

end Entry

/-! ## Findings -/

/-- A key with a text is reported exactly when one of the entries that are read is broad. -/
theorem finding?_isSome_iff {p : Package} {key text : String}
    (hkey : p.frontMatter.get? key = some (.str text)) :
    (finding? p key).isSome ↔ ∃ entry ∈ entriesOf text, isBroad entry := by
  have htexts : p.frontMatter.textsAt [key] = [text] := by
    rw [FrontMatter.textsAt, FrontMatter.lookup?, List.foldl_nil, hkey]
    rfl
  have hsome : (finding? p key).isSome ↔ (entriesOf text).filter isBroad ≠ [] := by
    unfold finding?
    rw [htexts, List.flatMap_singleton]
    split
    · next hnil => simp [hnil]
    · next hne => simpa using hne
  rw [hsome, ne_eq, List.filter_eq_nil_iff]
  simp only [not_forall, not_not, exists_prop]

namespace Declaration

/-- A declaration is read entry by entry exactly when it is cut at commas. Its key is then reported
    exactly when one of its entries is broad. -/
theorem entriesOf_text_iff (d : Declaration) :
    (entriesOf d.text = d.entries.map Entry.text ↔ d.IsCutAtCommas) ∧
      (d.IsCutAtCommas → ∀ (p : Package) (key : String),
        p.frontMatter.get? key = some (.str d.text) →
          ((finding? p key).isSome ↔ ∃ e ∈ d.entries, e.IsBroad)) := by
  have hread : entriesOf d.text = d.entries.map Entry.text ↔ d.IsCutAtCommas := by
    have hmap : d.entries.map Entry.text = (d.entries.map Entry.chars).map String.ofList := by
      rw [List.map_map]
      rfl
    rw [text, entriesOf_ofList, hmap, ← entriesIn_eq_iff]
    exact (List.map_injective_iff.mpr fun s t h => String.ofList_injective h).eq_iff
  refine ⟨hread, fun hcut p key hkey => ?_⟩
  rw [finding?_isSome_iff hkey, hread.mpr hcut]
  simp only [List.mem_map, exists_exists_and_eq_and, Entry.isBroad_text]

/-! ### Tools of a package of notes -/

/-- A package of notes that declares its tools. -/
def declaring (d : Declaration) : Package :=
  .notes ⟨"allowed-tools: " ++ d.text ++ "\n", [(.str "allowed-tools", .str d.text)]⟩ "Read it.\n" []

/-- The package declares the tools under the key for them. -/
theorem get?_declaring (d : Declaration) :
    (declaring d).frontMatter.get? "allowed-tools" = some (.str d.text) := rfl

/-- The tool for shell commands, without a scope. -/
def bash : Entry := ⟨"Bash".toList, none, by decide, by simp [isBlank], by simp⟩

/-- The tool that reads files. -/
def read : Entry := ⟨"Read".toList, none, by decide, by simp [isBlank], by simp⟩

/-- A scope with a space in it. -/
def gitStatus : Entry :=
  ⟨"Bash".toList, some "git status".toList, by decide, by simp [isBlank], by simp⟩

/-- A scope with a comma in it. -/
def readListed : Entry :=
  ⟨"Read".toList, some "src, *".toList, by decide, by simp [isBlank], by simp⟩

/-- White space alone. -/
def space : Separator := ⟨[' '], by decide, by simp [isBlank]⟩

/-- A comma with white space behind it. -/
def comma : Separator := ⟨[',', ' '], by decide, by simp [isBlank]⟩

/-- The entry with a scope is set apart, and the broad one is found. -/
theorem entriesOf_setApart :
    (cons gitStatus comma (cons read space (last bash))).text = "Bash(git status), Read Bash" ∧
      (cons gitStatus comma (cons read space (last bash))).IsCutAtCommas ∧
      entriesOf "Bash(git status), Read Bash" = ["Bash(git status)", "Read", "Bash"] ∧
      (finding? (declaring (cons gitStatus comma (cons read space (last bash))))
        "allowed-tools").isSome := by
  have htext : (cons gitStatus comma (cons read space (last bash))).text =
      "Bash(git status), Read Bash" := by decide +kernel
  have hcut : (cons gitStatus comma (cons read space (last bash))).IsCutAtCommas :=
    ⟨by decide, .inl (by decide), .inr ⟨rfl, rfl⟩, trivial⟩
  obtain ⟨hread, hfinding⟩ := entriesOf_text_iff (cons gitStatus comma (cons read space (last bash)))
  refine ⟨htext, hcut, ?_, ?_⟩
  · rw [← htext, hread.mpr hcut]
    decide +kernel
  · exact (hfinding hcut _ _ (get?_declaring _)).mpr
      ⟨bash, by simp [entries], Or.inr (.inr (.inl rfl))⟩

/-- An entry with a scope hides the broad one in front of it, and one with a comma in its scope is
    found to be broad, which it is not. -/
theorem entriesOf_misread :
    (entriesOf (cons bash space (last gitStatus)).text = ["Bash Bash(git status)"] ∧
      bash.IsBroad ∧
      ¬(finding? (declaring (cons bash space (last gitStatus))) "allowed-tools").isSome) ∧
    (entriesOf (last readListed).text = ["Read(src", "*)"] ∧
      ¬readListed.IsBroad ∧
      (finding? (declaring (last readListed)) "allowed-tools").isSome) := by
  have hhidden : entriesOf (cons bash space (last gitStatus)).text = ["Bash Bash(git status)"] := by
    decide +kernel
  have hcut : entriesOf (last readListed).text = ["Read(src", "*)"] := by decide +kernel
  refine ⟨⟨hhidden, Or.inr (.inr (.inl rfl)), ?_⟩, hcut, fun h => ?_, ?_⟩
  · simp only [finding?_isSome_iff (get?_declaring _), hhidden, isBroad_iff]
    decide +kernel
  · exact absurd (And.left h) (by decide)
  · simp only [finding?_isSome_iff (get?_declaring _), hcut, isBroad_iff]
    decide +kernel

end Declaration

end SkillAudit.Permission
