import SkillAudit.Markdown.Fence
/-!
# SkillAudit.Proofs.Markdown.Layout

Where lines stand, told from the fences among them and not from the state in which they are read. A
line that opens no fence stands outside. A fence reaches from the line that opens it to the first
line behind that closes it, or to the end of the text if none does; these two lines delimit it, and
the lines between them are inside. Following the fences step by step finds just these places:

* `Layout.eq` — there is one layout at most, and `places` gives it;
* `layout_places` — there is one.
-/

namespace SkillAudit.Fence

/-- The places of lines by the fences among them. -/
inductive Layout : List (List Char) → List Place → Prop
  | nil : Layout [] []
  /-- A line that opens no fence. -/
  | outside {line : List Char} {rest : List (List Char)} {places : List Place}
      (opens : openedBy? line = none) (behind : Layout rest places) :
      Layout (line :: rest) (.outside :: places)
  /-- A fence, and the lines behind it. -/
  | closed {fence : Fence} {opener closer : List Char} {inner rest : List (List Char)}
      {places : List Place} (opens : openedBy? opener = some fence)
      (stays : ∀ l ∈ inner, fence.closedBy l = false) (closes : fence.closedBy closer = true)
      (behind : Layout rest places) :
      Layout (opener :: (inner ++ closer :: rest))
        (.delimiter :: (List.replicate inner.length .inside ++ .delimiter :: places))
  /-- A fence that never closes. -/
  | unclosed {fence : Fence} {opener : List Char} {inner : List (List Char)}
      (opens : openedBy? opener = some fence) (stays : ∀ l ∈ inner, fence.closedBy l = false) :
      Layout (opener :: inner) (.delimiter :: List.replicate inner.length .inside)

variable {ls : List (List Char)} {ps : List Place}

/-- The lines in front of the one that closes a fence are inside it. -/
theorem places_append {fence : Fence} {inner : List (List Char)}
    (h : ∀ l ∈ inner, fence.closedBy l = false) (rest : List (List Char)) :
    (places (some fence) (inner ++ rest)).map (·.1) =
      List.replicate inner.length .inside ++ (places (some fence) rest).map (·.1) := by
  induction inner with
  | nil => rfl
  | cons l inner ih =>
    have hl : fence.closedBy l = false := h l List.mem_cons_self
    have hinner := ih fun k hk => h k (List.mem_cons_of_mem l hk)
    simp [places, place, step, hl, hinner, List.replicate_succ]

/-- There is one layout at most. -/
theorem Layout.eq (h : Layout ls ps) : ps = (places none ls).map (·.1) := by
  induction h with
  | nil => rfl
  | outside opens _ ih => simp [places, place, step, opens, ih]
  | closed opens stays closes _ ih =>
    simp [places, place, step, opens, places_append stays, closes, ih]
  | @unclosed fence opener inner opens stays =>
    have hinner := places_append stays []
    rw [List.append_nil] at hinner
    simp [places, place, step, opens, hinner]

/-- The places that are found line by line are a layout, from outside any fence as from within
    one. -/
private theorem layout_places_from (ls : List (List Char)) :
    Layout ls ((places none ls).map (·.1)) ∧
      ∀ (inner : List (List Char)) {fence : Fence} {opener : List Char},
        openedBy? opener = some fence → (∀ l ∈ inner, fence.closedBy l = false) →
          Layout (opener :: (inner ++ ls))
            (.delimiter ::
              (List.replicate inner.length .inside ++ (places (some fence) ls).map (·.1))) := by
  induction ls with
  | nil =>
    refine ⟨.nil, fun inner _ _ opens stays => ?_⟩
    simpa [places] using Layout.unclosed opens stays
  | cons l ls ih =>
    obtain ⟨houtside, hwithin⟩ := ih
    constructor
    · cases opens : openedBy? l with
      | none => simpa [places, place, step, opens] using Layout.outside opens houtside
      | some fence =>
        have hinner := hwithin [] opens nofun
        simpa [places, place, step, opens] using hinner
    · intro inner fence opener opens stays
      cases hl : fence.closedBy l with
      | true => simpa [places, place, step, hl] using Layout.closed opens stays hl houtside
      | false =>
        -- the line joins those inside
        have hinner := hwithin (inner ++ [l]) opens fun k hk => by
          obtain hk | hk := List.mem_append.mp hk
          · exact stays k hk
          · rwa [List.mem_singleton.mp hk]
        simpa [places, place, step, hl, List.replicate_succ'] using hinner

/-- There is a layout. -/
theorem layout_places (ls : List (List Char)) : Layout ls ((places none ls).map (·.1)) :=
  (layout_places_from ls).1

theorem layout_iff : Layout ls ps ↔ ps = (places none ls).map (·.1) :=
  ⟨Layout.eq, fun h => h ▸ layout_places ls⟩

/-! ## Lines by their numbers -/

theorem map_snd_places (state : Option Fence) (ls : List (List Char)) :
    (places state ls).map (·.2) = ls := by
  induction ls generalizing state with
  | nil => rfl
  | cons l ls ih => rw [places, List.map_cons, ih]

/-- A line with its place, as it is met, is the line with the place that it has in the layout. -/
theorem getElem?_places {i : Nat} {p : Place} {l : List Char} :
    (places none ls)[i]? = some (p, l) ↔
      ls[i]? = some l ∧ ∃ ps, Layout ls ps ∧ ps[i]? = some p := by
  have hline : ls[i]? = ((places none ls)[i]?).map (·.2) := by
    rw [← List.getElem?_map, map_snd_places]
  simp only [layout_iff, exists_eq_left, List.getElem?_map, hline]
  cases (places none ls)[i]? with
  | none => simp
  | some q =>
    obtain ⟨p', l'⟩ := q
    simp [and_comm]

end SkillAudit.Fence
