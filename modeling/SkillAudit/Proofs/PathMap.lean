import Mathlib.Data.List.Induction
import Mathlib.Data.List.Nodup
import SkillAudit.PathMap
/-!
# SkillAudit.Proofs.PathMap

Values kept by path. The value that a path is given takes the place of the one it had and leaves
every other path alone, so that each path has the value that it was given last, and the paths stand
in order. Where they are all different these are the entries that were given, sorted.

* `mem_put_iff` — what one step keeps;
* `mem_ofEntries_iff` — what is left of all of them;
* `ofEntries_filter_ne` — a path left out;
* `ofEntries_perm`, `ofEntries_eq_self` — paths that are all different, and paths in order.
-/

namespace SkillAudit

namespace PathMap

variable {β : Type} {path : String} {value : β} {e : String × β} {m a b : PathMap β}
  {entries : List (String × β)}

/-- Whether values stand in the order of their paths, no path twice. -/
def InOrder (m : PathMap β) : Prop := m.Pairwise fun a b => a.1 < b.1

/-- In order, no path stands twice. -/
theorem InOrder.nodup_paths (h : InOrder m) : (m.map (·.1)).Nodup :=
  List.pairwise_map.mpr (h.imp Std.ne_of_lt)

/-- There is one order of the same values. -/
theorem InOrder.eq_of_perm (ha : InOrder a) (hb : InOrder b)
    (h : a.Perm b) : a = b :=
  h.eq_of_pairwise
    (fun _ _ _ _ hlt hgt => absurd (String.lt_trans hlt hgt) (String.lt_irrefl _)) ha hb

/-- In order, the same values by path are the same altogether. -/
theorem InOrder.ext (ha : InOrder a) (hb : InOrder b) (h : ∀ e, e ∈ a ↔ e ∈ b) : a = b :=
  have hnodup := List.Nodup.of_map Prod.fst ha.nodup_paths
  have hnodup' := List.Nodup.of_map Prod.fst hb.nodup_paths
  ha.eq_of_perm hb ((List.perm_ext_iff_of_nodup hnodup hnodup').mpr h)

/-! ## One path -/

/-- A path that is given a value adds nothing else. -/
theorem eq_or_mem_of_mem_put (h : e ∈ m.put path value) : e = (path, value) ∨ e ∈ m := by
  induction m with
  | nil => exact .inl (List.mem_singleton.mp h)
  | cons c m ih =>
    rw [put] at h
    split at h
    · exact List.mem_cons.mp h
    · split at h
      · exact (List.mem_cons.mp h).imp_right (List.mem_cons_of_mem c)
      · obtain rfl | h := List.mem_cons.mp h
        · exact .inr List.mem_cons_self
        · exact (ih h).imp_right (List.mem_cons_of_mem c)

/-- It stands in its place. -/
theorem inOrder_put (h : InOrder m) : InOrder (m.put path value) := by
  induction m with
  | nil => exact List.pairwise_singleton _ _
  | cons c m ih =>
    obtain ⟨hfirst, hrest⟩ := List.pairwise_cons.mp h
    rw [put]
    split
    · next hlt =>
      refine List.pairwise_cons.mpr ⟨fun d hd => ?_, h⟩
      obtain rfl | hd := List.mem_cons.mp hd
      · exact hlt
      · exact String.lt_trans hlt (hfirst d hd)
    · next hle =>
      split
      · next heq =>
        subst heq
        exact List.pairwise_cons.mpr ⟨hfirst, hrest⟩
      · next hne =>
        refine List.pairwise_cons.mpr ⟨fun d hd => ?_, ih hrest⟩
        obtain rfl | hd := eq_or_mem_of_mem_put hd
        · exact Std.lt_of_le_of_ne (String.not_lt.mp hle) (Ne.symm hne)
        · exact hfirst d hd

/-- A new value takes the place of the one that the path has, and of nothing else. -/
theorem mem_put_iff (h : InOrder m) :
    e ∈ m.put path value ↔ e = (path, value) ∨ e ∈ m ∧ e.1 ≠ path := by
  induction m with
  | nil => simp [put]
  | cons c m ih =>
    obtain ⟨hfirst, hrest⟩ := List.pairwise_cons.mp h
    -- a path in front of all others is none of them
    have hne {l : PathMap β} (hl : ∀ d ∈ l, path < d.1) (he : e ∈ l) : e.1 ≠ path :=
      fun heq => String.lt_irrefl _ (heq ▸ hl e he)
    rw [put]
    split
    · next hlt =>
      have hall : ∀ d ∈ c :: m, path < d.1 :=
        List.forall_mem_cons.mpr ⟨hlt, fun d hd => String.lt_trans hlt (hfirst d hd)⟩
      rw [List.mem_cons, and_iff_left_of_imp (hne hall)]
    · split
      · next heq =>
        subst heq
        rw [List.mem_cons, List.mem_cons, or_and_right, and_iff_left_of_imp (hne hfirst)]
        exact or_congr_right ⟨.inr, fun h => h.resolve_left fun ⟨he, hc⟩ => hc (he ▸ rfl)⟩
      · next hc =>
        rw [List.mem_cons, List.mem_cons, ih hrest, or_and_right, or_left_comm]
        exact or_congr_right (or_congr_left (iff_self_and.mpr fun he => he ▸ Ne.symm hc))

/-- A path that has no value yet is one more. -/
theorem put_perm (h : path ∉ m.map (·.1)) : (m.put path value).Perm ((path, value) :: m) := by
  induction m with
  | nil => exact .refl _
  | cons c m ih =>
    obtain ⟨hne, hrest⟩ := not_or.mp (mt List.mem_cons.mpr h)
    rw [put, if_neg hne]
    split
    · exact .refl _
    · exact ((ih hrest).cons c).trans (.swap _ _ _)

/-! ## All of them -/

theorem ofEntries_concat (entries : List (String × β)) (e : String × β) :
    ofEntries (entries ++ [e]) = (ofEntries entries).put e.1 e.2 :=
  List.foldl_concat _ _ _ _

/-- However many values are given, they stay in order. -/
theorem inOrder_putAll (h : InOrder m) (entries : List (String × β)) :
    InOrder (m.putAll entries) := by
  induction entries generalizing m with
  | nil => exact h
  | cons e entries ih => exact ih (inOrder_put h)

theorem inOrder_ofEntries (entries : List (String × β)) : InOrder (ofEntries entries) :=
  inOrder_putAll List.Pairwise.nil entries

/-- Of the values that a path is given it has the last one. -/
theorem mem_ofEntries_iff :
    e ∈ ofEntries entries ↔ (entries.filter (·.1 == e.1)).getLast? = some e := by
  induction entries using List.reverseRecOn with
  | nil => simp [ofEntries, putAll]
  | append_singleton entries last ih =>
    rw [ofEntries_concat, mem_put_iff (inOrder_ofEntries entries), ih, List.filter_append]
    by_cases hlast : last.1 = e.1
    · rw [List.filter_cons_of_pos (by simpa using hlast), List.filter_nil, List.getLast?_concat,
        Option.some_inj, or_iff_left fun ⟨_, hne⟩ => hne hlast.symm]
      exact eq_comm
    · have hne : e ≠ (last.1, last.2) := fun h => hlast (h ▸ rfl)
      rw [List.filter_cons_of_neg (by simpa using hlast), List.filter_nil, List.append_nil,
        or_iff_right hne, and_iff_left (Ne.symm hlast)]

/-- A path has the only value that it is given. -/
theorem mem_ofEntries_of_forall (he : e ∈ entries) (h : ∀ e' ∈ entries, e'.1 = e.1 → e' = e) :
    e ∈ ofEntries entries := by
  rw [mem_ofEntries_iff]
  have hmem : e ∈ entries.filter (·.1 == e.1) := List.mem_filter.mpr ⟨he, beq_self_eq_true e.1⟩
  rw [List.getLast?_eq_some_getLast (List.ne_nil_of_mem hmem), Option.some_inj]
  obtain ⟨hlast, hpath⟩ := List.mem_filter.mp (List.getLast_mem (List.ne_nil_of_mem hmem))
  exact h _ hlast (beq_iff_eq.mp hpath)

/-- The other paths have their values without a path that is left out. -/
theorem ofEntries_filter_ne (path : String) (entries : List (String × β)) :
    ofEntries (entries.filter (·.1 != path)) = (ofEntries entries).filter (·.1 != path) := by
  refine (inOrder_ofEntries _).ext ((inOrder_ofEntries entries).filter _) fun e => ?_
  rw [List.mem_filter, mem_ofEntries_iff, mem_ofEntries_iff, List.filter_filter]
  by_cases he : e.1 = path
  · have hnone : entries.filter (fun a => a.1 == e.1 && a.1 != path) = [] :=
      List.filter_eq_nil_iff.mpr fun a _ => by simp [he]
    rw [hnone]
    simp [he]
  · have hsame : entries.filter (fun a => a.1 == e.1 && a.1 != path) =
        entries.filter (·.1 == e.1) :=
      List.filter_congr fun a _ => by
        by_cases ha : a.1 = e.1 <;> simp [ha, he]
    simp [hsame, he]

/-- Paths that are all different have the values that they are given. -/
theorem ofEntries_perm (h : (entries.map (·.1)).Nodup) : (ofEntries entries).Perm entries := by
  induction entries using List.reverseRecOn with
  | nil => exact .refl _
  | append_singleton entries last ih =>
    rw [List.map_append, List.nodup_append] at h
    obtain ⟨hfront, -, hlast⟩ := h
    have hnew : last.1 ∉ (ofEntries entries).map (·.1) := by
      rw [((ih hfront).map _).mem_iff]
      exact fun hmem => hlast _ hmem _ (List.mem_singleton_self _) rfl
    rw [ofEntries_concat]
    exact (put_perm hnew).trans
      (((ih hfront).cons last).trans (List.perm_append_singleton last entries).symm)

/-- What is in order already stays as it is. -/
theorem ofEntries_eq_self (h : InOrder entries) : ofEntries entries = entries :=
  (inOrder_ofEntries entries).eq_of_perm h (ofEntries_perm h.nodup_paths)

end PathMap

end SkillAudit
