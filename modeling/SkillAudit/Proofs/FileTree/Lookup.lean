import SkillAudit.FileTree
import SkillAudit.Proofs.Text.Pieces
/-!
# SkillAudit.Proofs.FileTree.Lookup

Looking up an entry of a folder. A path that leads to a folder, followed by the name of one of its
entries, leads to that entry: whatever the links on the way, the names behind them are followed from
the place that was reached. If the entry is itself a link, the lookup goes on elsewhere.

* `exists_follow_succ` — one name, which is replaced by other names if it is that of a link;
* `exists_follow_append` — all names of a path, with any others behind them;
* `lookup?_join` — a path and a name that is not that of a link.
-/

namespace SkillAudit.FileTree

open Text

variable {top : FileTree} {place done : List String} {name : String}

/-! ## Places -/

theorem at?_append (t : FileTree) (xs ys : List String) :
    t.at? (xs ++ ys) = (t.at? xs).bind (at? ys) := by
  induction xs generalizing t with
  | nil => rfl
  | cons name xs ih =>
    cases t with
    | file bytes => rfl
    | link target => rfl
    | folder entries =>
      rw [List.cons_append, at?, at?]
      cases child? name entries with
      | none => rfl
      | some t => exact ih t

/-! ## Names -/

/-- A name behind a path, with a slash between them unless the path ends in one. -/
theorem toList_join {root : String} (hroot : root ≠ "") (hname : '/' ∉ name.toList) :
    (join root name).toList =
      root.toList ++ (if root.endsWith "/" then [] else ['/']) ++ name.toList := by
  have hempty : root.isEmpty = false := by simpa using hroot
  have hslash : (name.startsWith "/") = false := by
    rw [Bool.eq_false_iff, ne_eq, String.startsWith_string_iff]
    exact fun hstart => hname (hstart.subset List.mem_cons_self)
  by_cases hend : root.endsWith "/" <;> simp [join, hslash, hempty, hend]

theorem endsWith_slash_iff {path : String} : path.endsWith "/" ↔ ['/'] <:+ path.toList := by
  rw [String.endsWith_eq_endsWith_toSlice, String.Slice.endsWith_string_iff, String.copy_toSlice]
  rfl

/-- A path that is relative is so with a name behind it. -/
theorem isRelative_join {root : String} (hroot : root ≠ "") (hrelative : ¬root.startsWith "/")
    (hname : '/' ∉ name.toList) :
    ((join root name).isEmpty || (join root name).startsWith "/") = false := by
  have hne : root.toList ≠ [] := by simpa using hroot
  obtain ⟨c, rest, hc⟩ := List.exists_cons_of_ne_nil hne
  have hslash : c ≠ '/' := by
    rintro rfl
    apply hrelative
    rw [String.startsWith_string_iff, hc]
    exact ⟨rest, rfl⟩
  have hjoin := toList_join hroot hname
  rw [hc, List.append_assoc, List.cons_append] at hjoin
  rw [Bool.or_eq_false_iff]
  constructor
  · rw [Bool.eq_false_iff, ne_eq, String.isEmpty_iff, ← String.toList_inj, hjoin]
    simp
  · rw [Bool.eq_false_iff, ne_eq, String.startsWith_string_iff, hjoin]
    simpa using hslash.symm

/-- The names of a path with a name behind it are its own, without an empty one at the end, and that
    name. -/
theorem exists_names_join {root : String} (hroot : root ≠ "") (hname : '/' ∉ name.toList) :
    ∃ front rest, (rest = [] ∨ rest = [""]) ∧ names root = front ++ rest ∧
      names (join root name) = front ++ [name] := by
  have hjoin := toList_join hroot hname
  have hlast : splitOn '/' name.toList = [name.toList] := splitOn_of_not_mem hname
  by_cases hend : root.endsWith "/"
  · obtain ⟨front, hfront⟩ := endsWith_slash_iff.mp hend
    rw [if_pos hend, ← hfront, List.append_nil, List.append_assoc, List.singleton_append] at hjoin
    refine ⟨(splitOn '/' front).map String.ofList, [""], .inr rfl, ?_, ?_⟩
    · rw [names, ← hfront, splitOn_append, List.map_append]
      rfl
    · simp [names, hjoin, splitOn_append, hlast]
  · rw [if_neg hend, List.append_assoc, List.singleton_append] at hjoin
    refine ⟨names root, [], .inl rfl, (List.append_nil _).symm, ?_⟩
    simp [names, hjoin, splitOn_append, hlast]

/-! ## Following a path -/

/-- One name leads on to a place, from which the names that stand for it, if it is that of a link,
    and the rest of the path are followed. -/
theorem exists_follow_succ {steps : Nat} {rest : List String}
    (h : follow top (steps + 1) done (name :: rest) = some place) :
    ∃ next before, ∀ n tail,
      follow top (n + 1) done (name :: tail) = follow top n next (before ++ tail) := by
  simp only [follow] at h ⊢
  split at h
  · split at h
    · exact ⟨done, [], fun n tail => by simp [*]⟩
    · split at h
      · split at h
        · cases h
        · exact ⟨done.dropLast, [], fun n tail => by simp [*]⟩
      · split at h
        · cases h
        · next target _ =>
          split at h
          · cases h
          · exact ⟨done, names target, fun n tail => by simp [*]⟩
        · exact ⟨done ++ [name], [], fun n tail => by simp [*]⟩
  · cases h

/-- A path that leads to a place leads there whatever is followed behind it, and an empty name at
    its end may be left out. -/
theorem exists_follow_append {steps : Nat} {path rest : List String}
    (hrest : rest = [] ∨ rest = [""]) (h : follow top steps done (path ++ rest) = some place) :
    ∃ left, ∀ more tail, follow top (steps + more) done (path ++ tail) =
      follow top (left + more) place tail := by
  induction steps generalizing done path with
  | zero =>
    cases path with
    | nil =>
      obtain rfl | rfl := hrest
      · cases h
        exact ⟨0, fun _ _ => rfl⟩
      · cases h
    | cons name path => cases h
  | succ steps ih =>
    cases path with
    | nil =>
      obtain rfl | rfl := hrest
      · cases h
        exact ⟨steps + 1, fun _ _ => rfl⟩
      · rw [List.nil_append, follow] at h
        split at h
        · cases steps <;> cases h <;> exact ⟨_, fun _ _ => rfl⟩
        · cases h
    | cons name path =>
      obtain ⟨next, before, hnext⟩ := exists_follow_succ h
      rw [List.cons_append, hnext, ← List.append_assoc] at h
      obtain ⟨left, hleft⟩ := ih h
      refine ⟨left, fun more tail => ?_⟩
      rw [Nat.add_right_comm, List.cons_append, hnext, ← List.append_assoc, hleft]

/-! ## Entries -/

section

variable {entries : List (String × FileTree)}

/-- A name in the folder that has been reached leads to what it stands for, unless that is a
    link. -/
theorem follow_entry {steps : Nat} (hat : top.at? place = some (folder entries))
    (hlink : ∀ target, child? name entries ≠ some (link target))
    (hplain : name ≠ "" ∧ name ≠ "." ∧ name ≠ "..") :
    follow top (steps + 1) place [name] =
      (child? name entries).map fun _ => place ++ [name] := by
  have hidle : (name == "" || name == ".") = false := by simp [hplain]
  have hup : (name == "..") = false := by simp [hplain]
  simp only [follow, hat, hidle, hup, Bool.false_eq_true, if_false]
  split
  · next hchild => rw [hchild, Option.map_none]
  · next target hchild => exact absurd hchild (hlink target)
  · next hchild => rw [hchild, Option.map_some]

/-- The path of a folder and a name in it lead to what the name stands for, however the folder is
    reached, unless that is a link. -/
theorem lookup?_join {root : String} (hfolder : top.lookup? root = some (folder entries))
    (hlink : ∀ target, child? name entries ≠ some (link target)) (hname : '/' ∉ name.toList)
    (hplain : name ≠ "" ∧ name ≠ "." ∧ name ≠ "..") :
    top.lookup? (join root name) = child? name entries := by
  obtain ⟨place, hplace, hat⟩ := Option.bind_eq_some_iff.mp hfolder
  unfold locate? at hplace
  split at hplace
  · cases hplace
  · next hroot =>
    simp only [Bool.or_eq_true, not_or] at hroot
    have hne : root ≠ "" := by simpa using hroot.1
    obtain ⟨front, rest, hrest, hnames, hjoin⟩ := exists_names_join hne hname
    rw [hnames] at hplace
    obtain ⟨left, hleft⟩ := exists_follow_append hrest hplace
    have htoList := toList_join hne hname
    -- the path is longer than that of the folder, so there is a step left for the name
    obtain ⟨more, hmore⟩ : ∃ more, (join root name).length = root.length + (more + 1) := by
      have hpos : 0 < name.length := by simpa [Nat.pos_iff_ne_zero] using hplain.1
      have hlength := congrArg List.length htoList
      simp only [String.length_toList, List.length_append] at hlength
      exact ⟨(join root name).length - root.length - 1, by omega⟩
    have hentry : follow top (stepLimit + (join root name).length) [] (names (join root name)) =
        (child? name entries).map fun _ => place ++ [name] := by
      rw [hmore, hjoin, ← Nat.add_assoc, hleft, ← Nat.add_assoc]
      exact follow_entry hat hlink hplain
    rw [lookup?, locate?, isRelative_join hne hroot.2 hname, if_neg (by decide), hentry]
    cases hchild : child? name entries with
    | none => rfl
    | some t =>
      rw [Option.map_some, Option.bind_some, at?_append, hat, Option.bind_some, at?, hchild]
      rfl

end

end SkillAudit.FileTree
