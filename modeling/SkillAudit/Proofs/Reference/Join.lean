import SkillAudit.Proofs.Text.Pieces
import SkillAudit.Reference.Resolution
/-!
# SkillAudit.Proofs.Reference.Join

Following a path from a folder. The place that is reached is a stack of names: an idle segment
leaves it as it is, `..` takes a name away, and any other segment is a name that is put on it.

* `follow?_eq_none_iff` — a path leads out of the package exactly when some of its first segments
  take more names away than there are;
* `join?_append` — a path in two parts leads where the second leads from the end of the first;
* `joinsLawfully` — from a plain folder nothing but tidy paths is reached.
-/

namespace SkillAudit

namespace FilePath

open Text

/-! ## Segments -/

/-- Whether a segment is a name, which leads into a folder. -/
def isName (segment : List Char) : Bool :=
  !isIdle segment && !isUp segment

/-- A segment leads nowhere, up, or on. -/
theorem segment_cases (s : List Char) : isIdle s ∨ isUp s ∨ isName s := by
  unfold isName
  cases isIdle s <;> cases isUp s <;> simp

/-- The segments that name something are those that are not empty, one dot or two. -/
theorem isName_iff {s : List Char} : isName s ↔ s ≠ [] ∧ s ≠ ['.'] ∧ s ≠ ['.', '.'] := by
  simp [isName, isIdle, isUp, and_assoc]

/-- Paths are cut at every slash. -/
theorem slash_not_mem_of_mem_segments {path : String} {s : List Char} (h : s ∈ segments path) :
    '/' ∉ s :=
  not_mem_of_mem_splitOn h

/-- A path is cut where two paths are joined. -/
theorem segments_append (a b : String) :
    segments (a ++ "/" ++ b) = segments a ++ segments b := by
  have hlist : (a ++ "/" ++ b).toList = a.toList ++ '/' :: b.toList := by
    rw [String.toList_append, String.toList_append, List.append_assoc]
    rfl
  rw [segments, hlist, splitOn_append, segments, segments]

/-- Joining the segments of a path gives the path. -/
theorem ofSegments_segments (path : String) : ofSegments (segments path) = path := by
  rw [ofSegments, segments, splitOn_eq, List.intercalate_splitOn, String.ofList_toList]

/-- Cutting what is joined from segments gives the segments. -/
theorem segments_ofSegments {parts : List (List Char)} (hne : parts ≠ [])
    (h : ∀ s ∈ parts, '/' ∉ s) : segments (ofSegments parts) = parts := by
  rw [ofSegments, segments, String.toList_ofList, splitOn_eq, List.splitOn_intercalate _ h hne]

/-! ## Places -/

/-- What the segments of a place are, whatever folder it starts from. -/
def IsPlace (place : List (List Char)) : Prop :=
  ∀ s ∈ place, s ≠ [] ∧ '/' ∉ s

/-- A folder stands at the names that it is made of. -/
theorem isPlace_placeOf (folder : String) : IsPlace (placeOf folder) := by
  intro s hs
  obtain ⟨hmem, hne⟩ := List.mem_filter.mp (List.mem_reverse.mp hs)
  exact ⟨by simpa using hne, slash_not_mem_of_mem_segments hmem⟩

/-- A place is read back from its path. -/
theorem placeOf_ofSegments {place : List (List Char)} (h : IsPlace place) :
    placeOf (ofSegments place.reverse) = place := by
  by_cases hne : place = []
  · subst hne
    rfl
  · have hsegments : segments (ofSegments place.reverse) = place.reverse :=
      segments_ofSegments (by simpa using hne) fun s hs => (h s (List.mem_reverse.mp hs)).2
    have hfilter : place.reverse.filter (fun s => !s.isEmpty) = place.reverse :=
      List.filter_eq_self.mpr fun s hs => by simpa using (h s (List.mem_reverse.mp hs)).1
    rw [placeOf, hsegments, hfilter, List.reverse_reverse]

/-! ## One segment -/

section Enter

variable {place : List (List Char)} {s : List Char}

/-- A segment that leads nowhere leaves the place as it is. -/
theorem enter?_idle (h : isIdle s) : enter? place s = some place := by
  simp only [enter?, if_pos h]

theorem not_isIdle_of_isUp (h : isUp s) : ¬isIdle s := by
  obtain rfl : s = ['.', '.'] := by simpa [isUp] using h
  decide

/-- There is nothing above the root. -/
theorem enter?_up_nil (h : isUp s) : enter? [] s = none := by
  rw [enter?, if_neg (not_isIdle_of_isUp h), if_pos h]

/-- Going up leaves the last name. -/
theorem enter?_up_cons (h : isUp s) (last : List Char) :
    enter? (last :: place) s = some place := by
  rw [enter?, if_neg (not_isIdle_of_isUp h), if_pos h]

/-- Entering a name puts it in front. -/
theorem enter?_name (h : isName s) : enter? place s = some (s :: place) := by
  simp only [isName, Bool.and_eq_true, Bool.not_eq_true'] at h
  simp only [enter?, h, Bool.false_eq_true, if_false]

/-- What holds of a place and of the names that lead on holds of the place reached. -/
theorem forall_of_enter? {q : List Char → Prop} {place' : List (List Char)}
    (hplace : ∀ t ∈ place, q t) (hs : isName s → q s) (h : enter? place s = some place') :
    ∀ t ∈ place', q t := by
  obtain hidle | hup | hname := segment_cases s
  · rw [enter?_idle hidle] at h
    cases h
    exact hplace
  · cases place with
    | nil =>
      rw [enter?_up_nil hup] at h
      cases h
    | cons last place =>
      rw [enter?_up_cons hup] at h
      cases h
      exact fun t ht => hplace t (List.mem_cons_of_mem last ht)
  · rw [enter?_name hname] at h
    cases h
    exact List.forall_mem_cons.mpr ⟨hs hname, hplace⟩

end Enter

/-! ## All segments -/

/-- The place that segments lead to. -/
def follow? (place parts : List (List Char)) : Option (List (List Char)) :=
  parts.foldlM enter? place

section Follow

variable {place place' parts : List (List Char)}

/-- Joining is following the segments of the path from the place of the folder. -/
theorem join?_eq (folder path : String) :
    join? folder path =
      (follow? (placeOf folder) (segments path)).map fun place => ofSegments place.reverse := rfl

theorem follow?_cons (place : List (List Char)) (s : List Char) (parts : List (List Char)) :
    follow? place (s :: parts) = (enter? place s).bind fun place => follow? place parts := rfl

/-- Following two paths one after the other. -/
theorem follow?_append (place front behind : List (List Char)) :
    follow? place (front ++ behind) =
      (follow? place front).bind fun place => follow? place behind :=
  List.foldlM_append

/-- What holds of the names on the way holds of those at the end. -/
theorem forall_of_follow? {q : List Char → Prop} (hplace : ∀ t ∈ place, q t)
    (hparts : ∀ s ∈ parts, isName s → q s) (h : follow? place parts = some place') :
    ∀ t ∈ place', q t := by
  induction parts generalizing place with
  | nil =>
    cases h
    exact hplace
  | cons s parts ih =>
    rw [follow?_cons, Option.bind_eq_some_iff] at h
    obtain ⟨next, hstep, hrest⟩ := h
    have hnext := forall_of_enter? hplace (hparts s List.mem_cons_self) hstep
    exact ih hnext (fun t ht => hparts t (List.mem_cons_of_mem s ht)) hrest

/-- Names lead on, one after the other. -/
theorem follow?_names (h : ∀ s ∈ parts, isName s) :
    follow? place parts = some (parts.reverse ++ place) := by
  induction parts generalizing place with
  | nil => rfl
  | cons s parts ih =>
    obtain ⟨hs, hrest⟩ := List.forall_mem_cons.mp h
    rw [follow?_cons, enter?_name hs, Option.bind_some, ih hrest, List.reverse_cons,
      List.append_assoc, List.singleton_append]

/-- Idle segments make no difference. -/
theorem follow?_filter (place parts : List (List Char)) :
    follow? place (parts.filter fun s => !isIdle s) = follow? place parts := by
  induction parts generalizing place with
  | nil => rfl
  | cons s parts ih =>
    by_cases hs : isIdle s
    · rw [List.filter_cons_of_neg (by simpa using hs), ih, follow?_cons, enter?_idle hs,
        Option.bind_some]
    · rw [List.filter_cons_of_pos (by simpa using hs), follow?_cons, follow?_cons]
      cases enter? place s with
      | none => rfl
      | some next => exact ih next

/-- The places that are reached are places again. -/
theorem IsPlace.follow? (hplace : IsPlace place) {path : String}
    (h : FilePath.follow? place (segments path) = some place') : IsPlace place' := by
  refine forall_of_follow? hplace (fun s hs hname => ?_) h
  exact ⟨(isName_iff.mp hname).1, slash_not_mem_of_mem_segments hs⟩

/-- A prefix of a list with a first element is empty, or starts with it. -/
theorem exists_prefix_cons {α : Type} {a : α} {l : List α} {q : List α → Prop} :
    (∃ front, front <+: a :: l ∧ q front) ↔ q [] ∨ ∃ front, front <+: l ∧ q (a :: front) := by
  simp only [List.prefix_cons_iff]
  constructor
  · rintro ⟨front, rfl | ⟨tail, rfl, htail⟩, hq⟩
    · exact .inl hq
    · exact .inr ⟨tail, htail, hq⟩
  · rintro (hq | ⟨tail, htail, hq⟩)
    · exact ⟨[], .inl rfl, hq⟩
    · exact ⟨a :: tail, .inr ⟨tail, rfl, htail⟩, hq⟩

/-- Segments lead out of the package exactly when some of the first ones lead up more often than
    there are names to leave: those of the place and those among the segments. -/
theorem follow?_eq_none_iff : follow? place parts = none ↔
    ∃ front, front <+: parts ∧ place.length + front.countP isName < front.countP isUp := by
  induction parts generalizing place with
  | nil => simp [follow?]
  | cons s parts ih =>
    rw [follow?_cons, exists_prefix_cons]
    obtain hidle | hup | hname := segment_cases s
    · have hup : ¬isUp s := fun hup => not_isIdle_of_isUp hup hidle
      have hname : ¬isName s := by simp [isName, hidle]
      simp only [enter?_idle hidle, Option.bind_some, ih, List.countP_cons_of_neg hup,
        List.countP_cons_of_neg hname, List.countP_nil, Nat.not_lt_zero, false_or]
    · have hname : ¬isName s := by simp [isName, hup]
      simp only [List.countP_cons_of_pos hup, List.countP_cons_of_neg hname]
      cases place with
      | nil =>
        simp only [enter?_up_nil hup, Option.bind_none, true_iff]
        exact .inr ⟨[], List.nil_prefix, by simp⟩
      | cons last place =>
        simp only [enter?_up_cons hup, Option.bind_some, ih, List.countP_nil, Nat.not_lt_zero,
          false_or, List.length_cons, Nat.add_right_comm, Nat.add_lt_add_iff_right]
    · have hup : ¬isUp s := by
        simp only [isName, Bool.and_eq_true, Bool.not_eq_true'] at hname
        simp [hname]
      simp only [enter?_name hname, Option.bind_some, ih, List.countP_cons_of_neg hup,
        List.countP_cons_of_pos hname, List.countP_nil, Nat.not_lt_zero, false_or,
        List.length_cons, Nat.add_assoc, Nat.add_comm 1]

end Follow

/-! ## Tidy paths -/

/-- Whether all segments of a path are names. The path of the root has an empty one. -/
def IsTidy (path : String) : Prop :=
  path = "" ∨ ∀ s ∈ segments path, isName s

instance (path : String) : Decidable (IsTidy path) :=
  inferInstanceAs (Decidable (_ ∨ _))

/-- Names joined make a tidy path. -/
theorem isTidy_ofSegments {parts : List (List Char)} (h : ∀ s ∈ parts, isName s ∧ '/' ∉ s) :
    IsTidy (ofSegments parts) := by
  by_cases hne : parts = []
  · subst hne
    exact .inl rfl
  · refine .inr ?_
    rw [segments_ofSegments hne fun s hs => (h s hs).2]
    exact fun s hs => (h s hs).1

/-- A tidy path leads from the root to itself. -/
theorem IsTidy.join?_root {path : String} (h : IsTidy path) : join? "" path = some path := by
  obtain rfl | h := h
  · rfl
  · have hroot : placeOf "" = [] := rfl
    rw [join?_eq, hroot, follow?_names h, Option.map_some, List.append_nil, List.reverse_reverse,
      ofSegments_segments]

/-! ## Paths in parts -/

/-- A path in two parts leads where the second one leads from the end of the first. -/
theorem join?_append (folder first second : String) :
    join? folder (first ++ "/" ++ second) =
      (join? folder first).bind fun place => join? place second := by
  rw [join?_eq, join?_eq, segments_append, follow?_append]
  cases hfirst : follow? (placeOf folder) (segments first) with
  | none => rfl
  | some place =>
    have hplace : IsPlace place := (isPlace_placeOf folder).follow? hfirst
    rw [Option.bind_some, Option.map_some, Option.bind_some, join?_eq, placeOf_ofSegments hplace]

/-- Whether a path has neither `.` nor `..` for a segment. -/
def IsPlain (path : String) : Prop :=
  ∀ s ∈ segments path, s ≠ ['.'] ∧ s ≠ ['.', '.']

instance (path : String) : Decidable (IsPlain path) :=
  inferInstanceAs (Decidable (∀ s ∈ segments path, _))

/-- In a plain folder all segments but empty ones are names. -/
theorem IsPlain.isName_iff {folder : String} (h : IsPlain folder) {s : List Char}
    (hs : s ∈ segments folder) : isName s = !s.isEmpty := by
  obtain ⟨hdot, hup⟩ := h s hs
  rw [Bool.eq_iff_iff, FilePath.isName_iff]
  simp [hdot, hup]

/-- The place of a plain folder has as many segments as the folder has names. -/
theorem IsPlain.length_placeOf {folder : String} (h : IsPlain folder) :
    (placeOf folder).length = (segments folder).countP isName := by
  rw [placeOf, List.length_reverse, ← List.countP_eq_length_filter]
  exact List.countP_congr fun s hs => by rw [h.isName_iff hs]

/-- What a path leads to from a plain folder is tidy. -/
theorem IsPlain.isTidy_of_join? {folder path reached : String} (h : IsPlain folder)
    (hjoin : join? folder path = some reached) : IsTidy reached := by
  rw [join?_eq, Option.map_eq_some_iff] at hjoin
  obtain ⟨place, hfollow, rfl⟩ := hjoin
  refine isTidy_ofSegments fun s hs => ?_
  have hplace : ∀ s ∈ placeOf folder, isName s ∧ '/' ∉ s := by
    intro s hs
    obtain ⟨hmem, hne⟩ := List.mem_filter.mp (List.mem_reverse.mp hs)
    rw [h.isName_iff hmem]
    exact ⟨hne, slash_not_mem_of_mem_segments hmem⟩
  exact forall_of_follow? hplace (fun s hs hname => ⟨hname, slash_not_mem_of_mem_segments hs⟩)
    hfollow s (List.mem_reverse.mp hs)

/-- What it means for paths to be followed from a folder segment by segment, and never out of the
    package. -/
structure JoinsLawfully (folder : String) : Prop where
  /-- A path in two parts is followed part by part. -/
  join?_append : ∀ first second, join? folder (first ++ "/" ++ second) =
    (join? folder first).bind fun place => join? place second
  /-- What is reached has names for segments, and leads from the root to itself. -/
  isTidy : ∀ path reached, join? folder path = some reached →
    IsTidy reached ∧ join? "" reached = some reached
  /-- Nothing is reached if some first segments of the path lead up more often than there are names
      to leave: those of the folder and those among these segments. -/
  eq_none_iff : ∀ path, join? folder path = none ↔ ∃ front, front <+: segments path ∧
    (segments folder).countP isName + front.countP isName < front.countP isUp

/-- Joining paths to a plain folder is lawful. -/
theorem joinsLawfully {folder : String} (h : IsPlain folder) : JoinsLawfully folder where
  join?_append := FilePath.join?_append folder
  isTidy _ _ hjoin := ⟨h.isTidy_of_join? hjoin, (h.isTidy_of_join? hjoin).join?_root⟩
  eq_none_iff path := by
    rw [join?_eq, Option.map_eq_none_iff, follow?_eq_none_iff, h.length_placeOf]

/-- The laws hold of a folder of references; three steps up from there lead out of the package. -/
theorem joinsLawfully_api :
    join? "references/api" "../../../notes.md" = none ∧ JoinsLawfully "references/api" :=
  ⟨by decide +kernel, joinsLawfully (by decide +kernel)⟩

end FilePath

end SkillAudit
