import SkillAudit.Proofs.Package.Path
import SkillAudit.Proofs.Text.Utf8
/-!
# SkillAudit.Proofs.Package.Notes

Packages written down by their texts: the front matter and the body of the manifest, and the text of
every other file. All else that a package holds is worked out from these, so that each is coherent,
and names no line twice while its paths differ. In a tree a text in ASCII is written down by its
bytes, which are read back as the text.
-/

namespace SkillAudit

/-- A text file beside the manifest `SKILL.md`. -/
def PackageFile.ofText (path text : String) : PackageFile where
  path := path
  size := text.utf8ByteSize
  role := Role.ofPath "SKILL.md" path
  tier := (Role.ofPath "SKILL.md" path).tier
  text := some text

/-- The front matter of a package that says no more than its name. -/
def FrontMatter.named : FrontMatter := ⟨"name: notes\n", [(.str "name", .str "notes")]⟩

/-- The folders on the way to a file. -/
def FilePath.foldersOn (path : String) : List String :=
  (List.range path.length).filterMap fun n =>
    if path.toList[n]? = some '/' then some (String.ofList (path.toList.take n)) else none

namespace Package

/-- The package with a front matter, a body, and the texts of its other files by their paths. -/
def notes (front : FrontMatter) (body : String) (others : List (String × String)) : Package :=
  let manifest := "---\n" ++ front.raw ++ "---\n" ++ body
  let bodyStartLine := FrontMatter.startLine + (Text.lines front.raw.toList).length + 1
  { name := "notes"
    manifestPath := "SKILL.md"
    frontMatter := front
    body := body
    bodyStartLine := bodyStartLine
    manifestLines := (Text.lines manifest.toList).length
    blocks := Block.ofText bodyStartLine body
    files := (("SKILL.md", manifest) :: others).map fun e => .ofText e.1 e.2
    folders := (others.flatMap fun e => FilePath.foldersOn e.1).eraseDups }

variable {front : FrontMatter} {body : String} {others : List (String × String)}

/-- A package written down by its texts is coherent. -/
theorem coherent_notes : (notes front body others).Coherent where
  manifestPath_mem := List.mem_cons_self
  blocks_eq := rfl
  role_eq := by
    intro f hf
    obtain ⟨e, -, rfl⟩ := List.mem_map.mp hf
    rfl

/-- A path and a number name one line if no path is given twice. -/
theorem isUnambiguous_notes (h : ("SKILL.md" :: others.map (·.1)).Nodup) :
    (notes front body others).IsUnambiguous where
  nodup_paths := by
    rw [notes, List.map_map]
    exact h
  path_ne _ hf hrole := coherent_notes.path_ne_of_role hf hrole
  raw_le_body := Nat.le_succ _

/-- A file that holds the bytes of an ASCII text, none of them zero, is that text. -/
theorem textOf_asciiBytes {text : String} (h : Utf8.isAscii text.toList)
    (hzero : (Utf8.asciiBytes text).contains 0 = false) :
    textOf (Utf8.asciiBytes text) = some text := by
  rw [textOf, hzero, Utf8.decode_asciiBytes h, String.ofList_toList]
  rfl

end Package

end SkillAudit
