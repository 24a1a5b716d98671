import SkillAudit.Yaml.Cursor
/-!
# SkillAudit.Yaml.Error

What can be wrong with a YAML text: its form, found while it is scanned or while its structure is
followed, or its data.
-/

namespace SkillAudit.Yaml

/-- A fault of the form: the problem and its place, and what was being read and since where. -/
structure Fault where
  problem : String
  mark : Mark
  context : Option (String × Mark)
deriving DecidableEq, Repr

/-- Why a text gives no value. -/
inductive Error where
  /-- The text is not well-formed. -/
  | form (fault : Fault)
  /-- A character that no text may hold, at a byte offset. -/
  | forbidden (offset : Nat)
  /-- An alias to nothing. -/
  | unknownAnchor (mark : Mark)
  /-- A second document follows. -/
  | manyDocuments
  /-- Collections are nested too deep. -/
  | tooDeep (mark : Mark)
  /-- Aliases are followed too often. -/
  | tooManyAliases
  /-- A value that the data may not hold, with the path and the place of it. -/
  | data (problem path : String) (mark : Mark)
deriving DecidableEq, Repr

namespace Error

/-- The place in words, behind ` at `, unless it is the start. -/
def atMark (m : Mark) : String :=
  if m.isStart then "" else " at " ++ m.describe

/-- The error in words. The start of the text is not named as a place, and neither is the place of
    the context when it is that of the problem. -/
def message : Error → String
  | form f =>
    f.problem ++ atMark f.mark ++
      match f.context with
      | none => ""
      | some (what, since) =>
        ", " ++ what ++ if since.sameSpot f.mark then "" else atMark since
  | forbidden offset =>
    "control characters are not allowed" ++
      if offset = 0 then "" else " at position " ++ toString offset
  | unknownAnchor m => "unknown anchor" ++ atMark m
  | manyDocuments => "deserializing from YAML containing more than one document is not supported"
  | tooDeep m => "recursion limit exceeded" ++ atMark m
  | tooManyAliases => "repetition limit exceeded"
  | data problem path m =>
    (if path = "." then problem else path ++ ": " ++ problem) ++ atMark m

/-- The place of the error, if it has one. -/
def mark? : Error → Option Mark
  | form f => some f.mark
  | forbidden _ => some Mark.start
  | unknownAnchor m => some m
  | manyDocuments => none
  | tooDeep m => some m
  | tooManyAliases => none
  | data _ _ m => some m

/-- A fault found while something was being read. -/
def during (context : String) (since : Mark) (problem : String) (mark : Mark) : Error :=
  form ⟨problem, mark, some (context, since)⟩

end Error

end SkillAudit.Yaml
