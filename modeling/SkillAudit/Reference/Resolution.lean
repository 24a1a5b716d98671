import SkillAudit.Package.Basic
import SkillAudit.Reference.Target
/-!
# SkillAudit.Reference.Resolution

Where a target leads. It is looked up from the folder of the file that makes the reference, then
from the root of the package; a file comes before a folder. What is found in neither place may
still be the end of the paths of some files, and then the first of these files is taken. Nothing
outside the package is ever reached.
-/

namespace SkillAudit

/-! ## Joining paths -/

namespace FilePath

/-- The segments of a path, the empty ones too. -/
def segments (path : String) : List (List Char) :=
  Text.splitOn '/' path.toList

/-- A path of the given segments. -/
def ofSegments (parts : List (List Char)) : String :=
  String.ofList (['/'].intercalate parts)

/-- Whether a segment changes nothing. -/
def isIdle (segment : List Char) : Bool :=
  segment.isEmpty || segment == ['.']

/-- Whether a segment leads up. -/
def isUp (segment : List Char) : Bool :=
  segment == ['.', '.']

/-- Goes on by one segment from a place, whose segments are listed last one first. Nothing leads
    up from the root. -/
def enter? (place : List (List Char)) (segment : List Char) : Option (List (List Char)) :=
  if isIdle segment then some place
  else if isUp segment then
    match place with
    | [] => none
    | _ :: above => some above
  else some (segment :: place)

/-- The place of a folder, last segment first. -/
def placeOf (folder : String) : List (List Char) :=
  ((segments folder).filter fun s => !s.isEmpty).reverse

/-- A path followed from a folder, without idle segments; none if it leads out of the package. -/
def join? (folder path : String) : Option String :=
  ((segments path).foldlM enter? (placeOf folder)).map fun place => ofSegments place.reverse

/-- The path that a target names, without fragment, query and one leading `./`. -/
def ofTarget (target : String) : String :=
  String.ofList (Target.clean target.toList)

/-- Whether a path ends in the segments of another one. -/
def endsIn (tail path : String) : Bool :=
  path == tail || ('/' :: tail.toList).isSuffixOf path.toList

end FilePath

/-! ## Resolution -/

/-- Where a target leads. -/
inductive Resolution where
  /-- To a file. -/
  | file (path : String)
  /-- To a folder. -/
  | folder (path : String)
  /-- To the first of the files whose paths end in the target. -/
  | ending (first : String) (others : List String)
  /-- Out of the package, by a scheme. -/
  | external
  /-- Nowhere. -/
  | broken
deriving DecidableEq, Repr

namespace Resolution

/-- The path that a resolution leads to. -/
def path? : Resolution → Option String
  | file path => some path
  | folder path => some path
  | ending first _ => some first
  | external => none
  | broken => none

/-- Whether it is one of several that would do. -/
def isAmbiguous : Resolution → Bool
  | ending _ others => !others.isEmpty
  | _ => false

end Resolution

namespace Package

/-- What is at a path: a file, or else a folder that is not the root. -/
def find? (p : Package) (path : String) : Option Resolution :=
  if p.hasFile path then some (.file path)
  else if path != "" && p.hasFolder path then some (.folder path)
  else none

/-- The files whose paths end in a target, in order. -/
def endingIn (p : Package) (target : String) : List String :=
  (p.files.map (·.path)).filter (FilePath.endsIn target)

/-- Whether a target leads out of the package from a folder or from the root. -/
def leavesFrom (folder target : String) : Bool :=
  (FilePath.join? folder target).isNone || (FilePath.join? "" target).isNone

/-- Looks up a path from a folder, then from the root. -/
def lookUp? (p : Package) (folder target : String) : Option Resolution :=
  ((FilePath.join? folder target).bind p.find?).orElse fun _ =>
    (FilePath.join? "" target).bind p.find?

/-- Looks up a path among the ends of the paths of files; one that leads up is the end of none. -/
def lookUpEnding (p : Package) (folder target : String) : Resolution :=
  if leavesFrom folder target || (FilePath.segments target).any FilePath.isUp then .broken
  else
    match p.endingIn target with
    | [] => .broken
    | first :: others => .ending first others

/-- Where a target leads that is written in a file of a folder. -/
def resolve (p : Package) (folder target : String) : Resolution :=
  if Target.hasScheme target.toList then .external
  else if target == "" || target.startsWith "/" then .broken
  else (p.lookUp? folder target).getD (p.lookUpEnding folder target)

end Package

end SkillAudit
