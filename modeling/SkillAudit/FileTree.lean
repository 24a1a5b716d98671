import SkillAudit.Text.Line
/-!
# SkillAudit.FileTree

Files, folders and symbolic links as a value, and paths within it. The top of a tree is the working
directory. A path is looked up as an operating system does it: links are followed, `..` leaves the
folder reached so far, and nothing above the top can be reached.
-/

namespace SkillAudit

/-- What a name in a folder stands for. -/
inductive FileTree where
  | file (bytes : List UInt8)
  | link (target : String)
  | folder (entries : List (String × FileTree))

namespace FileTree

/-- An empty folder. -/
def empty : FileTree := folder []

/-- Whether it is a file. -/
def isFile : FileTree → Bool
  | file _ => true
  | _ => false

/-- Whether it is a folder. -/
def isFolder : FileTree → Bool
  | folder _ => true
  | _ => false

/-- The entry of a name. -/
def child? (name : String) (entries : List (String × FileTree)) : Option FileTree :=
  (entries.find? fun e => e.1 == name).map (·.2)

/-- What is reached by names alone, without following links. -/
def at? : List String → FileTree → Option FileTree
  | [], t => some t
  | name :: rest, folder entries => (child? name entries).bind (at? rest)
  | _ :: _, _ => none

/-! ## Paths -/

/-- The names in a path, with the empty ones. -/
def names (path : String) : List String :=
  (Text.splitOn '/' path.toList).map String.ofList

/-- A path followed by another one; an absolute one stands alone. -/
def join (base path : String) : String :=
  if path.startsWith "/" then path
  else if base.isEmpty || base.endsWith "/" then base ++ path
  else base ++ "/" ++ path

/-- Follows the names of a path from a folder that `done` leads to. -/
def follow (top : FileTree) : Nat → List String → List String → Option (List String)
  | _, done, [] => some done
  | 0, _, _ :: _ => none
  | steps + 1, done, name :: rest =>
    match top.at? done with
    | some (folder entries) =>
      if name == "" || name == "." then follow top steps done rest
      else if name == ".." then
        if done.isEmpty then none else follow top steps done.dropLast rest
      else
        match child? name entries with
        | none => none
        | some (link target) =>
          if target.startsWith "/" then none else follow top steps done (names target ++ rest)
        | some _ => follow top steps (done ++ [name]) rest
    | _ => none

/-- How many names a path may lead through, those of links included. -/
def stepLimit : Nat := 4096

/-- Where a path leads, as names from the top without links. -/
def locate? (top : FileTree) (path : String) : Option (List String) :=
  if path.isEmpty || path.startsWith "/" then none
  else follow top (stepLimit + path.length) [] (names path)

/-- What a path leads to. -/
def lookup? (top : FileTree) (path : String) : Option FileTree :=
  (top.locate? path).bind fun place => top.at? place

/-- The bytes of the file that a path leads to. -/
def read? (top : FileTree) (path : String) : Option (List UInt8) :=
  match top.lookup? path with
  | some (file bytes) => some bytes
  | _ => none

/-- Whether a path leads to a folder. -/
def hasFolder (top : FileTree) (path : String) : Bool := (top.lookup? path).any isFolder

/-- Whether a path leads to a file. -/
def hasFile (top : FileTree) (path : String) : Bool := (top.lookup? path).any isFile

/-! ## Changes -/

/-- The entries with one of them set. -/
def setEntry (name : String) (t : FileTree) : List (String × FileTree) → List (String × FileTree)
  | [] => [(name, t)]
  | e :: rest => if e.1 == name then (name, t) :: rest else e :: setEntry name t rest

/-- Puts something at a place; folders on the way to it are made, and files give way to them. -/
def put (tree : FileTree) (place : List String) (t : FileTree) : FileTree :=
  match place with
  | [] => t
  | name :: rest =>
    let entries := match tree with
      | folder entries => entries
      | _ => []
    folder (setEntry name (put ((child? name entries).getD empty) rest t) entries)

/-- Removes what is at a place, if anything is. -/
def remove : List String → FileTree → FileTree
  | [], t => t
  | [name], folder entries => folder (entries.filter fun e => e.1 != name)
  | name :: rest, folder entries =>
    match child? name entries with
    | some t => folder (setEntry name (remove rest t) entries)
    | none => folder entries
  | _, t => t

/-- Writes a file. The folder it lies in must be there, and no folder may have its name. -/
def write? (top : FileTree) (path : String) (bytes : List UInt8) : Option FileTree :=
  match top.lookup? path with
  | some (file _) => (top.locate? path).map fun place => top.put place (file bytes)
  | some _ => none
  | none =>
    match (names path).reverse with
    | [] => none
    | name :: before =>
      if name == "" || name == "." || name == ".." then none
      else
        let parent := if before.isEmpty then "." else String.intercalate "/" before.reverse
        match top.locate? parent with
        | some place =>
          if (top.at? place).any isFolder && (top.at? (place ++ [name])).isNone then
            some (top.put (place ++ [name]) (file bytes))
          else none
        | none => none

/-! ## Walking -/

/-- The names that never belong to a package: hidden ones and those of tools. -/
def isVisible (name : String) : Bool :=
  !name.startsWith "." && !(["__pycache__", "node_modules", ".DS_Store"].contains name)

/-- A name behind the path of the folder it is in, which is empty at the top. -/
def inside (path name : String) : String :=
  if path.isEmpty then name else path ++ "/" ++ name

mutual

/-- The visible files with their paths; links are passed over. -/
def files (path : String) : FileTree → List (String × List UInt8)
  | file bytes => [(path, bytes)]
  | link _ => []
  | folder entries => filesIn path entries

/-- The visible files among entries. -/
def filesIn (path : String) : List (String × FileTree) → List (String × List UInt8)
  | [] => []
  | (name, t) :: rest =>
    (if isVisible name then files (inside path name) t else []) ++ filesIn path rest

end

mutual

/-- The paths of a folder and of the visible folders in it. -/
def folders (path : String) : FileTree → List String
  | folder entries => path :: foldersIn path entries
  | _ => []

/-- The paths of the visible folders among entries. -/
def foldersIn (path : String) : List (String × FileTree) → List String
  | [] => []
  | (name, t) :: rest =>
    (if isVisible name then folders (inside path name) t else []) ++ foldersIn path rest

end

end FileTree

end SkillAudit
