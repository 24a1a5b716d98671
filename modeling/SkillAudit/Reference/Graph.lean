import SkillAudit.Config.Basic
import SkillAudit.Reference.Mention
import SkillAudit.Reference.Resolution
/-!
# SkillAudit.Reference.Graph

The references of a package as edges between its files, and what is wrong with them: targets that
lead nowhere, targets that could mean several files, and files that nothing refers to.
-/

namespace SkillAudit

/-- A reference with the file that makes it. -/
structure Citation where
  source : String
  mention : Mention
deriving DecidableEq, Repr

namespace Citation

/-- The citations that a file makes, from its mentions. -/
def ofMentions (source : String) (mentions : List Mention) : List Citation :=
  mentions.map fun m => ⟨source, m⟩

/-- The citations of a package: those of the blocks of the manifest, then those of the reference
    files. -/
def ofPackage (p : Package) : List Citation :=
  ofMentions p.manifestPath (p.blocks.flatMap fun b => Mention.ofText b.startLine b.text) ++
    (p.filesOf .reference).flatMap fun f =>
      ofMentions f.path ((f.text.map (Mention.ofText 1)).getD [])

/-- Whether two citations are of one target on one line of one file. -/
def sameAs (a b : Citation) : Bool :=
  a.source == b.source && a.mention.line == b.mention.line && a.mention.target == b.mention.target

/-- The citations that repeat neither an earlier one nor one of `seen`. -/
def distinctFrom (seen : List Citation) : List Citation → List Citation
  | [] => []
  | c :: rest =>
    if seen.any c.sameAs then distinctFrom seen rest else c :: distinctFrom (c :: seen) rest

/-- The citations without the repetitions of earlier ones. -/
def distinct (citations : List Citation) : List Citation :=
  distinctFrom [] citations

/-- The path that is looked up for a citation. -/
def path (c : Citation) : String := FilePath.ofTarget c.mention.target

/-- Where a citation leads. -/
def resolution (p : Package) (c : Citation) : Resolution :=
  p.resolve (FilePath.folder c.source) c.path

end Citation

/-! ## Edges -/

/-- A reference from a line of a file. -/
structure Edge where
  source : String
  line : Nat
  /-- The target as it is written. -/
  target : String
  /-- The path it leads to; none if it leads nowhere or out of the package. -/
  resolved : Option String
  kind : ReferenceKind
deriving DecidableEq, Repr

namespace Edge

/-- Whether an edge should lead to something in the package and does not. -/
def isBroken (e : Edge) : Bool := e.resolved.isNone && e.kind != .proseMention

/-- The edge of a citation. A target with a scheme is a mention in prose however it is written. -/
def ofCitation (p : Package) (c : Citation) : Edge where
  source := c.source
  line := c.mention.line
  target := c.mention.target
  resolved := (c.resolution p).path?
  kind := if Target.hasScheme c.path.toList then .proseMention else c.mention.kind

end Edge

/-! ## Findings -/

/-- The finding about a citation, if there is something wrong with it. -/
def Citation.finding? (p : Package) (c : Citation) : Option Finding :=
  let target := c.mention.target
  let location : Option Location := some ⟨c.source, some c.mention.line⟩
  match c.resolution p with
  | .broken => some {
      rule := "broken-reference"
      category := .reference
      severity := .high
      message := s!"Broken reference: '{target}' does not exist in the package"
      location := location
      suggestion := none }
  | .ending first others =>
    if others.isEmpty then none
    else
      let candidates := String.intercalate ", " (first :: others)
      some {
        rule := "ambiguous-reference"
        category := .reference
        severity := .medium
        message :=
          s!"Ambiguous reference '{target}' matches {candidates}; resolved to '{first}'"
        location := location
        suggestion := some s!"Use the full package path, e.g. '{first}'" }
  | _ => none

/-- The finding about a file that nothing refers to. -/
def orphanFinding (path : String) : Finding where
  rule := "orphan-file"
  category := .reference
  severity := .low
  message := s!"'{path}' is never referenced from the manifest or other references"
  location := some ⟨path, none⟩
  suggestion := some "Link it from SKILL.md or a reference file, or delete it"

/-! ## Entry points -/

/-- Puts a text into a list in increasing order, unless it is there. -/
def insertDistinct (s : String) : List String → List String
  | [] => [s]
  | t :: rest =>
    if s < t then s :: t :: rest
    else if s = t then t :: rest
    else t :: insertDistinct s rest

/-- The texts in increasing order, each one once. -/
def sortDistinct (texts : List String) : List String :=
  texts.foldr insertDistinct []

/-- Where the front matter names the files that are used without being referred to. -/
def entrypointKeys : List (List String) :=
  [["entrypoint"], ["entrypoints"], ["entry_point"], ["metadata", "entrypoints"]]

/-- The paths of the files that are used without being referred to, in order. -/
def Package.entrypoints (p : Package) (config : ReferencesConfig) : List String :=
  let named := entrypointKeys.flatMap p.frontMatter.textsAt ++ config.entrypoints
  sortDistinct (named.filterMap fun target => FilePath.join? "" (FilePath.ofTarget target))

/-! ## Files as nodes -/

/-- A graph of files. A node is the place of a path in a list, and an arc leads from one node to
    another. -/
structure FileGraph where
  nodes : List String
  arcs : List (Nat × Nat)
deriving DecidableEq, Repr

namespace FileGraph

/-- The arc of an edge that leads from one of the files to one of them; an edge that leads to a
    folder, out of the package or nowhere has none. -/
def arc? (nodes : List String) (e : Edge) : Option (Nat × Nat) :=
  (nodes.idxOf? e.source).bind fun source =>
    (e.resolved.bind fun path => nodes.idxOf? path).map fun target => (source, target)

/-- The graph of the edges between files. -/
def ofEdges (nodes : List String) (edges : List Edge) : FileGraph where
  nodes := nodes
  arcs := edges.filterMap (arc? nodes)

/-- The graph of the files of a package. -/
def ofPackage (p : Package) (edges : List Edge) : FileGraph :=
  ofEdges (p.files.map (·.path)) edges

/-- Whether an arc from another node leads to a node. -/
def isEntered (g : FileGraph) (node : Nat) : Bool :=
  g.arcs.any fun (source, target) => target == node && source != node

/-- Whether a path is a node that no arc from another one leads to. -/
def isAlone (g : FileGraph) (path : String) : Bool :=
  (g.nodes.idxOf? path).any fun node => !g.isEntered node

end FileGraph

/-! ## The graph -/

/-- The references of a package. -/
structure ReferenceGraph where
  edges : List Edge
  /-- The files that nothing refers to. -/
  orphans : List String
  entrypoints : List String
  findings : List Finding
deriving DecidableEq, Repr

namespace ReferenceGraph

/-- Whether a file is one that something should refer to. -/
def needsReference (entrypoints : List String) (f : PackageFile) : Bool :=
  (f.role == .reference || f.role == .script) && !entrypoints.contains f.path

/-- The files that should be referred to and are not. -/
def orphansOf (p : Package) (entrypoints : List String) (edges : List Edge) : List String :=
  let g := FileGraph.ofPackage p edges
  (p.files.filter fun f => needsReference entrypoints f && g.isAlone f.path).map (·.path)

/-- The references of a package, and what is wrong with them. -/
def ofPackage (p : Package) (config : ReferencesConfig) : ReferenceGraph :=
  let citations := Citation.distinct (Citation.ofPackage p)
  let edges := citations.map (Edge.ofCitation p)
  let entrypoints := p.entrypoints config
  let orphans := orphansOf p entrypoints edges
  { edges := edges
    orphans := orphans
    entrypoints := entrypoints
    findings := citations.filterMap (Citation.finding? p) ++ orphans.map orphanFinding }

/-- How many edges are broken. -/
def brokenCount (g : ReferenceGraph) : Nat := g.edges.countP Edge.isBroken

end ReferenceGraph

end SkillAudit
