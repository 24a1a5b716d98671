import SkillAudit.Package.Basic
import SkillAudit.Tokens.Cost
/-!
# SkillAudit.Tokens.Estimate

How many tokens a package has. One token is taken to be four characters, everywhere, so that
packages can be compared; no tokenizer is asked.

The text of a package is read in three tiers: the front matter always, the body when the package
is used, and each reference file when it is opened. Files are counted by their paths: of two that
share a path the last one counts.
-/

namespace SkillAudit

namespace Tokens

/-- The tokens of so many characters: a quarter of them, a half rounded up, and at least one unless
    there are none. -/
def ofLength (chars : Nat) : Nat :=
  if chars = 0 then 0 else max 1 ((chars + 2) / 4)

/-- The tokens of a text. -/
def ofText (text : String) : Nat := ofLength text.length

/-- The tokens that running a script is taken to write. -/
def perScript : Nat := 200

end Tokens

/-- When a text is read. -/
inductive DisclosureTier where
  | metadata
  | body
  | reference
deriving DecidableEq, Repr

/-- The name of a tier of reading. -/
def DisclosureTier.name : DisclosureTier → String
  | metadata => "metadata"
  | body => "body"
  | reference => "reference"

/-- The size of a text. -/
structure TokenEstimate where
  tier : DisclosureTier
  /-- The file that the text is in. -/
  file : String
  tokens : Nat
  chars : Nat
  lines : Nat
deriving DecidableEq, Repr

/-- Measures a text. -/
def TokenEstimate.ofText (tier : DisclosureTier) (file text : String) : TokenEstimate where
  tier := tier
  file := file
  tokens := Tokens.ofText text
  chars := text.length
  lines := (Text.lines text.toList).length

/-- The tokens of a package and their cost. -/
structure TokenReport (α : Type) where
  /-- The tokens of the front matter. -/
  metadata : Nat
  /-- The tokens of the body. -/
  body : Nat
  /-- The tokens of the reference files, by their paths. -/
  references : PathMap Nat
  referencesTotal : Nat
  scenarios : Scenarios
  costs : CostTable α
  /-- What running the scripts is taken to write, by their paths; it is counted nowhere else. -/
  scripts : PathMap Nat
  recommendations : List String
  estimates : List TokenEstimate
deriving DecidableEq, Repr

namespace Package

/-- The reference files that are text, measured. -/
def referenceEstimates (p : Package) : List TokenEstimate :=
  (p.filesOf .reference).filterMap fun f => f.text.map (.ofText .reference f.path)

end Package

namespace TokenReport

/-- The tokens that each use reads, from those of the three tiers. -/
def scenariosOf (metadata body : Nat) (references : List Nat) : Scenarios where
  idle := metadata
  typical := metadata + body
  withReference := metadata + body + references.min?.getD 0
  worst := metadata + body + references.foldr (· + ·) 0

/-- What could be made smaller. -/
def advice (body : Nat) (references : List (String × Nat)) : List String :=
  let total := (references.map (·.2)).foldr (· + ·) 0
  let split :=
    if body * 2 < total then
      [s!"References ({total} tokens) are more than twice the manifest body ({body} tokens); " ++
        "consider splitting them further"]
    else []
  let large := (references.filter fun r => 1000 < r.2).map fun r =>
    s!"{r.1} is large ({r.2} tokens); consider splitting it"
  split ++ large

/-- What is said where there is no advice. -/
def praise (typical : Nat) : String :=
  if typical < 500 then s!"Excellent efficiency ({typical} tokens typical); no optimization needed"
  else "Token efficiency looks good; no optimization needed"

/-- The advice, or praise where there is none. -/
def recommend (body typical : Nat) (references : List (String × Nat)) : List String :=
  match advice body references with
  | [] => [praise typical]
  | advice => advice

variable {α : Type} [Quantity α]

/-- The tokens of a package and their cost. -/
def ofPackage (p : Package) (config : TokenConfig α) : TokenReport α :=
  let metadata := TokenEstimate.ofText .metadata p.manifestPath p.frontMatter.raw
  let body := TokenEstimate.ofText .body p.manifestPath p.body
  let measured := p.referenceEstimates
  let references := PathMap.ofEntries (measured.map fun e => (e.file, e.tokens))
  let scenarios := scenariosOf metadata.tokens body.tokens (references.map (·.2))
  { metadata := metadata.tokens
    body := body.tokens
    references := references
    referencesTotal := (references.map (·.2)).foldr (· + ·) 0
    scenarios := scenarios
    costs := config.costs scenarios
    scripts := PathMap.ofEntries ((p.filesOf .script).map fun f => (f.path, Tokens.perScript))
    recommendations := recommend body.tokens scenarios.typical references
    estimates := metadata :: body :: measured }

end TokenReport

end SkillAudit
