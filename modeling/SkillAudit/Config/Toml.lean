import SkillAudit.Config.Setting
import SkillAudit.Toml.Reader
/-!
# SkillAudit.Config.Toml

Settings in TOML: reading them, and a file that spells out the defaults.
-/

namespace SkillAudit

variable {α : Type} [Quantity α]

/-- Whether a number lies above all finite ones. -/
def isAboveAll (x : α) : Bool :=
  match Quantity.reading x with
  | .infinity negative => !negative
  | _ => false

/-- A TOML number as a setting. A decimal that is too large to be a number is refused. -/
def Setting.ofNumeral? (x : Numeral) : Option (Setting α) :=
  match x, (Quantity.ofNumeral? x : Option α) with
  | .decimal _, some y => if isAboveAll y then none else some (.number y)
  | _, some y => some (.number y)
  | _, none => some .useless

mutual

/-- A TOML value as a setting. A date is a table that holds nothing a setting knows. -/
def Setting.ofToml? : Toml.Value → Option (Setting α)
  | .bool b => some (.bool b)
  | .int n => some (.int n)
  | .float x => Setting.ofNumeral? x
  | .str s => some (.text s)
  | .date => some (.table [("date", .useless)])
  | .arr items => (Setting.ofTomlItems? items).map .list
  | .table entries => (Setting.ofTomlEntries? entries).map .table

/-- The items of an array as settings. -/
def Setting.ofTomlItems? : List Toml.Value → Option (List (Setting α))
  | [] => some []
  | v :: rest => do return (← Setting.ofToml? v) :: (← Setting.ofTomlItems? rest)

/-- The entries of a table as settings. -/
def Setting.ofTomlEntries? : List (String × Toml.Value) → Option (List (String × Setting α))
  | [] => some []
  | (key, v) :: rest => do return (key, ← Setting.ofToml? v) :: (← Setting.ofTomlEntries? rest)

end

/-- A file of settings that spells out the defaults. -/
def defaultToml : String :=
  String.join ([
    "# skillcheck.toml - validation policy for a capability package.",
    "# Every key is optional; the values below are the built-in defaults.",
    "",
    "[scoring]",
    "pass_threshold = 70.0",
    "",
    "# Point pools per category. Normalised to sum to 100.",
    "[scoring.weights]",
    "structure = 20.0",
    "content = 30.0",
    "efficiency = 20.0",
    "security = 15.0",
    "style = 15.0",
    "",
    "# Points deducted per finding.",
    "[scoring.penalties]",
    "critical = 10.0",
    "high = 6.0",
    "medium = 4.0",
    "low = 1.0",
    "info = 0.0",
    "",
    "[scoring.grade_bands]",
    "a = 90.0",
    "b = 80.0",
    "c = 70.0",
    "d = 60.0",
    "",
    "[style]",
    "# Fraction of body sentences that must open with an imperative verb.",
    "full_threshold = 0.5",
    "partial_threshold = 0.3",
    "weak_phrase_limit = 5",
    "# verbs = [\"add\", \"run\", \"use\"]",
    "",
    "[budget]",
    "warning_fraction = 0.8",
    "aggregate_fraction = 0.7",
    "manifest_warn_lines = 500",
    "manifest_max_lines = 800",
    "",
    "[budget.min_lines]",
    "critical = 50",
    "important = 10",
    "optional = 0",
    "",
    "[budget.token_ceilings]",
    "critical = 5000",
    "important = 3000",
    "optional = 2000",
    "",
    "[budget.paid_weights]",
    "critical = 1.0",
    "important = 1.0",
    "optional = 0.0",
    "",
    "# Per-file tier overrides.",
    "[budget.priorities]",
    "# \"references/api.md\" = \"critical\"",
    "",
    "[tokens]",
    "monthly_volume = 1000",
    "input_rate = 3.0",
    "output_rate = 15.0",
    "output_ratio = 0.2",
    "# output_tokens = 500",
    "",
    "[security]",
    "disabled_rules = []",
    "",
    "[references]",
    "entrypoints = []"].map (· ++ "\n"))

end SkillAudit
