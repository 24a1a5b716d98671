/-!
# SkillAudit.Report.Paint

Colours and weights of text on a terminal, and columns of a fixed width.
-/

namespace SkillAudit

/-- The colours in use. -/
inductive Colour where
  | red
  | green
  | yellow
  | blue
  | cyan
deriving DecidableEq, Repr

/-- The number of a colour in control sequences. -/
def Colour.number : Colour → Nat
  | red => 1
  | green => 2
  | yellow => 3
  | blue => 4
  | cyan => 6

/-- How a text is shown. -/
structure Paint where
  colour : Option Colour := none
  bright : Bool := false
  bold : Bool := false
  dim : Bool := false
deriving DecidableEq, Repr

namespace Paint

/-- A colour alone. -/
def of (c : Colour) : Paint := { colour := some c }

/-- A colour in its bright variant. -/
def brightOf (c : Colour) : Paint := { colour := some c, bright := true }

/-- Heavy type. -/
def heavy : Paint := { bold := true }

/-- Faint type. -/
def faint : Paint := { dim := true }

/-- The same in heavy type. -/
def withBold (p : Paint) : Paint := { p with bold := true }

/-- A control sequence. -/
def sequence (code : String) : String := "\x1b[" ++ code ++ "m"

/-- The control sequences in front of a text: its colour, then its weight. -/
def opening (p : Paint) : String :=
  let colour := match p.colour with
    | none => ""
    | some c =>
      if p.bright then sequence s!"38;5;{c.number + 8}" else sequence s!"{c.number + 30}"
  colour ++ (if p.bold then sequence "1" else "") ++ (if p.dim then sequence "2" else "")

/-- A text as it is shown: with control sequences around it if `colours` are wanted. -/
def apply (p : Paint) (colours : Bool) (text : String) : String :=
  if colours && p.opening != "" then p.opening ++ text ++ sequence "0" else text

end Paint

/-! ## Columns -/

/-- Spaces that fill a text up to a width. -/
def filling (width : Nat) (text : String) : String :=
  String.ofList (List.replicate (width - text.length) ' ')

/-- A text at the left of a column. -/
def padRight (width : Nat) (text : String) : String := text ++ filling width text

/-- A text at the right of a column. -/
def padLeft (width : Nat) (text : String) : String := filling width text ++ text

/-- The text with a capital first letter. -/
def capitalized (text : String) : String := text.capitalize

end SkillAudit
