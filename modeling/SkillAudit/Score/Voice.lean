import SkillAudit.Config.Basic
import SkillAudit.Markdown.Sentence
/-!
# SkillAudit.Score.Voice

How instructive a text is: the share of its sentences that open with a verb of instruction. The
verb may be any of the first three words, so that "Always run" and "First, check" count.
-/

namespace SkillAudit

open Quantity (ofNat)

variable {α : Type} [Quantity α]

/-! ## Sentences -/

namespace Sentence

open Text

/-- A word in small letters, without what is no letter or number around it. -/
def bareWord (word : List Char) : List Char :=
  lower (stripWhile (fun c => !isLetterOrNumber c) word)

/-- The first words of a sentence that hold a letter or number. -/
def firstWords (sentence : String) : List (List Char) :=
  (((words sentence.toList).map bareWord).filter fun w => !w.isEmpty).take 3

/-- Whether one of the first words is a verb of instruction. -/
def isImperative (verbs : List String) (sentence : String) : Bool :=
  (firstWords sentence).any fun w => verbs.contains (String.ofList w)

end Sentence

/-! ## Bands -/

/-- How much of the points of style the wording of a text earns. -/
inductive VoiceBand where
  | full
  | half
  | nothing
deriving DecidableEq, Repr

namespace VoiceBand

/-- The name of a band in reports. -/
def name : VoiceBand → String
  | full => "full"
  | half => "partial"
  | nothing => "none"

/-- The part of the points that a band earns. -/
def credit (band : VoiceBand) (pool : α) : α :=
  match band with
  | .full => pool
  | .half => pool / Quantity.ofNat 2
  | .nothing => Quantity.ofNat 0

end VoiceBand

/-- The wording of a text. -/
structure Voice (α : Type) where
  sentences : Nat
  imperative : Nat
  ratio : α
  band : VoiceBand
deriving DecidableEq, Repr

namespace Voice

/-- The share of instructions; none where there are no sentences. -/
def ratioOf (imperative sentences : Nat) : α :=
  if sentences = 0 then ofNat 0 else ofNat imperative / ofNat sentences

/-- The band of a share. A text without sentences earns nothing. -/
def bandOf (style : StyleConfig α) (sentences : Nat) (ratio : α) : VoiceBand :=
  if sentences = 0 then .nothing
  else if Quantity.le style.fullThreshold ratio then .full
  else if Quantity.le style.partialThreshold ratio then .half
  else .nothing

/-- Measures the wording of a text. -/
def ofText (style : StyleConfig α) (body : String) : Voice α :=
  let verbs := style.verbs.map fun v => String.ofList (Text.lower v.toList)
  let sentences := Sentence.ofText body
  let imperative := sentences.countP (Sentence.isImperative verbs)
  let ratio := ratioOf imperative sentences.length
  { sentences := sentences.length
    imperative := imperative
    ratio := ratio
    band := bandOf style sentences.length ratio }

end Voice

end SkillAudit
