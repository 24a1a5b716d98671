import SkillAudit.Check.Content
import SkillAudit.Check.Layout
import SkillAudit.Check.Wording
/-!
# SkillAudit.Check.Catalog

Every check, in the order in which they are run.
-/

namespace SkillAudit.Check

variable {α : Type}

/-- Every check. -/
def all : List (Check α) := [
  requiredField, nameFormat, rootScripts, bodyWithoutReferences, descriptionLength, triggerPhrase,
  fewHeadings, missingExample, longBody, referenceToc, emptyBody, weakPhrases]

/-- The checks of the given names, or every check when no name is given. -/
def named (names : List String) : List (Check α) :=
  if names.isEmpty then all else all.filter fun c => names.contains c.name

end SkillAudit.Check
