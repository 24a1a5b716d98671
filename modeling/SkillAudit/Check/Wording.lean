import SkillAudit.Check.Basic
/-!
# SkillAudit.Check.Wording

The check on hedging phrases.
-/

namespace SkillAudit

/-- How often phrases occur in a text in any case; each is counted on its own. -/
def countPhrases (phrases : List String) (text : String) : Nat :=
  let text := Text.lower text.toList
  (phrases.map fun phrase => Text.count (Text.lower phrase.toList) text).foldr (· + ·) 0

/-- The body does not hedge more often than the settings allow. -/
def Check.weakPhrases {α : Type} : Check α where
  name := "weak-phrases"
  description := "Detects bodies that hedge instead of giving instructions"
  category := .style
  run p config :=
    let limit := config.style.weakPhraseLimit
    let count := countPhrases config.style.weakPhrases p.body
    if count ≤ limit then []
    else
      [p.remark .low s!"Body uses {count} weak phrases (limit {limit})"
        "Replace 'you can'/'you should' with direct imperatives"]

end SkillAudit
