/-!
# SkillAudit.PathMap

Values kept by path. A path has one value at most; one that is given a second value has this one
from then on.
-/

namespace SkillAudit

/-- Values by path, in the order of the paths. -/
abbrev PathMap (β : Type) := List (String × β)

namespace PathMap

variable {β : Type}

/-- Gives a path a value, in place of the one it has. -/
def put (path : String) (value : β) : PathMap β → PathMap β
  | [] => [(path, value)]
  | e :: rest =>
    if path < e.1 then (path, value) :: e :: rest
    else if path = e.1 then (path, value) :: rest
    else e :: put path value rest

/-- Gives several paths their values, the later ones winning. -/
def putAll (entries : List (String × β)) (m : PathMap β) : PathMap β :=
  entries.foldl (fun m e => put e.1 e.2 m) m

/-- The values of paths, the later one of two for a path. -/
def ofEntries (entries : List (String × β)) : PathMap β := putAll entries []

end PathMap

end SkillAudit
