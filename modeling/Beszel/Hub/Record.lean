import Mathlib.Data.String.Basic

/-!
# Hub/Record — what the parts of the hub share about a system record

A system is a record of the `systems` collection, named by its id everywhere: by the manager's
store, by the alerts and by the routes.
-/

namespace Beszel

/-- The id of a record of the `systems` collection. -/
abbrev SystemId := String

/-- The four values of a system record's `status` (`internal/hub/systems/system.go`). -/
inductive SystemStatus
  | up
  | down
  | paused
  | pending
  deriving DecidableEq, Repr

end Beszel
