import Beszel.Hub.Record

/-!
# Hub/CollectionRules — the access rules of the systems and their related collections

The second half of `setCollectionAuthSettings` in `internal/hub/hub.go`.  A rule is a conjunction;
PocketBase evaluates it for the authenticated user and a record, and the rules here ask for nothing
of the record but the users its system is shared with.
-/

namespace Beszel

/-- The values of the `role` field of a user; `none` is the empty value. -/
inductive Role
  | none
  | user
  | admin
  | readonly
  deriving DecidableEq, Repr

/-- An authenticated record of the `users` collection.  A stored record has an id. -/
structure User where
  id : String
  role : Role
  id_ne : id ≠ ""
  deriving DecidableEq

namespace CollectionRules

/-- One conjunct of a rule.  `sharedWith path` compares the ids of the relation `path`, which leads
from a record to the users of its system. -/
inductive Condition
  | authenticated
  | sharedWith (path : String)
  | notReadonly
  deriving DecidableEq, Repr

/-- The text of a conjunct, as the source writes it. -/
def Condition.text : Condition → String
  | .authenticated => "@request.auth.id != \"\""
  | .sharedWith path => path ++ " ?= @request.auth.id"
  | .notReadonly => "@request.auth.role != \"readonly\""

/-- What a conjunct says of a user and the users of a system. -/
def Condition.holds (u : User) (users : List String) : Condition → Bool
  | .authenticated => u.id ≠ ""
  | .sharedWith _ => users.contains u.id
  | .notReadonly => u.role ≠ .readonly

/-- A rule: the conjunction of its conditions. -/
abbrev Rule := List Condition

/-- The text that is stored in the collection. -/
def Rule.text (rule : Rule) : String := " && ".intercalate (rule.map Condition.text)

/-- **A rule admits a user** for a record of a system with these users. -/
def Rule.admits (rule : Rule) (u : User) (users : List String) : Bool :=
  rule.all (Condition.holds u users)

/-- `systemsReadRule`, the list and view rule of `systems`. -/
def systemsReadRule (shareAllSystems : String) : Rule :=
  if shareAllSystems = "true" then [.authenticated]
  else [.authenticated, .sharedWith "users.id"]

/-- `updateDeleteRule`, the update and delete rule of `systems`. -/
def updateDeleteRule (shareAllSystems : String) : Rule :=
  systemsReadRule shareAllSystems ++ [.notReadonly]

/-- `strings.Replace(rule, "users.id", "system.users.id", 1)`. -/
def throughSystem : Rule → Rule
  | [] => []
  | .sharedWith "users.id" :: rule => .sharedWith "system.users.id" :: rule
  | condition :: rule => condition :: throughSystem rule

/-- `containersListRule`, the list rule of `containers`, `system_details`, `smart_devices` and
`systemd_services`, and the view rule of those of them that have one. -/
def containersListRule (shareAllSystems : String) : Rule :=
  throughSystem (systemsReadRule shareAllSystems)

variable {shareAllSystems : String} {u : User} {users : List String}

/-- **Who may read a system**: everybody when systems are shared, the users of the system
otherwise. -/
theorem admits_systemsReadRule :
    (systemsReadRule shareAllSystems).admits u users = true ↔
      shareAllSystems = "true" ∨ u.id ∈ users := by
  by_cases h : shareAllSystems = "true" <;>
    simp [systemsReadRule, Rule.admits, Condition.holds, h, u.id_ne]

/-- **Who may change a system**: those who may read it, unless their role is `readonly`. -/
theorem admits_updateDeleteRule :
    (updateDeleteRule shareAllSystems).admits u users = true ↔
      (systemsReadRule shareAllSystems).admits u users = true ∧ u.role ≠ .readonly := by
  simp only [updateDeleteRule, Rule.admits, List.all_append, Bool.and_eq_true]
  simp [Condition.holds]

/-- **The related collections follow their system**: their rules admit whom the rules of `systems`
admit. -/
theorem admits_containersListRule :
    (containersListRule shareAllSystems).admits u users =
      (systemsReadRule shareAllSystems).admits u users := by
  unfold containersListRule systemsReadRule
  split <;> rfl

/-- The texts the two sharing modes store. -/
example :
    (updateDeleteRule "").text =
      "@request.auth.id != \"\" && users.id ?= @request.auth.id && @request.auth.role != \"readonly\""
    ∧ (containersListRule "true").text = "@request.auth.id != \"\"" := by
  decide

end CollectionRules

end Beszel
