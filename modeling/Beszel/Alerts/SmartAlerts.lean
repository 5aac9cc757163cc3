import Beszel.Hub.StableIds

/-!
# Alerts/SmartAlerts — the alert about a drive that fails

    reading ──▸ getSmartStatus ──▸ smart_devices ──hook──▸ PASSED → FAILED? ──▸ every user

`handleSmartDeviceAlert` of `internal/alerts/alerts_smart.go`, with `upsertSmartDeviceRecord` that
saves the record.  The hook is called after an update, not after the record is created, and compares
the stored state with the state before it.  A failing drive without a temperature is `UNKNOWN`, and
a drive that goes from `PASSED` to `UNKNOWN` to `FAILED` alerts nobody.
-/

namespace Beszel

open Machinery StableIds

namespace SmartAlerts

/-! ## The hook -/

/-- A record of `systems`, as far as the hook reads it: a record has an id, and a relation lists
nobody twice. -/
structure SystemRecord where
  id : String
  name : String
  users : List String
  id_ne : id ≠ ""
  nodup_users : users.Nodup

/-- `AlertMessageData`. -/
structure AlertMessageData where
  userID : String
  systemID : String
  title : String
  message : String
  link : String
  linkText : String
  deriving DecidableEq, Repr

/-- A byte that `url.PathEscape` leaves as it is. -/
def unreserved (c : Char) : Bool := c.isAlphanum || c ∈ "-_.~$&+=:@".toList

/-- `url.PathEscape`. -/
def pathEscape (s : String) : String :=
  String.ofList <| (bytesOf s).flatMap fun c =>
    let char := Char.ofNat c.toNat
    if unreserved char then [char]
    else ['%', (Nat.digitChar (c.toNat / 16)).toUpper, (Nat.digitChar (c.toNat % 16)).toUpper]

/-- `MakeLink`. -/
def makeLink (appURL : String) (parts : List String) : String :=
  (parts.filter (· ≠ "")).foldl (fun base part => base ++ "/" ++ pathEscape part)
    (GoText.trimEnd appURL "/")

/-- What is sent to a user. -/
def alertMessage (appURL : String) (systemRecord : SystemRecord) (record : DeviceRow)
    (userID : String) : AlertMessageData where
  userID := userID
  systemID := record.system
  title := "SMART failure on " ++ systemRecord.name ++ ": " ++ record.name ++ " 🔴"
  message :=
    if record.model ≠ "" then
      "Disk " ++ record.name ++ " (" ++ record.model ++ ") SMART status changed to FAILED"
    else "Disk " ++ record.name ++ " SMART status changed to FAILED"
  link := makeLink appURL ["system", record.system]
  linkText := "View " ++ systemRecord.name

/-- `handleSmartDeviceAlert`: what it sends. -/
def handleSmartDeviceAlert (appURL : String) (systems : List SystemRecord)
    (original record : DeviceRow) : List AlertMessageData :=
  if original.state ≠ "PASSED" || record.state ≠ "FAILED" then []
  else if record.system = "" then []
  else
    match Table.lookup (·.id) systems record.system with
    | none => []
    | some systemRecord => systemRecord.users.map (alertMessage appURL systemRecord record)

/-! ## Reports -/

/-- What `smartctl` prints of a drive, and the parser that reads it. -/
structure Reading where
  output : Agent.Smart.SmartctlOutput
  parser : Agent.Smart.Parser
  attributes : List SmartAttribute

/-- What is reported of a drive. -/
def Reading.device (reading : Reading) : Device :=
  { Agent.Smart.smartDataOf reading.output reading.parser with attributes := reading.attributes }

/-- The reported state. -/
def Reading.state (reading : Reading) : String := reading.device.smartStatus

section Reports

variable (appURL : String) (systems : List SystemRecord) (systemId deviceKey : String)

/-- The record of the drive. -/
def stored (rows : List DeviceRow) : Option DeviceRow :=
  Table.lookup (·.id) rows (recordId (systemId, deviceKey))

/-- A report is saved. -/
def save (rows : List DeviceRow) (reading : Reading) : List DeviceRow :=
  upsertSmartDeviceRecord rows systemId deviceKey reading.device

/-- The messages of a report: those of the hook, if the record was there. -/
def notify (rows : List DeviceRow) (reading : Reading) : List AlertMessageData :=
  match stored systemId deviceKey rows with
  | none => []
  | some original => handleSmartDeviceAlert appURL systems original
      (deviceRecord rows systemId deviceKey reading.device)

/-- The messages of a run of reports. -/
def messages (rows : List DeviceRow) : List Reading → List AlertMessageData
  | [] => []
  | reading :: readings => notify appURL systems systemId deviceKey rows reading ++
      messages (save systemId deviceKey rows reading) readings

variable {appURL systems systemId deviceKey} {rows : List DeviceRow} {reading : Reading}
  {readings : List Reading} {original : DeviceRow}

/-- **The state of a report is stored.** -/
theorem stored_save (systemId deviceKey : String) (rows : List DeviceRow) (reading : Reading) :
    ∃ record, stored systemId deviceKey (save systemId deviceKey rows reading) = some record ∧
      record.state = reading.state := by
  refine ⟨deviceRecord rows systemId deviceKey reading.device, ?_, rfl⟩
  unfold stored save upsertSmartDeviceRecord
  rw [Table.lookup_store, if_pos (deviceRecord_id rows systemId deviceKey reading.device)]

/-- **Only a change from `PASSED` to `FAILED` sends something.** -/
theorem notify_eq_nil (hstored : stored systemId deviceKey rows = some original)
    (h : original.state ≠ "PASSED" ∨ reading.state ≠ "FAILED") :
    notify appURL systems systemId deviceKey rows reading = [] := by
  unfold notify
  rw [hstored]
  refine if_pos ?_
  rw [Bool.or_eq_true, decide_eq_true_eq, decide_eq_true_eq]
  exact h

/-- …to every user of the system. -/
theorem users_notify {systemRecord : SystemRecord}
    (hsystem : Table.lookup (·.id) systems systemId = some systemRecord)
    (hstored : stored systemId deviceKey rows = some original)
    (hpassed : original.state = "PASSED") (hfailed : reading.state = "FAILED") :
    (notify appURL systems systemId deviceKey rows reading).map (·.userID) =
      systemRecord.users := by
  have hid : systemId ≠ "" := fun h => systemRecord.id_ne ((Table.key_of_lookup hsystem).trans h)
  have hfailed' : (deviceRecord rows systemId deviceKey reading.device).state = "FAILED" := hfailed
  have hsystem' : (deviceRecord rows systemId deviceKey reading.device).system = systemId := rfl
  unfold notify
  rw [hstored]
  unfold handleSmartDeviceAlert
  dsimp only
  rw [if_neg (by rw [hpassed, hfailed']; decide), hsystem', if_neg hid, hsystem]
  dsimp only
  rw [List.map_map]
  exact List.map_id _

/-- **Nothing is sent until a drive that is not `PASSED` has passed again.** -/
theorem messages_eq_nil (appURL : String) (systems : List SystemRecord)
    (hstored : stored systemId deviceKey rows = some original)
    (hnot : original.state ≠ "PASSED") (hreadings : ∀ r ∈ readings, r.state ≠ "PASSED")
    (next : Reading) :
    messages appURL systems systemId deviceKey rows (readings ++ [next]) = [] := by
  induction readings generalizing rows original with
  | nil =>
    rw [List.nil_append, messages, notify_eq_nil hstored (.inl hnot)]
    rfl
  | cons reading readings ih =>
    obtain ⟨record, hrecord, hstate⟩ := stored_save systemId deviceKey rows reading
    rw [List.cons_append, messages, notify_eq_nil hstored (.inl hnot), List.nil_append]
    refine ih hrecord ?_ fun r hr => hreadings r (List.mem_cons_of_mem _ hr)
    rw [hstate]
    exact hreadings reading List.mem_cons_self

/-- **Between two `PASSED` states**, the users are those of the system if the first of the states is
`FAILED`, and nobody otherwise. -/
theorem users_messages {systemRecord : SystemRecord}
    (hsystem : Table.lookup (·.id) systems systemId = some systemRecord)
    (hstored : stored systemId deviceKey rows = some original) (hpassed : original.state = "PASSED")
    (hreadings : ∀ r ∈ readings, r.state ≠ "PASSED") {next : Reading}
    (hnext : next.state = "PASSED") :
    (messages appURL systems systemId deviceKey rows (readings ++ [next])).map (·.userID) =
      if readings.head?.map Reading.state = some "FAILED" then systemRecord.users else [] := by
  cases readings with
  | nil =>
    rw [List.nil_append, messages, notify_eq_nil hstored (.inr (by rw [hnext]; decide))]
    rfl
  | cons reading readings =>
    obtain ⟨record, hrecord, hstate⟩ := stored_save systemId deviceKey rows reading
    have hrest := messages_eq_nil appURL systems hrecord
      (hstate ▸ hreadings reading List.mem_cons_self)
      (fun r hr => hreadings r (List.mem_cons_of_mem _ hr)) next
    rw [List.cons_append, messages, hrest, List.append_nil, List.head?_cons, Option.map_some]
    by_cases hfailed : reading.state = "FAILED"
    · rw [hfailed, if_pos rfl]
      exact users_notify hsystem hstored hpassed hfailed
    · rw [notify_eq_nil hstored (.inr hfailed), if_neg fun h => hfailed (Option.some.inj h)]
      rfl

/-- **Every user is notified once between two `PASSED` states if `FAILED` follows the first of them
directly, and not at all otherwise**, whatever was reported before. -/
theorem count_notified (appURL deviceKey : String) {systems : List SystemRecord}
    {systemRecord : SystemRecord}
    (hsystem : Table.lookup (·.id) systems systemId = some systemRecord) (rows : List DeviceRow)
    (before : List Reading) {passed next : Reading} {between : List Reading}
    (hpassed : passed.state = "PASSED") (hbetween : ∀ r ∈ between, r.state ≠ "PASSED")
    (hnext : next.state = "PASSED") {user : String} (huser : user ∈ systemRecord.users) :
    ((messages appURL systems systemId deviceKey
        ((before ++ [passed]).foldl (save systemId deviceKey) rows)
        (between ++ [next])).map (·.userID)).count user =
      if between.head?.map Reading.state = some "FAILED" then 1 else 0 := by
  obtain ⟨record, hrecord, hstate⟩ :=
    stored_save systemId deviceKey (before.foldl (save systemId deviceKey) rows) passed
  rw [List.foldl_append, List.foldl_cons, List.foldl_nil,
    users_messages hsystem hrecord (hstate.trans hpassed) hbetween hnext]
  split_ifs
  · exact List.count_eq_one_of_mem systemRecord.nodup_users huser
  · rfl

end Reports

/-- A reading of a drive that has failed: its state depends on the temperature. -/
def failing (temperature : UInt8) : Reading where
  output := { Agent.Smart.sataOutput with passed := false, temperature := temperature }
  parser := .sat
  attributes := []

/-- A reading of a drive that passes. -/
def passing : Reading := ⟨Agent.Smart.sataOutput, .sat, []⟩

/-- A system of two users. -/
def server : SystemRecord := ⟨"k3v9x0q2m7t5a1z", "server", ["anna", "ben"], by decide, by decide⟩

/-- `PASSED`, `FAILED`, `UNKNOWN`, `FAILED`, `PASSED`: one message to a user. -/
theorem count_notified_once :
    ((messages "https://beszel.dev" [server] server.id "9C40918040082"
        (([] ++ [passing]).foldl (save server.id "9C40918040082") [])
        ([failing 40, failing 0, failing 40] ++ [passing])).map (·.userID)).count "ben" =
      if [failing 40, failing 0, failing 40].head?.map Reading.state = some "FAILED" then 1
      else 0 :=
  have hsystem : Table.lookup (·.id) [server] server.id = some server := rfl
  count_notified "https://beszel.dev" "9C40918040082" hsystem [] [] (by decide +kernel)
    (by decide +kernel) (by decide +kernel) (by decide)

/-- `PASSED`, `UNKNOWN`, `FAILED`, `PASSED`: nobody is told of the failure. -/
theorem not_notified_of_unknown :
    (failing 40).state = "FAILED" ∧
      messages "https://beszel.dev" [server] server.id "9C40918040082"
        ([passing].foldl (save server.id "9C40918040082") [])
        ([failing 0, failing 40] ++ [passing]) = [] := by
  decide +kernel

end SmartAlerts

end Beszel
