import Mathlib.Data.UInt

/-!
# Common/Protocol — the actions and messages the hub and the agent exchange

`internal/common/common-ws.go`: a request carries a one-byte action, an undecoded payload and, from
current hubs, a request id.  An action is any byte on the wire; the twelve constants below are the
ones both sides know.
-/

namespace Beszel

/-- Undecoded CBOR (`cbor.RawMessage`, `[]byte`). -/
abbrev Bytes := List UInt8

/-- `common.WebSocketAction`, an alias of `uint8` in the source. -/
abbrev WebSocketAction := UInt8

namespace WebSocketAction

def getData : WebSocketAction := 0
def checkFingerprint : WebSocketAction := 1
def getContainerLogs : WebSocketAction := 2
def getContainerInfo : WebSocketAction := 3
def getSmartData : WebSocketAction := 4
def getSystemdInfo : WebSocketAction := 5
def getPackageUpdates : WebSocketAction := 6
def applyPackageUpdates : WebSocketAction := 7
def getPackageUpdateStatus : WebSocketAction := 8
def updateAgent : WebSocketAction := 9
def rebootSystem : WebSocketAction := 10
def setPackageHold : WebSocketAction := 11

end WebSocketAction

/-- `common.HubRequest[cbor.RawMessage]`: the payload is decoded by the handler of the action. -/
structure HubRequest where
  action : WebSocketAction
  data : Bytes
  id : Option UInt32
  deriving DecidableEq, Repr

/-- `common.FingerprintRequest`, the payload of `CheckFingerprint`. -/
structure FingerprintRequest where
  signature : Bytes
  needSysInfo : Bool
  deriving DecidableEq, Repr

/-- `common.FingerprintResponse`, the agent's answer to `CheckFingerprint`. -/
structure FingerprintResponse where
  fingerprint : String
  hostname : String
  port : String
  name : String
  deriving DecidableEq, Repr

/-- `common.ApplyPackageUpdatesRequest`. -/
structure ApplyPackageUpdatesRequest where
  packages : List String
  all : Bool
  securityOnly : Bool
  deriving DecidableEq, Repr

end Beszel
