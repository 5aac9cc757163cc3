import Beszel.Common.Protocol
import Mathlib.Logic.Function.Basic

/-!
# Agent/Handlers — the registry that routes a request to its handler

`agent/handlers.go`.  The registry maps an action to a handler; `handle` is the gate every request
that arrives over the WebSocket passes: the action must be registered, and unless it is
`CheckFingerprint` the hub must count as verified.
-/

namespace Beszel

/-- The handler types `NewHandlerRegistry` registers. -/
inductive RequestHandler
  | getData
  | checkFingerprint
  | getContainerLogs
  | getContainerInfo
  | getSmartData
  | getSystemdInfo
  | getPackageUpdates
  | applyPackageUpdates
  | getPackageUpdateStatus
  | updateAgent
  | rebootSystem
  | setPackageHold
  deriving DecidableEq, Repr

/-- `agent.HandlerRegistry`. -/
structure HandlerRegistry where
  handlers : WebSocketAction → Option RequestHandler

namespace HandlerRegistry

/-- `HandlerRegistry.Register`. -/
def register (hr : HandlerRegistry) (action : WebSocketAction) (handler : RequestHandler) :
    HandlerRegistry where
  handlers := Function.update hr.handlers action (some handler)

/-- After a registration the new handler answers its action, the old ones every other action. -/
theorem register_handlers_eq_some {hr : HandlerRegistry} {action action' : WebSocketAction}
    {handler handler' : RequestHandler} :
    (hr.register action handler).handlers action' = some handler' ↔
      (action' = action ∧ handler = handler') ∨
        (action' ≠ action ∧ hr.handlers action' = some handler') := by
  by_cases h : action' = action
  · subst h
    simp [register]
  · simp [register, h]

/-- `HandlerRegistry.GetHandler`. -/
def getHandler (hr : HandlerRegistry) (action : WebSocketAction) : Option RequestHandler :=
  hr.handlers action

/-- `NewHandlerRegistry`. -/
def newHandlerRegistry : HandlerRegistry :=
  let registry : HandlerRegistry := { handlers := fun _ => none }
  registry
    |>.register WebSocketAction.getData .getData
    |>.register WebSocketAction.checkFingerprint .checkFingerprint
    |>.register WebSocketAction.getContainerLogs .getContainerLogs
    |>.register WebSocketAction.getContainerInfo .getContainerInfo
    |>.register WebSocketAction.getSmartData .getSmartData
    |>.register WebSocketAction.getSystemdInfo .getSystemdInfo
    |>.register WebSocketAction.getPackageUpdates .getPackageUpdates
    |>.register WebSocketAction.applyPackageUpdates .applyPackageUpdates
    |>.register WebSocketAction.getPackageUpdateStatus .getPackageUpdateStatus
    |>.register WebSocketAction.updateAgent .updateAgent
    |>.register WebSocketAction.rebootSystem .rebootSystem
    |>.register WebSocketAction.setPackageHold .setPackageHold

/-- `HandlerRegistry.Handle`, up to the call of the handler: the handler that is executed, or the
error that is returned instead. -/
def handle (hr : HandlerRegistry) (action : WebSocketAction) (hubVerified : Bool) :
    Except String RequestHandler :=
  match hr.handlers action with
  | none => .error ("unknown action: " ++ toString action.toNat)
  | some handler =>
    if action ≠ WebSocketAction.checkFingerprint ∧ hubVerified = false then
      .error "hub not verified"
    else .ok handler

variable {hr : HandlerRegistry} {action : WebSocketAction} {hubVerified : Bool}
  {handler : RequestHandler}

/-- **What the gate lets through**: a registered handler, and for any action but the challenge a
verified hub. -/
theorem handle_eq_ok :
    hr.handle action hubVerified = .ok handler ↔
      hr.handlers action = some handler ∧
        (action = WebSocketAction.checkFingerprint ∨ hubVerified = true) := by
  unfold handle
  cases h : hr.handlers action with
  | none => simp
  | some handler' =>
    by_cases hv : action ≠ WebSocketAction.checkFingerprint ∧ hubVerified = false
    · simp [hv]
    · have hv' : action = WebSocketAction.checkFingerprint ∨ hubVerified = true := by
        rw [not_and_or] at hv
        simpa using hv
      simp only [if_neg hv, Except.ok.injEq, Option.some.injEq, hv', and_true]

/-- The challenge handler is registered for the challenge only. -/
theorem eq_checkFingerprint
    (h : newHandlerRegistry.handlers action = some .checkFingerprint) :
    action = WebSocketAction.checkFingerprint := by
  simp only [newHandlerRegistry, register_handlers_eq_some, reduceCtorEq, and_false, false_or,
    or_false, and_true] at h
  tauto

end HandlerRegistry

end Beszel
