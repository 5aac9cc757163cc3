import Beszel.Hub.Systems

/-!
# Hub/WsConn — the connection of an instance, from its close to the down signal

    OnClose: conn = nil ──5 s──▸ DownChan ──▸ updater: WsConn = nil
             └──────────── the window ────────────┘

The machine of `Hub/Systems` with the WebSocket connections of `internal/hub/ws/ws.go`.  The close
handler sets the connection of a `WsConn` to nil at once, and the instance gives the `WsConn` up
only when its updater takes the delayed signal.  In between every method of the `WsConn` may still
be called: `Close` looks whether the connection is there, `Ping` does not.
-/

namespace Beszel

open Machinery

namespace WsConnection

open SystemManager (Op Branch turn)

/-! ## Connections -/

/-- `ws.WsConn`: whether `conn` is set, whether the goroutine of the close handler is still waiting,
and whether `DownChan` holds its signal. -/
structure WsConn where
  conn : Bool
  delayed : Bool
  down : Bool
  deriving DecidableEq, Repr

/-- `IsConnected`. -/
def WsConn.isConnected (c : WsConn) : Bool := c.conn

/-- `NewWsConnection`, for an agent whose connection may have been closed again before the instance
is added. -/
def newWsConnection (isOpen : Bool) : WsConn := ⟨isOpen, !isOpen, false⟩

/-- From the close of the connection until the updater has taken the signal. -/
def WsConn.InWindow (c : WsConn) : Prop := c.delayed = true ∨ c.down = true

/-- The methods that use `conn`.  Requests go through the request manager, which has its own
reference. -/
inductive Method
  | ping
  | close
  deriving DecidableEq, Repr

/-- The method dereferences a nil `conn`. -/
def Method.panics (c : WsConn) : Method → Bool
  | .ping => !c.conn
  | .close => c.isConnected && !c.conn

/-! ## The machine -/

/-- The hub, and the connection that each instance was added with. -/
structure State where
  hub : SystemManager.State
  conns : ℕ → WsConn
  panicked : Bool

/-- A hub that has just started, with the record in any state. -/
def State.init (db : Option SystemStatus) : State :=
  ⟨.init db, fun _ => ⟨false, false, false⟩, false⟩

/-- A step of the hub, with whether the connection of an instance that it adds is still open; the
close of a connection, and its signal. -/
inductive Event
  | hub (e : SystemManager.Event) (isOpen : Bool)
  | onClose (i : ℕ)
  | signal (i : ℕ)
  deriving DecidableEq, Repr

/-- The methods that a step calls: `RemoveSystem` closes the connection of the instance it has
cancelled, `handlePaused` pings, and a fetch closes the connection if the request over it fails. -/
def calls (s : SystemManager.State) : SystemManager.Event → List (ℕ × Method)
  | .op (.cancel _ i :: _) _ _ | .op (.fetch i _ :: _) _ _ =>
    if (s.systems i).wsConn then [(i, .close)] else []
  | .op (.pausing i :: _) _ _ => if (s.systems i).wsConn then [(i, .ping)] else []
  | _ => []

/-- A connection changes. -/
def State.modify (s : State) (i : ℕ) (f : WsConn → WsConn) : ℕ → WsConn :=
  Function.update s.conns i (f (s.conns i))

/-- The connections after a step of the hub: an agent's instance is added with its own, and an
updater takes the signal of its instance, if there is one. -/
def connsAfter (s : State) (isOpen : Bool) : SystemManager.Event → Option (ℕ → WsConn)
  | .op (.set _ true :: _) _ _ =>
    some (Function.update s.conns s.hub.next (newWsConnection isOpen))
  | .op (.select i :: _) .down _ =>
    if (s.conns i).down then some (s.modify i ({ · with down := false })) else none
  | _ => some s.conns

/-- **A step of the hub**, which panics in a call or changes the connections. -/
def hubStep (s : State) (e : SystemManager.Event) (isOpen : Bool) : Option State :=
  (SystemManager.step s.hub e).bind fun hub =>
    if (calls s.hub e).any fun c => c.2.panics (s.conns c.1) then some { s with panicked := true }
    else (connsAfter s isOpen e).map fun conns => { s with hub := hub, conns := conns }

/-- **One event.**  A hub that has panicked takes no more steps. -/
def step (s : State) : Event → Option State
  | .hub e isOpen => if s.panicked then none else hubStep s e isOpen
  | .onClose i =>
    if s.panicked = false ∧ (s.conns i).conn then
      some { s with conns := s.modify i ({ · with conn := false, delayed := true }) }
    else none
  | .signal i =>
    if s.panicked = false ∧ (s.conns i).delayed then
      some { s with conns := s.modify i ({ · with delayed := false, down := true }) }
    else none

/-- `handlePaused` runs outside the window: the connection of its instance has not been closed, or
the updater has taken the signal. -/
def OutsideWindow (s : State) : Event → Prop
  | .hub (.op (.pausing i :: _) _ _) _ =>
    (s.hub.systems i).wsConn = true → ¬ (s.conns i).InWindow
  | _ => True

/-- What all runs outside the window keep: the connection of an instance that has a `WsConn` is set,
or its close is not yet dealt with. -/
structure Inv (s : State) : Prop where
  safe : s.panicked = false
  closed : ∀ i, (s.hub.systems i).wsConn = true → (s.conns i).conn = true ∨ (s.conns i).InWindow

/-! ## Which instances have a `WsConn` -/

section Instances

variable {s s' : SystemManager.State} {i : ℕ} {op : Op} {branch : Branch} {ok : Bool}

/-- An instance changes and keeps its `WsConn`, or gives it up. -/
theorem wsConn_modify {k : ℕ} {f : SystemManager.System → SystemManager.System}
    (hf : ∀ sys, (f sys).wsConn = true → sys.wsConn = true)
    (h : ((s.modify k f).systems i).wsConn = true) : (s.systems i).wsConn = true := by
  by_cases hik : i = k
  · subst hik
    exact hf _ (by simpa [SystemManager.State.modify] using h)
  · simpa [SystemManager.State.modify, hik] using h

/-- **Only an agent that connects** gives an instance a `WsConn`, the new one. -/
theorem wsConn_perform (h : ((SystemManager.perform s branch ok op).systems i).wsConn = true) :
    (s.systems i).wsConn = true ∨ i = s.next ∧ ∃ status, op = .set status true := by
  cases op with
  | set status wsConn =>
    by_cases hi : i = s.next
    · subst hi
      obtain rfl : wsConn = true := by simpa [SystemManager.perform] using h
      exact .inr ⟨rfl, status, rfl⟩
    · exact .inl (by simpa [SystemManager.perform, hi] using h)
  | cancel owner victim =>
    exact .inl (wsConn_modify (f := fun sys => { sys with cancelled := true }) (fun _ h => h) h)
  | hookStatus k status =>
    exact .inl (wsConn_modify (f := fun sys => { sys with status := status }) (fun _ h => h) h)
  | select k =>
    simp only [SystemManager.perform] at h
    split_ifs at h
    · exact .inl (wsConn_modify (f := fun sys => { sys with wsConn := false, downChan := false })
        (fun _ h => absurd h Bool.false_ne_true) h)
    · exact .inl h
  | hookDispatch k status =>
    simp only [SystemManager.perform] at h
    split_ifs at h <;> exact .inl h
  | save k loop | downSave k =>
    simp only [SystemManager.perform] at h
    split_ifs at h
    · exact .inl ((SystemManager.writeBy_spec s k _).2.1 ▸ h)
    · exact .inl h
  | _ => exact .inl h

/-- The updater that takes the signal gives the `WsConn` up. -/
theorem wsConn_perform_select :
    ((SystemManager.perform s .down ok (.select i)).systems i).wsConn = false := by
  simp [SystemManager.perform, SystemManager.State.modify]

/-- What a goroutine's next operation leaves is what it has performed, but for the goroutine. -/
theorem systems_step_op {rest : List Op}
    (h : SystemManager.step s (.op (op :: rest) branch ok) = some s') :
    s'.systems = (SystemManager.perform s branch ok op).systems := by
  obtain ⟨-, h⟩ := Option.ite_none_right_eq_some.mp h
  obtain ⟨ops, -, rfl⟩ := Option.map_eq_some_iff.mp h
  rfl

/-- A user's step, and whatever else starts a goroutine, leaves the instances alone. -/
theorem systems_step {e : SystemManager.Event} (hop : ∀ g branch ok, e ≠ .op g branch ok)
    (h : SystemManager.step s e = some s') : s'.systems = s.systems := by
  cases e with
  | op g branch ok => exact absurd rfl (hop g branch ok)
  | create =>
    obtain ⟨-, rfl⟩ := guard_eq_some h
    rfl
  | commit status =>
    simp only [SystemManager.step, Option.ite_none_left_eq_some, Option.some.injEq] at h
    obtain ⟨-, rfl⟩ := h
    rfl
  | addWebSocketSystem =>
    obtain ⟨status, -, rfl⟩ := Option.map_eq_some_iff.mp h
    rfl
  | delete | addSystem | removeSystem | tokenRotated =>
    obtain rfl := Option.some.inj h
    rfl

end Instances

/-! ## Runs -/

section Runs

variable {s s' : State} {e : SystemManager.Event}

theorem close_not_panics (c : WsConn) : Method.close.panics c = false := by
  unfold Method.panics WsConn.isConnected
  cases c.conn <;> rfl

theorem inv_init (db : Option SystemStatus) : Inv (State.init db) :=
  ⟨rfl, fun _ h => absurd h Bool.false_ne_true⟩

/-- **Every call is `Close`**, but for the ping of `handlePaused`. -/
theorem method_calls {i : ℕ} {m : Method} (h : (i, m) ∈ calls s.hub e) : m = .close ∨
    (s.hub.systems i).wsConn = true ∧ ∃ rest branch ok, e = .op (.pausing i :: rest) branch ok := by
  unfold calls at h
  split at h
  · split_ifs at h
    · exact .inl (Prod.mk.inj (List.mem_singleton.mp h)).2
    · cases h
  · split_ifs at h
    · exact .inl (Prod.mk.inj (List.mem_singleton.mp h)).2
    · cases h
  · split_ifs at h with hws
    · obtain ⟨rfl, -⟩ := Prod.mk.inj (List.mem_singleton.mp h)
      exact .inr ⟨hws, _, _, _, rfl⟩
    · cases h
  · cases h

/-- **No call panics outside the window.** -/
theorem Inv.calls (hs : Inv s) {isOpen : Bool} (hok : OutsideWindow s (.hub e isOpen)) :
    ((calls s.hub e).any fun c => c.2.panics (s.conns c.1)) = false := by
  rw [List.any_eq_false]
  rintro ⟨i, m⟩ hm
  rw [Bool.not_eq_true]
  obtain rfl | ⟨hws, rest, branch, ok, rfl⟩ := method_calls hm
  · exact close_not_panics _
  · cases m with
    | close => exact close_not_panics _
    | ping => simp [Method.panics, (hs.closed i hws).resolve_right (hok hws)]

/-- A connection changes and stays set, or its close is under way. -/
theorem Inv.modify (hs : Inv s) (i : ℕ) (f : WsConn → WsConn)
    (hf : (f (s.conns i)).conn = true ∨ (f (s.conns i)).InWindow) :
    Inv { s with conns := s.modify i f } := by
  refine ⟨hs.safe, fun k hk => ?_⟩
  by_cases hki : k = i
  · subst hki
    simpa [State.modify] using hf
  · simpa [State.modify, hki] using hs.closed k hk

/-- **A goroutine of the hub does its next operation**: an updater that takes a signal gives the
connection up, and a new instance has its connection, or its close is under way. -/
theorem Inv.op (hs : Inv s) {op : Op} {rest : List Op} {branch : Branch} {ok isOpen : Bool}
    {hub : SystemManager.State} {conns : ℕ → WsConn}
    (hhub : SystemManager.step s.hub (.op (op :: rest) branch ok) = some hub)
    (hconns : connsAfter s isOpen (.op (op :: rest) branch ok) = some conns) :
    Inv { s with hub := hub, conns := conns } := by
  refine ⟨hs.safe, fun k hk => ?_⟩
  have hk' : ((SystemManager.perform s.hub branch ok op).systems k).wsConn = true :=
    systems_step_op hhub ▸ hk
  unfold connsAfter at hconns
  split at hconns
  · obtain ⟨hop, -⟩ := List.cons.inj (SystemManager.Event.op.inj (by assumption)).1
    subst hop
    obtain rfl := Option.some.inj hconns
    by_cases hnew : k = s.hub.next
    · subst hnew
      cases isOpen <;> simp [newWsConnection, WsConn.InWindow]
    · have hold := (wsConn_perform hk').resolve_right fun h => hnew h.1
      simpa [hnew] using hs.closed k hold
  · rename_i i _ _ heq
    obtain ⟨hg, hbranch, -⟩ := SystemManager.Event.op.inj heq
    obtain ⟨rfl, -⟩ := List.cons.inj hg
    subst hbranch
    obtain ⟨-, rfl⟩ := guard_eq_some hconns
    have hki : k ≠ i := by
      rintro rfl
      exact Bool.false_ne_true (wsConn_perform_select.symm.trans hk')
    have hold := (wsConn_perform hk').resolve_right fun ⟨_, _, h⟩ => Op.noConfusion h
    simpa [State.modify, hki] using hs.closed k hold
  · rename_i hset _
    obtain rfl := Option.some.inj hconns
    refine hs.closed k ((wsConn_perform hk').resolve_right fun ⟨_, status, h⟩ => ?_)
    subst h
    exact hset status rest branch ok rfl

/-- **A step of the hub.** -/
theorem Inv.hubStep (hs : Inv s) {isOpen : Bool} (hok : OutsideWindow s (.hub e isOpen))
    (h : hubStep s e isOpen = some s') : Inv s' := by
  obtain ⟨hub, hhub, h⟩ := Option.bind_eq_some_iff.mp h
  rw [if_neg (by simp [hs.calls hok])] at h
  obtain ⟨conns, hconns, rfl⟩ := Option.map_eq_some_iff.mp h
  by_cases hop : ∃ g branch ok, e = .op g branch ok
  · obtain ⟨g, branch, ok, rfl⟩ := hop
    cases g with
    | nil => cases hhub
    | cons op rest => exact hs.op hhub hconns
  · have hne (g : List Op) (branch : Branch) (ok : Bool) : e ≠ .op g branch ok :=
      fun h => hop ⟨g, branch, ok, h⟩
    unfold connsAfter at hconns
    split at hconns
    · exact absurd rfl (hne _ _ _)
    · exact absurd rfl (hne _ _ _)
    · obtain rfl := Option.some.inj hconns
      exact ⟨hs.safe, fun k hk => hs.closed k (systems_step hne hhub ▸ hk)⟩

/-- **One step.** -/
theorem Inv.step {e : Event} (hs : Inv s) (hok : OutsideWindow s e) (h : step s e = some s') :
    Inv s' := by
  cases e with
  | hub e isOpen =>
    simp only [WsConnection.step, hs.safe, Bool.false_eq_true, if_false] at h
    exact hs.hubStep hok h
  | onClose i =>
    obtain ⟨-, rfl⟩ := guard_eq_some h
    exact hs.modify i _ (.inr (.inl rfl))
  | signal i =>
    obtain ⟨-, rfl⟩ := guard_eq_some h
    exact hs.modify i _ (.inr (.inr rfl))

/-- **No step dereferences a nil connection** in any run outside the window, with the record in any
state at the start. -/
theorem safe_of_along {db : Option SystemStatus} {es : List Event}
    (hok : Along step OutsideWindow (State.init db) es)
    (hr : run step (State.init db) es = some s) : s.panicked = false :=
  (inv_of_along (fun hs hok h => hs.step hok h) (inv_init db) hok hr).safe

end Runs

/-- A goroutine of the hub does its next operation. -/
def turnOf (g : List Op) : Event := .hub (turn g) true

/-- An agent connects while its system is paused, and its updater waits for the first tick. -/
def pausedAgent : List Event :=
  [.hub .addWebSocketSystem true, turnOf (SystemManager.addRecord .paused true none),
    turnOf [.has .paused true none], turnOf [.set .paused true], turnOf [.start 0],
    turnOf [.starting 0, .select 0]]

/-- The ticker fires and the updater calls `handlePaused`. -/
def pausedTick : List Event :=
  [turnOf [.select 0], turnOf [.update 0 true, .select 0], turnOf [.pausing 0, .select 0]]

/-- The connection is closed, and the updater takes the signal. -/
def disconnected : List Event :=
  [.onClose 0, .signal 0, .hub (.op [.select 0] .down true) true,
    turnOf [.downCheck 0, .select 0]]

instance (c : WsConn) : Decidable c.InWindow := inferInstanceAs (Decidable (_ ∨ _))

instance (s : State) : ∀ e : Event, Decidable (OutsideWindow s e)
  | .hub (.op (op :: _) _ _) _ =>
    match op with
    | .pausing _ => inferInstanceAs (Decidable (_ → ¬ _))
    | .hasRecord | .has _ _ _ | .set _ _ | .start _ | .getOk _ | .cancel _ _ | .remove _
    | .hookGet _ _ | .hookStatus _ _ | .hookDispatch _ _ | .rotate | .rotateCheck _ | .starting _
    | .select _ | .update _ _ | .fetch _ _ | .load _ _ | .save _ _ | .downCheck _ | .downLoad _
    | .downSave _ => .isTrue trivial
  | .hub (.op [] _ _) _ | .hub .create _ | .hub .delete _ | .hub (.commit _) _
  | .hub (.addSystem _) _ | .hub .addWebSocketSystem _ | .hub .removeSystem _
  | .hub .tokenRotated _ | .onClose _ | .signal _ => .isTrue trivial

theorem safe_of_along_connected :
    ∃ s, run step (State.init (some .paused)) (pausedAgent ++ pausedTick ++ disconnected) = some s ∧
      s.panicked = false ∧ (s.hub.systems 0).wsConn = false := by
  have hok : Along step OutsideWindow (State.init (some .paused))
      (pausedAgent ++ pausedTick ++ disconnected) := by decide +kernel
  exact ⟨_, rfl, safe_of_along hok rfl, rfl⟩

/-- **A tick of a paused system in the five seconds after its agent has disconnected** pings a nil
connection. -/
theorem not_safe_closedWhilePaused :
    ∃ s, run step (State.init (some .paused)) (pausedAgent ++ [.onClose 0] ++ pausedTick) = some s ∧
      s.panicked = true := ⟨_, rfl, rfl⟩

end WsConnection

end Beszel
