import Beszel.Agent.ConnectionManager

/-!
# Agent/EventLoop — the loop goroutine and the channel it empties

    senders ──▸ eventChan (1) ──receive──▸ loop ──check──▸ ──post──▸ eventChan

The machine of `Agent/ConnectionManager` with the shutdown branch of `Start`.  `StopServer` posts
`SSHDisconnect` to the channel that only its caller, the loop, empties: on the way into
`WebSocketConnected`, and on a signal.  A send to a full channel then waits for the loop itself.
Between the receive, the look at the server and the send the other goroutines go on
(`run_receive` says that without them the three are one step of the manager).
-/

namespace Beszel

open Machinery

namespace EventLoop

open ConnectionManager (ConnectionEvent handleStateChange)

/-! ## The machine -/

/-- Where the loop is in `StopServer`: before the look at the server, or before the send.  `last`
says that it was called by the shutdown branch. -/
inductive Stop
  | check (last : Bool)
  | post (last : Bool)
  deriving DecidableEq, Repr

/-- `returned` says that `Start` has returned, which ends the agent. -/
structure State where
  manager : ConnectionManager.State
  stopping : Option Stop
  returned : Bool

def State.init : State := ⟨.init, none, false⟩

/-- A step of the manager, a signal to the process, or a step of `StopServer`. -/
inductive Event
  | manager (e : ConnectionManager.Event)
  | signal
  | check
  | post
  deriving DecidableEq, Repr

/-- The event makes the loop stop the server. -/
def Stops (m : ConnectionManager.State) (event : ConnectionEvent) : Prop :=
  event = .webSocketConnect ∧ m.state ≠ .webSocketConnected

instance (m : ConnectionManager.State) (event : ConnectionEvent) : Decidable (Stops m event) :=
  inferInstanceAs (Decidable (_ ∧ _))

/-- The loop takes an event off the channel. -/
def receive (m : ConnectionManager.State) (event : ConnectionEvent) (rest : List ConnectionEvent) :
    State :=
  if Stops m event then
    ⟨{ m with eventChan := rest, state := .webSocketConnected, wsTicker := false },
      some (.check false), false⟩
  else ⟨ConnectionManager.handleEvent { m with eventChan := rest } event, none, false⟩

/-- `StopServer` is left: the branch ends, or `Start` returns. -/
def leave (m : ConnectionManager.State) (last : Bool) : State :=
  if last then ⟨m, none, true⟩ else ⟨{ m with isConnecting := false }, none, false⟩

/-- `StopServer` up to its send. -/
def check (m : ConnectionManager.State) (last : Bool) : State :=
  if m.server then ⟨{ m with server := false }, some (.post last), false⟩ else leave m last

/-- The send: to a full channel nobody empties. -/
def post (m : ConnectionManager.State) (last : Bool) : State :=
  if m.eventChan = [] then leave { m with eventChan := [.sshDisconnect] } last
  else ⟨{ m with eventChan := m.eventChan ++ [.sshDisconnect], loop := .blocked }, none, false⟩

/-- **One event.** -/
def step (wsClient : Bool) (s : State) : Event → Option State
  | .manager .receive =>
    if s.returned = false ∧ s.stopping = none ∧ s.manager.loop = .selecting then
      match s.manager.eventChan with
      | event :: rest => some (receive s.manager event rest)
      | [] => none
    else none
  | .manager .tick =>
    if s.returned = false ∧ s.stopping = none then
      (ConnectionManager.step wsClient s.manager .tick).map fun m => { s with manager := m }
    else none
  | .manager e =>
    if s.returned = false then
      (ConnectionManager.step wsClient s.manager e).map fun m => { s with manager := m }
    else none
  | .signal =>
    if s.returned = false ∧ s.stopping = none ∧ s.manager.loop = .selecting then
      some { s with stopping := some (.check true) }
    else none
  | .check =>
    match s.stopping with
    | some (.check last) => some (check s.manager last)
    | _ => none
  | .post =>
    match s.stopping with
    | some (.post last) => some (post s.manager last)
    | _ => none

/-! ## The loop never waits for itself -/

/-- The step sends to the channel, from another goroutine. -/
def Sends : ConnectionManager.Event → Prop
  | .verify | .verifyAgain | .onCloseUnverified | .onCloseVerified | .handleSession => True
  | _ => False

/-- The loop is going to send: it has stopped the server, or will find it running. -/
def Posts (s : State) : Prop :=
  match s.stopping with
  | some (.post _) => True
  | some (.check _) => s.manager.server = true
  | none => False

/-- **There is room for what the loop sends.**  Where it takes an event, or a signal, on which it
stops a running server, nothing more is in the channel; and until it has sent nobody else sends.  A
server that starts before `StopServer` looks is a running one. -/
def Room (s : State) : Event → Prop
  | .manager .receive => ∀ event ∈ s.manager.eventChan.head?,
      Stops s.manager event → s.manager.server = true → s.manager.eventChan.tail = []
  | .manager (.startServer listening) =>
      listening = true → (∃ last, s.stopping = some (.check last)) → s.manager.eventChan = []
  | .manager e => Sends e → ¬ Posts s
  | .signal => s.manager.server = true → s.manager.eventChan = []
  | .check | .post => True

/-- What the runs with room keep. -/
structure Clear (s : State) : Prop where
  loop : s.manager.loop ≠ .blocked
  room : Posts s → s.manager.eventChan = []

section Proofs

variable {wsClient : Bool} {s s' : State} {m m' : ConnectionManager.State}

/-- An event that stops no server leaves the loop in its `select`. -/
theorem loop_handleEvent {event : ConnectionEvent} (hloop : m.loop = .selecting)
    (hstops : ¬ Stops m event) : (ConnectionManager.handleEvent m event).loop = .selecting := by
  have hstate : ∀ newState, newState ≠ .webSocketConnected →
      (handleStateChange m newState).loop = .selecting := by
    intro newState hne
    unfold handleStateChange
    split_ifs
    · exact hloop
    · match newState, hne with
      | .sshConnected, _ => exact hloop
      | .disconnected, _ =>
        unfold ConnectionManager.reconnect
        split_ifs <;> exact hloop
  cases event with
  | webSocketConnect =>
    have hst : m.state = .webSocketConnected := not_not.mp fun h => hstops ⟨rfl, h⟩
    rw [ConnectionManager.handleEvent, handleStateChange, if_pos hst]
    exact hloop
  | sshConnect => exact hstate _ (by decide)
  | webSocketDisconnect | sshDisconnect =>
    simp only [ConnectionManager.handleEvent]
    split_ifs
    · exact hstate _ (by decide)
    · exact hloop

/-- What a step of another goroutine leaves alone. -/
structure Quiet (m m' : ConnectionManager.State) : Prop where
  loop : m.loop ≠ .blocked → m'.loop ≠ .blocked
  eventChan : m'.eventChan = m.eventChan
  server : m'.server = m.server

/-- A `connect()` neither sends nor touches the server. -/
theorem quiet_connectStep {dialled : Bool} {pc : ConnectionManager.Pc}
    {r : ConnectionManager.State × Option ConnectionManager.Pc}
    (h : ConnectionManager.connectStep wsClient m dialled pc = some r) : Quiet m r.1 := by
  cases pc with
  | spawned | failed | ticking | finishing =>
    obtain rfl := Option.some.inj h
    exact ⟨id, rfl, rfl⟩
  | sleeping wake =>
    simp only [ConnectionManager.connectStep, Option.ite_none_right_eq_some,
      Option.some.injEq] at h
    obtain ⟨-, rfl⟩ := h
    exact ⟨id, rfl, rfl⟩
  | ready =>
    simp only [ConnectionManager.connectStep, ConnectionManager.startWebSocketConnection] at h
    split_ifs at h <;> obtain rfl := Option.some.inj h <;> exact ⟨id, rfl, rfl⟩
  | dialing =>
    obtain rfl := Option.some.inj h
    cases dialled <;> exact ⟨id, rfl, rfl⟩
  | fallback =>
    obtain rfl := Option.some.inj h
    simp only [ConnectionManager.startSSHServer]
    split_ifs <;> exact ⟨id, rfl, rfl⟩

theorem Quiet.moveThread (h : Quiet m m') (t : ConnectionManager.Thread)
    (pc : Option ConnectionManager.Pc) : Quiet m (ConnectionManager.moveThread m' t pc) := by
  cases pc with
  | some pc => exact ⟨h.loop, h.eventChan, h.server⟩
  | none =>
    refine ⟨fun hloop => ?_, h.eventChan, h.server⟩
    unfold ConnectionManager.moveThread
    dsimp only
    split_ifs
    · decide
    · exact h.loop hloop

/-- What a step of the manager other than a receive does to the channel and the server: one that
sends adds to the channel, a server may start, and the others leave both alone. -/
inductive Effect (m m' : ConnectionManager.State) : ConnectionManager.Event → Prop
  | sends {e : ConnectionManager.Event} (sends : Sends e) (eventChan : m'.eventChan ≠ [])
    (server : m'.server = m.server) : Effect m m' e
  | starts {listening : Bool} (eventChan : m'.eventChan = m.eventChan)
    (server : m'.server = (m.server || listening)) : Effect m m' (.startServer listening)
  | quiet {e : ConnectionManager.Event} (silent : ¬ Sends e)
    (other : ∀ listening, e ≠ .startServer listening) (quiet : Quiet m m') : Effect m m' e

theorem manager_step {e : ConnectionManager.Event} (he : e ≠ .receive)
    (h : ConnectionManager.step wsClient m e = some m') :
    (m.loop ≠ .blocked → m'.loop ≠ .blocked) ∧ Effect m m' e := by
  cases e with
  | receive => exact absurd rfl he
  | connect t dialled =>
    simp only [ConnectionManager.step, Option.ite_none_right_eq_some] at h
    obtain ⟨r, hr, rfl⟩ := Option.map_eq_some_iff.mp h.2
    have hquiet := (quiet_connectStep hr).moveThread t r.2
    exact ⟨hquiet.loop, .quiet id (by simp) hquiet⟩
  | tick =>
    obtain ⟨-, rfl⟩ := guard_eq_some h
    have hquiet : Quiet m (ConnectionManager.tick wsClient m) := by
      unfold ConnectionManager.tick ConnectionManager.startWebSocketConnection
      split_ifs <;> refine ⟨?_, rfl, rfl⟩ <;> simp
    exact ⟨hquiet.loop, .quiet id (by simp) hquiet⟩
  | tickDialled dialled =>
    obtain ⟨-, rfl⟩ := guard_eq_some h
    have hquiet : Quiet m (ConnectionManager.dial { m with loop := .selecting } dialled) := by
      cases dialled <;> exact ⟨fun _ => by simp [ConnectionManager.dial], rfl, rfl⟩
    exact ⟨hquiet.loop, .quiet id (by simp) hquiet⟩
  | advance ms =>
    obtain rfl := Option.some.inj h
    exact ⟨id, .quiet id (by simp) ⟨id, rfl, rfl⟩⟩
  | acceptSession =>
    obtain ⟨-, rfl⟩ := guard_eq_some h
    exact ⟨id, .quiet id (by simp) ⟨id, rfl, rfl⟩⟩
  | startServer listening =>
    obtain ⟨-, rfl⟩ := guard_eq_some h
    exact ⟨id, .starts rfl rfl⟩
  | verify | verifyAgain | onCloseUnverified | onCloseVerified | handleSession =>
    obtain ⟨-, rfl⟩ := guard_eq_some h
    exact ⟨id, .sends trivial (List.append_ne_nil_of_right_ne_nil _ (List.cons_ne_nil _ _)) rfl⟩

/-- **What a step can be.** -/
inductive Move (wsClient : Bool) (s : State) : Event → State → Prop
  | receive {event : ConnectionEvent} {rest : List ConnectionEvent}
    (idle : s.stopping = none) (loop : s.manager.loop = .selecting)
    (eventChan : s.manager.eventChan = event :: rest) :
    Move wsClient s (.manager .receive) (EventLoop.receive s.manager event rest)
  | manager {e : ConnectionManager.Event} {m : ConnectionManager.State} (other : e ≠ .receive)
    (step : ConnectionManager.step wsClient s.manager e = some m) :
    Move wsClient s (.manager e) { s with manager := m }
  | signal (idle : s.stopping = none) :
    Move wsClient s .signal { s with stopping := some (.check true) }
  | check {last : Bool} (stopping : s.stopping = some (.check last)) :
    Move wsClient s .check (EventLoop.check s.manager last)
  | post {last : Bool} (stopping : s.stopping = some (.post last)) :
    Move wsClient s .post (EventLoop.post s.manager last)

theorem step_move {e : Event} (h : step wsClient s e = some s') : Move wsClient s e s' := by
  cases e with
  | manager e =>
    cases e with
    | receive =>
      simp only [step, Option.ite_none_right_eq_some] at h
      obtain ⟨⟨-, hidle, hloop⟩, h⟩ := h
      split at h
      · rename_i event rest hchan
        obtain rfl := Option.some.inj h
        exact .receive hidle hloop hchan
      · cases h
    | tick =>
      simp only [step, Option.ite_none_right_eq_some] at h
      obtain ⟨m, hm, rfl⟩ := Option.map_eq_some_iff.mp h.2
      exact .manager (by decide) hm
    | advance | tickDialled | connect | verify | verifyAgain | onCloseUnverified | onCloseVerified
    | startServer | acceptSession | handleSession =>
      simp only [step, Option.ite_none_right_eq_some] at h
      obtain ⟨m, hm, rfl⟩ := Option.map_eq_some_iff.mp h.2
      exact .manager (by simp) hm
  | signal =>
    simp only [step, Option.ite_none_right_eq_some, Option.some.injEq] at h
    obtain ⟨⟨-, hidle, -⟩, rfl⟩ := h
    exact .signal hidle
  | check =>
    simp only [step] at h
    split at h
    · rename_i last hstop
      obtain rfl := Option.some.inj h
      exact .check hstop
    · cases h
  | post =>
    simp only [step] at h
    split at h
    · rename_i last hstop
      obtain rfl := Option.some.inj h
      exact .post hstop
    · cases h

/-- After `StopServer` the loop is not going to send. -/
theorem clear_leave (last : Bool) (hloop : m.loop ≠ .blocked) : Clear (leave m last) := by
  unfold leave
  split_ifs
  · exact ⟨hloop, False.elim⟩
  · exact ⟨hloop, False.elim⟩

/-- **A step with room keeps the channel clear** for what the loop sends. -/
theorem Clear.step {e : Event} (hs : Clear s) (hok : Room s e)
    (h : step wsClient s e = some s') : Clear s' := by
  cases step_move h with
  | @receive event rest hidle hloop hchan =>
    unfold receive
    split_ifs with hstops
    · refine ⟨hs.loop, fun hserver => ?_⟩
      have htail := hok event (by rw [hchan]; rfl) hstops hserver
      rwa [hchan] at htail
    · refine ⟨?_, False.elim⟩
      dsimp only
      rw [loop_handleEvent (m := { s.manager with eventChan := rest }) hloop hstops]
      decide
  | @manager e m hother hm =>
    obtain ⟨hloop, heffect⟩ := manager_step hother hm
    refine ⟨hloop hs.loop, fun hposts => ?_⟩
    cases heffect with
    | sends hsends _ hserver =>
      -- it is sent while the loop is not going to
      have hnot : ¬ Posts s := by
        cases e with
        | receive => exact absurd rfl hother
        | startServer => exact hsends.elim
        | _ => exact hok hsends
      refine absurd ?_ hnot
      simpa only [Posts, hserver] using hposts
    | @starts listening hchan hserver =>
      refine hchan.trans ?_
      cases hstop : s.stopping with
      | none => simp [Posts, hstop] at hposts
      | some stop =>
        cases stop with
        | post last => exact hs.room (by simp [Posts, hstop])
        | check last =>
          simp only [Posts, hstop, hserver, Bool.or_eq_true] at hposts
          rcases hposts with hrunning | hlistening
          · exact hs.room (by simpa [Posts, hstop] using hrunning)
          · exact hok hlistening ⟨last, hstop⟩
    | quiet _ _ hquiet =>
      refine hquiet.eventChan.trans (hs.room ?_)
      simpa only [Posts, hquiet.server] using hposts
  | signal hidle => exact ⟨hs.loop, hok⟩
  | @check last hstop =>
    unfold check
    split_ifs with hserver
    · exact ⟨hs.loop, fun _ => hs.room (by rw [Posts, hstop]; exact hserver)⟩
    · exact clear_leave last hs.loop
  | @post last hstop =>
    have hempty : s.manager.eventChan = [] := hs.room (by rw [Posts, hstop]; trivial)
    unfold post
    rw [if_pos hempty]
    exact clear_leave last hs.loop

/-- **A loop that is going to send to a full channel blocks**, in steps of its own. -/
theorem exists_blocked (hposts : Posts s) (hchan : s.manager.eventChan ≠ []) :
    ∃ es t, run (step wsClient) s es = some t ∧ t.manager.loop = .blocked := by
  cases hstop : s.stopping with
  | none => simp [Posts, hstop] at hposts
  | some stop =>
    cases stop with
    | post last =>
      have hpost : step wsClient s .post = some (post s.manager last) := by
        simp only [step, hstop]
      refine ⟨[.post], _, run_cons_eq_some.mpr ⟨_, hpost, rfl⟩, ?_⟩
      rw [post, if_neg hchan]
    | check last =>
      have hserver : s.manager.server = true := by simpa [Posts, hstop] using hposts
      have hcheck : step wsClient s .check =
          some ⟨{ s.manager with server := false }, some (.post last), false⟩ := by
        simp only [step, hstop, check, hserver, if_true]
      refine ⟨[.check, .post], _, run_cons_eq_some.mpr ⟨_, hcheck,
        run_cons_eq_some.mpr ⟨_, rfl, rfl⟩⟩, ?_⟩
      rw [post, if_neg hchan]

/-- Without room the loop is going to send to a full channel. -/
theorem posts_of_not_room {e : Event} (hbad : ¬ Room s e) (h : step wsClient s e = some s') :
    Posts s' ∧ s'.manager.eventChan ≠ [] := by
  cases step_move h with
  | @receive event rest hidle hloop hchan =>
    simp only [Room, hchan, List.head?_cons, Option.mem_def, Option.some.injEq, List.tail_cons,
      forall_eq', Classical.not_imp] at hbad
    obtain ⟨hstops, hserver, hrest⟩ := hbad
    rw [receive, if_pos hstops]
    exact ⟨hserver, hrest⟩
  | @manager e m hother hm =>
    cases (manager_step hother hm).2 with
    | sends hsends hne hserver =>
      have hposts : Posts s := by
        cases e with
        | receive => exact absurd rfl hother
        | startServer => exact hsends.elim
        | _ => exact not_not.mp fun hnot => hbad fun _ => hnot
      exact ⟨by simpa only [Posts, hserver] using hposts, hne⟩
    | @starts listening hchan hserver =>
      simp only [Room, Classical.not_imp] at hbad
      obtain ⟨hlistening, ⟨last, hstop⟩, hne⟩ := hbad
      exact ⟨by simp [Posts, hstop, hserver, hlistening], fun hempty => hne (hchan ▸ hempty)⟩
    | quiet hsilent hstart _ =>
      cases e with
      | receive => exact absurd rfl hother
      | startServer listening => exact absurd rfl (hstart listening)
      | _ => exact absurd (fun h => absurd h hsilent) hbad
  | signal hidle =>
    simp only [Room, Classical.not_imp] at hbad
    exact hbad
  | check | post => exact absurd trivial hbad

/-- **The loop never sends to the full channel** in any run in which there is room for what it
sends; and after the first step without room it can block itself. -/
theorem neverBlocked_of_along {es : List Event}
    (hok : Along (step wsClient) Room State.init es)
    (hr : run (step wsClient) State.init es = some s) :
    s.manager.loop ≠ .blocked ∧
      ∀ e s', ¬ Room s e → step wsClient s e = some s' →
        ∃ es' t, run (step wsClient) s' es' = some t ∧ t.manager.loop = .blocked := by
  have hs : Clear s :=
    inv_of_along (fun hs hok h => Clear.step hs hok h) ⟨by decide, False.elim⟩ hok hr
  refine ⟨hs.loop, fun e s' hroom h => ?_⟩
  obtain ⟨hposts, hchan⟩ := posts_of_not_room hroom h
  exact exists_blocked hposts hchan

/-- **Where nobody intervenes, a receive is one step of the manager.** -/
theorem run_receive {event : ConnectionEvent} (hidle : s.stopping = none)
    (hreturned : s.returned = false) (hloop : s.manager.loop = .selecting)
    (hchan : s.manager.eventChan = [event]) (hstops : Stops s.manager event)
    (hserver : s.manager.server = true) :
    (run (step wsClient) s [.manager .receive, .check, .post]).map (·.manager) =
      ConnectionManager.step wsClient s.manager .receive := by
  obtain ⟨rfl, hst⟩ := id hstops
  simp [run, step, hidle, hreturned, hloop, hchan, receive, hstops, check, hserver, post, leave,
    ConnectionManager.step, ConnectionManager.handleEvent, handleStateChange, hst,
    ConnectionManager.stopServerAndSettle]

end Proofs

/-! ### Two runs -/

/-- The hub cannot be dialled, so the agent starts its SSH server; then the retry ticker dials again
with success. -/
def serverThenDial : List Event :=
  [.manager (.connect ⟨true, .spawned⟩ false), .manager (.connect ⟨true, .ready⟩ false),
    .manager (.connect ⟨true, .dialing⟩ false), .manager (.connect ⟨true, .failed⟩ false),
    .manager (.connect ⟨true, .fallback⟩ false), .manager (.connect ⟨true, .ticking⟩ false),
    .manager (.connect ⟨true, .finishing⟩ false), .manager (.startServer true),
    .manager (.advance 10000), .manager .tick, .manager (.tickDialled true)]

instance (e : ConnectionManager.Event) : Decidable (Sends e) := by
  cases e <;> unfold Sends <;> infer_instance

instance (s : State) : Decidable (Posts s) := by
  unfold Posts
  split <;> infer_instance

instance (s : State) : Decidable (∃ last, s.stopping = some (.check last)) :=
  decidable_of_iff (s.stopping = some (.check false) ∨ s.stopping = some (.check true))
    (Bool.exists_bool (p := fun last => s.stopping = some (.check last))).symm

instance (s : State) : ∀ e : Event, Decidable (Room s e)
  | .manager .receive => inferInstanceAs (Decidable (∀ event ∈ s.manager.eventChan.head?,
      Stops s.manager event → s.manager.server = true → s.manager.eventChan.tail = []))
  | .manager (.startServer _) => inferInstanceAs (Decidable (_ → _ → _))
  | .signal => inferInstanceAs (Decidable (_ → _))
  | .manager (.advance _) | .manager .tick | .manager (.tickDialled _) | .manager (.connect _ _)
  | .manager .verify | .manager .verifyAgain | .manager .onCloseUnverified
  | .manager .onCloseVerified | .manager .acceptSession
  | .manager .handleSession => inferInstanceAs (Decidable (_ → _))
  | .check | .post => .isTrue trivial

/-- The hub authenticates and the loop stops the server; then the session of the hub announces
itself. -/
theorem neverBlocked_of_along_stops :
    ∃ s, run (step true) State.init (serverThenDial ++ [.manager .acceptSession, .manager .verify,
        .manager .receive, .check, .post, .manager .handleSession]) = some s ∧
      s.manager.loop ≠ .blocked ∧ s.manager.eventChan = [.sshDisconnect, .sshConnect] := by
  have hok : Along (step true) Room State.init (serverThenDial ++ [.manager .acceptSession,
      .manager .verify, .manager .receive, .check, .post, .manager .handleSession]) := by decide
  exact ⟨_, rfl, (neverBlocked_of_along hok rfl).1, rfl⟩

/-- **An SSH session of the hub announces itself before the loop has stopped the server.** -/
theorem not_neverBlocked_session :
    ∃ s, run (step true) State.init (serverThenDial ++ [.manager .acceptSession, .manager .verify,
        .manager .receive, .manager .handleSession, .check, .post]) = some s ∧
      s.manager.loop = .blocked :=
  ⟨_, rfl, rfl⟩

end EventLoop

end Beszel
