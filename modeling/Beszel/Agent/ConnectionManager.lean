import Beszel.Machinery.Run

/-!
# Agent/ConnectionManager — the agent's connection event loop

    Disconnected ──go connect()──▸ dial ──verified──▸ WebSocketConnected ──closed──▸ Disconnected

`agent/connection_manager.go`, with the callbacks of `client.go` and `server.go` that send to its
channel.  The loop goroutine takes events and ticks; every `connect()` is a goroutine of its own
that shares the fields with it; a WebSocket connection is first open, then authenticated, and says
`WebSocketDisconnect` when it ends.  A step of the model is what one of them does between two points
where another can intervene.

A manager in `Disconnected` relies on somebody to leave that state again: the retry ticker, a
`connect()` or a connection whose authentication is still to come.  `NeverStuck` asks for one of
them.
-/

namespace Beszel

open Machinery

namespace ConnectionManager

/-! ## The manager -/

/-- `ConnectionState`. -/
inductive ConnectionState
  | disconnected
  | webSocketConnected
  | sshConnected
  deriving DecidableEq, Repr

/-- `ConnectionEvent`. -/
inductive ConnectionEvent
  | webSocketConnect
  | webSocketDisconnect
  | sshConnect
  | sshDisconnect
  deriving DecidableEq, Repr

/-- Where a `connect()` is: before its first statement, asleep until `wake`, before
`startWebSocketConnection`, in the dial, after an error and before the test of `State`, before
`startSSHServer`, before `startWsTicker`, before its deferred function. -/
inductive Pc
  | spawned
  | sleeping (wake : ℕ)
  | ready
  | dialing
  | failed
  | fallback
  | ticking
  | finishing
  deriving DecidableEq, Repr

/-- A running `connect()`.  The first one is called by `Start` itself, before the loop. -/
structure Thread where
  main : Bool
  pc : Pc
  deriving DecidableEq, Repr

/-- The loop goroutine: inside the first `connect()`, in the `select`, in the dial of a tick, or
blocked on its own channel. -/
inductive Loop
  | starting
  | selecting
  | dialing
  | blocked
  deriving DecidableEq, Repr

/-- The manager, its agent's SSH server and its client's connections.  `eventChan` holds the buffer
of the channel followed by the senders blocked on it, which Go serves in order; `threads` the
running `connect()` calls; `unverified` and `verified` count the open connections on which no
challenge, or some challenge, has verified; `starting` the `StartServer` goroutines that have not
listened yet and `sessions` the SSH sessions that have not reached their first statement.  Times are
in milliseconds. -/
structure State where
  state : ConnectionState
  eventChan : List ConnectionEvent
  wsTicker : Bool
  isConnecting : Bool
  lastConnectAttempt : Option ℕ
  now : ℕ
  loop : Loop
  threads : List Thread
  unverified : ℕ
  verified : ℕ
  server : Bool
  starting : ℕ
  sessions : ℕ
  deriving DecidableEq

/-- `Start`, before its call of `connect`: the ticker runs and nothing is connected. -/
def State.init : State where
  state := .disconnected
  eventChan := []
  wsTicker := true
  isConnecting := false
  lastConnectAttempt := none
  now := 0
  loop := .starting
  threads := [⟨true, .spawned⟩]
  unverified := 0
  verified := 0
  server := false
  starting := 0
  sessions := 0

/-- The last attempt is less than five seconds old. -/
def State.recent (s : State) : Bool :=
  match s.lastConnectAttempt with
  | none => false
  | some t => s.now - t < 5000

/-- A send to the channel, by a goroutine other than the loop. -/
def State.send (s : State) (event : ConnectionEvent) : State :=
  { s with eventChan := s.eventChan ++ [event] }

/-- What can happen.  `connect t` is the next step of the `connect()` `t`; `dialled` is the outcome
of a dial (of any step, it is read in a dial only), `listening` that of `StartServer`. -/
inductive Event
  | advance (ms : ℕ)
  | receive
  | tick
  | tickDialled (dialled : Bool)
  | connect (t : Thread) (dialled : Bool)
  | verify
  | verifyAgain
  | onCloseUnverified
  | onCloseVerified
  | startServer (listening : Bool)
  | acceptSession
  | handleSession
  deriving DecidableEq, Repr

section Manager

variable (wsClient : Bool)

/-- `startWebSocketConnection` up to the dial, which begins by setting the time of the attempt. -/
def startWebSocketConnection (s : State) : Except String State :=
  if s.state ≠ .disconnected then .error "already connected"
  else if wsClient = false then .error "WebSocket client not initialized"
  else if s.recent then .error "already connecting"
  else .ok { s with lastConnectAttempt := some s.now }

/-- `startSSHServer`. -/
def startSSHServer (s : State) : State :=
  if s.state = .disconnected then { s with starting := s.starting + 1 } else s

/-- The rest of the `WebSocketConnected` branch after `stopWsTicker`: `StopServer` announces the end
of a running server on the loop's own channel, which nobody empties while the loop waits.  What
others do before it sends is in `Agent/EventLoop`. -/
def stopServerAndSettle (s : State) : State :=
  if s.server then
    if s.eventChan = [] then
      { s with server := false, eventChan := [.sshDisconnect], isConnecting := false }
    else { s with server := false, eventChan := s.eventChan ++ [.sshDisconnect], loop := .blocked }
  else { s with isConnecting := false }

/-- The `Disconnected` branch: unless an attempt is under way, a `connect()` is started. -/
def reconnect (s : State) : State :=
  if s.isConnecting then s
  else { s with isConnecting := true, threads := ⟨false, .spawned⟩ :: s.threads }

/-- `handleStateChange`. -/
def handleStateChange (s : State) (newState : ConnectionState) : State :=
  if s.state = newState then s
  else
    match newState with
    | .webSocketConnected => stopServerAndSettle { s with state := newState, wsTicker := false }
    | .sshConnected => { s with state := newState, wsTicker := false, isConnecting := false }
    | .disconnected => reconnect { s with state := newState }

/-- `handleEvent`. -/
def handleEvent (s : State) : ConnectionEvent → State
  | .webSocketConnect => handleStateChange s .webSocketConnected
  | .sshConnect => handleStateChange s .sshConnected
  | .webSocketDisconnect =>
    if s.state = .webSocketConnected then handleStateChange s .disconnected else s
  | .sshDisconnect => if s.state = .sshConnected then handleStateChange s .disconnected else s

/-- The tick's branch of the loop, up to the dial. -/
def tick (s : State) : State :=
  match startWebSocketConnection wsClient s with
  | .error _ => s
  | .ok s => { s with loop := .dialing }

/-- A dial that succeeds opens a connection, on which nothing has verified yet. -/
def dial (s : State) (dialled : Bool) : State :=
  if dialled then { s with unverified := s.unverified + 1 } else s

/-- The next step of a `connect()`: the fields it changes and where it goes, `none` for the end. -/
def connectStep (s : State) (dialled : Bool) : Pc → Option (State × Option Pc)
  | .spawned =>
    some ({ s with isConnecting := true },
      some (if wsClient && s.recent then .sleeping (s.now + 5000) else .ready))
  | .sleeping wake => if wake ≤ s.now then some (s, some .ready) else none
  | .ready =>
    match startWebSocketConnection wsClient s with
    | .error _ => some (s, some .failed)
    | .ok s => some (s, some .dialing)
  | .dialing => some (dial s dialled, some (if dialled then .finishing else .failed))
  | .failed => some (s, some (if s.state = .disconnected then .fallback else .finishing))
  | .fallback => some (startSSHServer s, some .ticking)
  | .ticking => some ({ s with wsTicker := true }, some .finishing)
  | .finishing => some ({ s with isConnecting := false }, none)

/-- A `connect()` moves on, or returns — the first one into the loop. -/
def moveThread (s : State) (t : Thread) : Option Pc → State
  | some pc => { s with threads := ⟨t.main, pc⟩ :: s.threads.erase t }
  | none =>
    { s with
      threads := s.threads.erase t
      loop := if t.main then .selecting else s.loop }

/-- **One event.** -/
def step (s : State) : Event → Option State
  | .advance ms => some { s with now := s.now + ms }
  | .receive =>
    match s.loop, s.eventChan with
    | .selecting, event :: rest => some (handleEvent { s with eventChan := rest } event)
    | _, _ => none
  | .tick => if s.loop = .selecting ∧ s.wsTicker then some (tick wsClient s) else none
  | .tickDialled dialled =>
    if s.loop = .dialing then some (dial { s with loop := .selecting } dialled) else none
  | .connect t dialled =>
    if t ∈ s.threads then
      (connectStep wsClient s dialled t.pc).map fun r => moveThread r.1 t r.2
    else none
  | .verify =>
    if 0 < s.unverified then
      some ({ s with unverified := s.unverified - 1, verified := s.verified + 1 }.send
        .webSocketConnect)
    else none
  | .verifyAgain => if 0 < s.verified then some (s.send .webSocketConnect) else none
  | .onCloseUnverified =>
    if 0 < s.unverified then
      some ({ s with unverified := s.unverified - 1 }.send .webSocketDisconnect)
    else none
  | .onCloseVerified =>
    if 0 < s.verified then some ({ s with verified := s.verified - 1 }.send .webSocketDisconnect)
    else none
  | .startServer listening =>
    if 0 < s.starting then
      some { s with starting := s.starting - 1, server := s.server || listening }
    else none
  | .acceptSession => if s.server then some { s with sessions := s.sessions + 1 } else none
  | .handleSession =>
    if 0 < s.sessions then some ({ s with sessions := s.sessions - 1 }.send .sshConnect) else none

end Manager

/-! ## What keeps a disconnected manager going

A `connect()` that has only its deferred function left decides nothing any more, so it counts as in
progress for `NeverStuck` but is no reason for anything to happen: `Attended` asks for one that can
still act. -/

/-- Something will still take the manager out of `Disconnected`, or try to: the ticker, a
`connect()` that is not about to return, an open connection that can still verify, an
authentication the loop has not heard of yet. -/
def Attended (s : State) : Prop :=
  s.wsTicker = true ∨ (∃ t ∈ s.threads, t.pc ≠ .finishing) ∨ 0 < s.unverified ∨
    ConnectionEvent.webSocketConnect ∈ s.eventChan

/-- **A manager in `Disconnected` is not stuck**: a `connect()` is in progress, a connection that is
not yet authenticated is open — it is authenticated when the loop takes its `WebSocketConnect` — or
the retry ticker runs. -/
def NeverStuck (s : State) : Prop :=
  s.state = .disconnected → s.threads ≠ [] ∨ 0 < s.unverified ∨
    ConnectionEvent.webSocketConnect ∈ s.eventChan ∨ s.wsTicker = true

/-- The next event of the channel is the end of the manager's current connection. -/
def Disconnects (s : State) : Prop :=
  s.state = .webSocketConnected ∧ s.eventChan.head? = some .webSocketDisconnect ∨
    s.state = .sshConnected ∧ s.eventChan.head? = some .sshDisconnect

/-- The two steps after which nobody may be left: the end of a connection that never verified, and
the end of the current connection while an attempt is believed to be under way. -/
def Guarded (s : State) : Event → Prop
  | .onCloseUnverified =>
    s.state = .disconnected → Attended { s with unverified := s.unverified - 1 }
  | .receive => Disconnects s → s.isConnecting = true → Attended s
  | _ => True

/-- What guarded runs keep. -/
def Safe (s : State) : Prop := s.state = .disconnected → Attended s

theorem Safe.neverStuck {s : State} (hs : Safe s) : NeverStuck s := by
  intro hd
  obtain h | ⟨t, ht, -⟩ | h | h := hs hd
  · exact .inr (.inr (.inr h))
  · exact .inl (List.ne_nil_of_mem ht)
  · exact .inr (.inl h)
  · exact .inr (.inr (.inl h))

theorem safe_init : Safe State.init := fun _ => .inl rfl

theorem attended_send {s : State} {event : ConnectionEvent}
    (h : event ≠ .webSocketConnect) : Attended (s.send event) ↔ Attended s := by
  simp [Attended, State.send, h.symm]

theorem Attended.send {s : State} (hs : Attended s) (event : ConnectionEvent) :
    Attended (s.send event) := by
  obtain h | h | h | h := hs
  · exact .inl h
  · exact .inr (.inl h)
  · exact .inr (.inr (.inl h))
  · exact .inr (.inr (.inr (List.mem_append_left _ h)))

/-- Taking an event other than `WebSocketConnect` off the channel leaves nobody unattended. -/
theorem attended_tail {s : State} {event : ConnectionEvent} {rest : List ConnectionEvent}
    (hc : s.eventChan = event :: rest) (h : event ≠ .webSocketConnect) :
    Attended { s with eventChan := rest } ↔ Attended s := by
  simp [Attended, hc, h.symm]

/-! ### One step -/

section Step

variable {wsClient : Bool} {s s' : State}

theorem state_stopServerAndSettle (s : State) : (stopServerAndSettle s).state = s.state := by
  unfold stopServerAndSettle
  split_ifs <;> rfl

theorem state_reconnect (s : State) : (reconnect s).state = s.state := by
  unfold reconnect
  split_ifs <;> rfl

/-- `handleStateChange` ends in the state it is asked for. -/
theorem state_handleStateChange (s : State) (newState : ConnectionState) :
    (handleStateChange s newState).state = newState := by
  unfold handleStateChange
  split_ifs with h
  · exact h
  · rcases newState with _ | _ | _
    · exact state_reconnect _
    · exact state_stopServerAndSettle _
    · rfl

/-- A disconnect from another state is the `Disconnected` branch. -/
theorem handleStateChange_disconnected (h : s.state ≠ .disconnected) :
    handleStateChange s .disconnected = reconnect { s with state := .disconnected } := if_neg h

/-- Starting a `connect()` attends to a manager, unless one is believed to run. -/
theorem attended_reconnect (h : s.isConnecting = true → Attended s) : Attended (reconnect s) := by
  unfold reconnect
  split_ifs with hc
  · exact h hc
  · exact .inr (.inl ⟨_, List.mem_cons_self, by simp⟩)

/-- The two disconnect events: ignored in another state, else the `Disconnected` branch. -/
theorem Safe.handleDisconnect {event : ConnectionEvent} {rest : List ConnectionEvent}
    (hs : Safe s) (hc : s.eventChan = event :: rest) (he : event ≠ .webSocketConnect)
    {current : ConnectionState} (hne : current ≠ .disconnected)
    (hok : s.state = current → s.isConnecting = true → Attended s) :
    Safe (if s.state = current then handleStateChange { s with eventChan := rest } .disconnected
      else { s with eventChan := rest }) := by
  intro hd
  split_ifs at hd ⊢ with h
  · have hst : ({ s with eventChan := rest } : State).state ≠ .disconnected := h.trans_ne hne
    rw [handleStateChange_disconnected hst]
    exact attended_reconnect fun hcon => (attended_tail hc he).mpr (hok h hcon)
  · exact (attended_tail hc he).mpr (hs hd)

/-- **An event the loop takes keeps a guarded manager attended.** -/
theorem Safe.handleEvent {event : ConnectionEvent} {rest : List ConnectionEvent}
    (hs : Safe s) (hc : s.eventChan = event :: rest) (hok : Guarded s .receive) :
    Safe (handleEvent { s with eventChan := rest } event) := by
  have hhead : s.eventChan.head? = some event := by rw [hc]; rfl
  rcases event with _ | _ | _ | _
  · intro hd
    rw [ConnectionManager.handleEvent, state_handleStateChange] at hd
    cases hd
  · exact hs.handleDisconnect hc (by simp) (by simp) fun h => hok (.inl ⟨h, hhead⟩)
  · intro hd
    rw [ConnectionManager.handleEvent, state_handleStateChange] at hd
    cases hd
  · exact hs.handleDisconnect hc (by simp) (by simp) fun h => hok (.inr ⟨h, hhead⟩)

/-- **What a step of a `connect()` leads to**: its end, or a point from which it still acts, or a
state that needs nobody else. -/
theorem connectStep_cases {dialled : Bool} {pc : Pc} {r : State × Option Pc}
    (h : connectStep wsClient s dialled pc = some r) :
    (pc = .finishing ∧ r = ({ s with isConnecting := false }, none)) ∨
      ∃ pc', r.2 = some pc' ∧
        (pc' ≠ .finishing ∨ r.1.wsTicker = true ∨ 0 < r.1.unverified ∨
          r.1.state ≠ .disconnected) := by
  rcases pc with _ | wake | _ | _ | _ | _ | _ | _
  · obtain rfl := Option.some.inj h
    refine .inr ⟨_, rfl, .inl ?_⟩
    split_ifs <;> simp
  · obtain ⟨-, rfl⟩ := guard_eq_some h
    exact .inr ⟨_, rfl, .inl (by simp)⟩
  · simp only [connectStep] at h
    split at h <;> obtain rfl := Option.some.inj h <;> exact .inr ⟨_, rfl, .inl (by simp)⟩
  · obtain rfl := Option.some.inj h
    rcases dialled with _ | _
    · exact .inr ⟨_, rfl, .inl (by simp)⟩
    · exact .inr ⟨_, rfl, .inr (.inr (.inl (Nat.succ_pos _)))⟩
  · obtain rfl := Option.some.inj h
    by_cases hd : s.state = .disconnected
    · exact .inr ⟨_, rfl, .inl (by simp [hd])⟩
    · exact .inr ⟨_, rfl, .inr (.inr (.inr hd))⟩
  · obtain rfl := Option.some.inj h
    exact .inr ⟨_, rfl, .inl (by simp)⟩
  · obtain rfl := Option.some.inj h
    exact .inr ⟨_, rfl, .inr (.inl rfl)⟩
  · obtain rfl := Option.some.inj h
    exact .inl ⟨rfl, rfl⟩

/-- A `connect()` that returns was not the one that mattered. -/
theorem Attended.erase {t : Thread} (hs : Attended s) (ht : t.pc = .finishing) (loop : Loop) :
    Attended { s with isConnecting := false, threads := s.threads.erase t, loop := loop } := by
  obtain h | ⟨t', ht', hlive⟩ | h | h := hs
  · exact .inl h
  · refine .inr (.inl ⟨t', (List.mem_erase_of_ne ?_).mpr ht', hlive⟩)
    rintro rfl
    exact hlive ht
  · exact .inr (.inr (.inl h))
  · exact .inr (.inr (.inr h))

/-- **A step of a `connect()` keeps the manager attended.** -/
theorem Safe.connect {t : Thread} {dialled : Bool} {r : State × Option Pc} (hs : Safe s)
    (h : connectStep wsClient s dialled t.pc = some r) : Safe (moveThread r.1 t r.2) := by
  obtain ⟨hpc, rfl⟩ | ⟨pc', hr, hcase⟩ := connectStep_cases h
  · exact fun hd => (hs hd).erase hpc _
  · intro hd
    rw [hr] at hd ⊢
    obtain hlive | htick | hunv | hst := hcase
    · exact .inr (.inl ⟨_, List.mem_cons_self, hlive⟩)
    · exact .inl htick
    · exact .inr (.inr (.inl hunv))
    · exact absurd hd hst

/-- The loop takes the oldest event of the channel. -/
theorem receive_eq_some :
    step wsClient s .receive = some s' ↔ ∃ event rest, s.loop = .selecting ∧
      s.eventChan = event :: rest ∧
        ConnectionManager.handleEvent { s with eventChan := rest } event = s' := by
  rcases hl : s.loop with _ | _ | _ | _ <;> rcases hc : s.eventChan with _ | ⟨event, rest⟩ <;>
    simp [step, hl, hc]

/-- A tick leaves the ticker running. -/
theorem wsTicker_tick (s : State) : (tick wsClient s).wsTicker = s.wsTicker := by
  unfold tick startWebSocketConnection
  split_ifs <;> rfl

/-- The outcome of the dial of a tick. -/
theorem Safe.dial (hs : Safe s) (loop : Loop) (dialled : Bool) :
    Safe (dial { s with loop := loop } dialled) := by
  rcases dialled with _ | _
  · exact hs
  · exact fun _ => .inr (.inr (.inl (Nat.succ_pos _)))

/-- **Every guarded step keeps the manager attended.** -/
theorem Safe.step {e : Event} (hs : Safe s) (hok : Guarded s e)
    (h : step wsClient s e = some s') : Safe s' := by
  rcases e with ms | _ | _ | dialled | ⟨t, dialled⟩ | _ | _ | _ | _ | listening | _ | _
  case receive =>
    obtain ⟨event, rest, -, hc, rfl⟩ := receive_eq_some.mp h
    exact hs.handleEvent hc hok
  all_goals
    simp only [ConnectionManager.step, Option.ite_none_right_eq_some, Option.some.injEq] at h
  · obtain rfl := h
    exact hs
  · obtain ⟨⟨-, htick⟩, rfl⟩ := h
    refine fun _ => .inl ?_
    rw [wsTicker_tick]
    exact htick
  · obtain ⟨-, rfl⟩ := h
    exact hs.dial _ dialled
  · obtain ⟨-, h⟩ := h
    obtain ⟨r, hr, rfl⟩ := Option.map_eq_some_iff.mp h
    exact hs.connect hr
  · obtain ⟨-, rfl⟩ := h
    exact fun _ => .inr (.inr (.inr (List.mem_append_right _ List.mem_cons_self)))
  · obtain ⟨-, rfl⟩ := h
    exact fun hd => (hs hd).send _
  · obtain ⟨-, rfl⟩ := h
    exact fun hd => (hok hd).send _
  · obtain ⟨-, rfl⟩ := h
    exact fun hd => (hs hd).send _
  · obtain ⟨-, rfl⟩ := h
    exact hs
  · obtain ⟨-, rfl⟩ := h
    exact hs
  · obtain ⟨-, rfl⟩ := h
    exact fun hd => (hs hd).send _

/-! ### …and the condition is the weakest -/

/-- An unattended manager gets stuck as soon as the last `connect()` has returned. -/
theorem exists_stuck (hd : s.state = .disconnected) (hun : ¬ Attended s) :
    ∃ es t, run (ConnectionManager.step wsClient) s es = some t ∧ ¬ NeverStuck t := by
  obtain ⟨htick, hlive, hunv, hchan⟩ : s.wsTicker ≠ true ∧
      (¬ ∃ t ∈ s.threads, t.pc ≠ .finishing) ∧ ¬ 0 < s.unverified ∧
      ConnectionEvent.webSocketConnect ∉ s.eventChan := by
    simpa only [Attended, not_or] using hun
  induction hts : s.threads generalizing s with
  | nil =>
    refine ⟨[], s, rfl, fun hns => ?_⟩
    obtain h | h | h | h := hns hd
    · exact h hts
    · exact hunv h
    · exact hchan h
    · exact htick h
  | cons t ts ih =>
    -- the head has only its deferred function left: let it return
    have hpc : t.pc = .finishing := by
      by_contra hne
      exact hlive ⟨t, hts ▸ List.mem_cons_self, hne⟩
    let s₁ : State := { s with
      isConnecting := false
      threads := ts
      loop := if t.main then .selecting else s.loop }
    have hstep : ConnectionManager.step wsClient s (.connect t true) = some s₁ := by
      simp [ConnectionManager.step, hts, hpc, connectStep, moveThread, s₁]
    have hlive₁ : ¬ ∃ t ∈ s₁.threads, t.pc ≠ .finishing := fun ⟨t', ht', hne⟩ =>
      hlive ⟨t', hts ▸ List.mem_cons_of_mem t ht', hne⟩
    have hun₁ : ¬ Attended s₁ := by
      rintro (h | h | h | h)
      exacts [htick h, hlive₁ h, hunv h, hchan h]
    obtain ⟨es, u, hrun, hstuck⟩ := ih (s := s₁) hd hun₁ htick hlive₁ hunv hchan rfl
    exact ⟨.connect t true :: es, u, run_cons_eq_some.mpr ⟨s₁, hstep, hrun⟩, hstuck⟩

/-- A step that is not guarded leaves the manager in `Disconnected` with nobody to attend to it. -/
theorem unattended_of_not_guarded {e : Event} (hbad : ¬ Guarded s e)
    (h : ConnectionManager.step wsClient s e = some s') :
    s'.state = .disconnected ∧ ¬ Attended s' := by
  rcases e with ms | _ | _ | dialled | ⟨t, dialled⟩ | _ | _ | _ | _ | listening | _ | _ <;>
    try exact absurd trivial hbad
  · obtain ⟨hdis, hcon, hun⟩ : Disconnects s ∧ s.isConnecting = true ∧ ¬ Attended s := by
      simpa [Guarded] using hbad
    obtain ⟨event, rest, -, hc, rfl⟩ := receive_eq_some.mp h
    have hev : event ≠ .webSocketConnect ∧
        handleEvent { s with eventChan := rest } event =
          { s with state := .disconnected, eventChan := rest } := by
      obtain ⟨hst, hhead⟩ | ⟨hst, hhead⟩ := hdis <;>
        obtain rfl : event = _ := by simpa [hc] using hhead
      all_goals simp [handleEvent, handleStateChange, hst, reconnect, hcon]
    rw [hev.2]
    exact ⟨rfl, fun hatt => hun ((attended_tail hc hev.1).mp hatt)⟩
  · obtain ⟨hd, hun⟩ : s.state = .disconnected ∧
        ¬ Attended { s with unverified := s.unverified - 1 } := by
      simpa [Guarded] using hbad
    obtain ⟨-, rfl⟩ := guard_eq_some h
    exact ⟨hd, fun hatt => hun ((attended_send (by simp)).mp hatt)⟩

/-- **In every guarded run a disconnected manager has a `connect()` in progress, an open connection
that is not yet authenticated, or a running ticker; and after the first step that is not guarded it
can lose all three.** -/
theorem neverStuck_of_guarded {es : List Event}
    (hok : Along (ConnectionManager.step wsClient) Guarded State.init es)
    (hrun : run (ConnectionManager.step wsClient) State.init es = some s) :
    NeverStuck s ∧
      ∀ e s', ¬ Guarded s e → ConnectionManager.step wsClient s e = some s' →
        ∃ es' t, run (ConnectionManager.step wsClient) s' es' = some t ∧ ¬ NeverStuck t := by
  have hs : Safe s := inv_of_along (fun hs hok h => hs.step hok h) safe_init hok hrun
  refine ⟨hs.neverStuck, fun e s' hbad h => ?_⟩
  obtain ⟨hd, hun⟩ := unattended_of_not_guarded hbad h
  exact exists_stuck hd hun

end Step

/-! ### Two runs -/

instance (s : State) : Decidable (Attended s) := inferInstanceAs (Decidable (_ ∨ _))

instance (s : State) : Decidable (Disconnects s) := inferInstanceAs (Decidable (_ ∨ _))

instance (s : State) : Decidable (NeverStuck s) := inferInstanceAs (Decidable (_ → _))

instance (s : State) : ∀ e : Event, Decidable (Guarded s e)
  | .onCloseUnverified => inferInstanceAs (Decidable (_ → _))
  | .receive => inferInstanceAs (Decidable (_ → _))
  | .advance _ | .tick | .tickDialled _ | .connect _ _ | .verify | .verifyAgain
  | .onCloseVerified | .startServer _ | .acceptSession | .handleSession => .isTrue trivial

/-- The agent connects, is authenticated, loses the connection and, six seconds later, dials again
with success. -/
def redial : List Event :=
  [.connect ⟨true, .spawned⟩ true, .connect ⟨true, .ready⟩ true, .connect ⟨true, .dialing⟩ true,
    .connect ⟨true, .finishing⟩ true, .verify, .receive, .onCloseVerified, .receive, .advance 6000,
    .connect ⟨false, .spawned⟩ true, .connect ⟨false, .ready⟩ true, .connect ⟨false, .dialing⟩ true,
    .connect ⟨false, .finishing⟩ true]

/-- After the second dial the manager waits for the new connection's challenge. -/
theorem neverStuck_redial :
    ∃ s, run (step true) State.init redial = some s ∧ s.state = .disconnected ∧ NeverStuck s := by
  have hok : Along (step true) Guarded State.init redial := by decide
  exact ⟨_, rfl, rfl, (neverStuck_of_guarded hok rfl).1⟩

/-- **If that connection closes before its challenge the agent stays disconnected**: the ticker was
stopped by the first authentication, and the disconnect event is ignored. -/
theorem neverStuck_fails_on_unverified_close :
    ∃ s, run (step true) State.init (redial ++ [.onCloseUnverified, .receive]) = some s ∧
      ¬ NeverStuck s := by
  refine ⟨_, rfl, ?_⟩
  decide

end ConnectionManager

end Beszel
