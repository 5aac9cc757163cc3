import Beszel.Hub.Response
import Beszel.Machinery.Run
import Beszel.Machinery.Table

/-!
# Hub/RequestManager — requests to an agent and the routing of its messages

    SendRequest ──▸ pendingReqs ──handleResponse──▸ ResponseCh ──▸ caller
                        ╰──timeout, cancel, Close──▸ dropped

`internal/hub/ws/request_manager.go`.  Every `SendRequest` is a call of its own and leaves a watcher
behind, messages are handled one after the other, contexts end at any time: a step of the model is
what one of them does between two points where another can intervene.  The handler of a message
looks a request up under the lock, then sends to its channel or sees its context done, and then
removes it — three steps.

What the lookup saw is kept with the delivery, since the request it found may be gone from
`pendingReqs` when the message is sent to it.
-/

namespace Beszel

namespace RequestManager

open Machinery Response
open Machinery.Wire (Item)

/-! ## The manager -/

/-- `RequestID`. -/
abbrev RequestID := BitVec 32

/-- `PendingRequest`, with the fields that do not change; `serial` stands for its address. -/
structure PendingRequest where
  serial : ℕ
  id : RequestID
  createdAt : ℕ
  deriving DecidableEq, Repr

/-- The entries of `pendingReqs`. -/
abbrev Pending := List (RequestID × PendingRequest)

/-- Where a `SendRequest` is: before it registers its request, before the result of
`sendMessage`, before `cancelRequest` after an error, or returned, with the watcher waiting for the
context. -/
inductive Phase
  | created
  | registered
  | failed
  | watching
  deriving DecidableEq, Repr

/-- A message for a request, and the entries of `pendingReqs` that the lookup saw. -/
structure Delivery where
  message : Item
  request : PendingRequest
  pending : Pending

/-- The handler of a message: none at work, before the `select`, or before `deleteRequest`. -/
inductive Handler
  | idle
  | found (d : Delivery)
  | sent (request : PendingRequest)

/-- The manager: `requests` are all requests ever created, `calls` the running `SendRequest`s and
watchers, `done` the requests whose context is done, `responseCh` the full channels, `log` the
messages sent to channels, newest first. -/
structure State where
  nextID : RequestID
  requests : List PendingRequest
  calls : List (PendingRequest × Phase)
  pendingReqs : Pending
  done : List PendingRequest
  responseCh : List (PendingRequest × Item)
  handler : Handler
  log : List Delivery

/-- `NewRequestManager`. -/
def State.init : State where
  nextID := 0
  requests := []
  calls := []
  pendingReqs := []
  done := []
  responseCh := []
  handler := .idle
  log := []

/-- The id of a message: none if it is no response, or a response without one. -/
def requestID (message : Item) : Option RequestID :=
  (AgentResponse.unmarshal message).bind AgentResponse.id

/-- The loop of `routeLegacyResponse` over the entries in some order. -/
def oldestReq (entries : Pending) : Option PendingRequest :=
  entries.foldl (fun oldest e => match oldest with
    | none => some e.2
    | some o => if e.2.createdAt < o.createdAt then some e.2 else some o) none

/-- The loop keeps the oldest request so far: one of those it has seen, and no later than any. -/
theorem foldl_oldest {entries : Pending} {acc : Option PendingRequest} {r : PendingRequest}
    (h : entries.foldl (fun oldest e => match oldest with
      | none => some e.2
      | some o => if e.2.createdAt < o.createdAt then some e.2 else some o) acc = some r) :
    (acc = some r ∨ ∃ k, (k, r) ∈ entries) ∧ (∀ o ∈ acc, r.createdAt ≤ o.createdAt) ∧
      ∀ e ∈ entries, r.createdAt ≤ e.2.createdAt := by
  induction entries generalizing acc with
  | nil =>
    obtain rfl : acc = some r := h
    exact ⟨.inl rfl, by simp, by simp⟩
  | cons e entries ih =>
    obtain ⟨k, q⟩ := e
    rw [List.foldl_cons] at h
    obtain ⟨hmem, hacc, hle⟩ := ih h
    simp only [List.mem_cons, forall_eq_or_imp, Prod.mk.injEq]
    cases acc with
    | none =>
      obtain rfl | ⟨k', hk'⟩ := hmem.imp_left Option.some.inj
      · exact ⟨.inr ⟨k, .inl ⟨rfl, rfl⟩⟩, by simp, le_rfl, hle⟩
      · exact ⟨.inr ⟨k', .inr hk'⟩, by simp, hacc q rfl, hle⟩
    | some o =>
      by_cases hlt : q.createdAt < o.createdAt
      · simp only [if_pos hlt, Option.mem_some_iff, forall_eq', Option.some.injEq] at hmem hacc ⊢
        obtain rfl | ⟨k', hk'⟩ := hmem
        · exact ⟨.inr ⟨k, .inl ⟨rfl, rfl⟩⟩, hlt.le, le_rfl, hle⟩
        · exact ⟨.inr ⟨k', .inr hk'⟩, by omega, hacc, hle⟩
      · simp only [if_neg hlt, Option.mem_some_iff, forall_eq', Option.some.injEq] at hmem hacc ⊢
        refine ⟨hmem.imp_right fun ⟨k', hk'⟩ => ⟨k', .inr hk'⟩, hacc, by omega, hle⟩

/-- **The oldest request** of some entries, in whatever order they come. -/
theorem oldestReq_eq_some {entries : Pending} {r : PendingRequest}
    (h : oldestReq entries = some r) :
    (∃ k, (k, r) ∈ entries) ∧ ∀ e ∈ entries, ¬ e.2.createdAt < r.createdAt := by
  obtain ⟨hmem, -, hle⟩ := foldl_oldest h
  exact ⟨hmem.resolve_left (by simp), fun e he => not_lt.mpr (hle e he)⟩

namespace State

/-- `cancelRequest`. -/
def cancelRequest (s : State) (reqID : RequestID) : State :=
  match Table.lookup Prod.fst s.pendingReqs reqID with
  | none => s
  | some e =>
    { s with done := e.2 :: s.done, pendingReqs := Table.remove Prod.fst s.pendingReqs reqID }

/-- `deleteRequest`. -/
def deleteRequest (s : State) (reqID : RequestID) : State :=
  { s with pendingReqs := Table.remove Prod.fst s.pendingReqs reqID }

/-- The lookup of `handleResponse` and `routeLegacyResponse`; `order` is the order in which Go
iterates over the map. -/
def lookup (s : State) (message : Item) (order : Pending) : Option PendingRequest :=
  match requestID message with
  | some reqID => (Table.lookup Prod.fst s.pendingReqs reqID).map Prod.snd
  | none => oldestReq order

end State

/-! ## Steps -/

/-- What can happen. -/
inductive Event
  | newRequest (now : ℕ)
  | register (r : PendingRequest)
  | send (r : PendingRequest) (ok : Bool)
  | cancel (r : PendingRequest)
  | contextDone (r : PendingRequest)
  | cleanup (r : PendingRequest)
  | receive (r : PendingRequest)
  | message (message : Item) (order : Pending)
  | select (deliver : Bool)
  | delete
  | close

/-- One step. -/
def step (s : State) : Event → Option State
  -- `nextID.Add(1)` and the fields of the request
  | .newRequest now =>
    let r : PendingRequest := ⟨s.requests.length, s.nextID + 1, now⟩
    some { s with nextID := r.id, requests := s.requests ++ [r], calls := (r, .created) :: s.calls }
  | .register r =>
    if (r, .created) ∈ s.calls then
      some { s with
        calls := Table.store Prod.fst s.calls (r, .registered)
        pendingReqs := Table.store Prod.fst s.pendingReqs (r.id, r) }
    else none
  | .send r ok =>
    if (r, .registered) ∈ s.calls then
      some { s with calls := Table.store Prod.fst s.calls (r, if ok then .watching else .failed) }
    else none
  | .cancel r =>
    if (r, .failed) ∈ s.calls then
      some { s.cancelRequest r.id with calls := Table.remove Prod.fst s.calls r }
    else none
  -- a timeout, the context of the caller, or `pendingReq.Cancel` after the response
  | .contextDone r => if r ∈ s.requests then some { s with done := r :: s.done } else none
  | .cleanup r =>
    if (r, .watching) ∈ s.calls ∧ r ∈ s.done then
      some { s.cancelRequest r.id with calls := Table.remove Prod.fst s.calls r }
    else none
  | .receive r => some { s with responseCh := Table.remove Prod.fst s.responseCh r }
  | .message message order =>
    match s.handler with
    | .idle =>
      if order.Perm s.pendingReqs then
        match s.lookup message order with
        -- `message.Close()`
        | none => some s
        | some r => some { s with handler := .found ⟨message, r, s.pendingReqs⟩ }
      else none
    | _ => none
  | .select deliver =>
    match s.handler with
    | .found d =>
      if deliver then
        -- the channel has one place
        if Table.lookup Prod.fst s.responseCh d.request = none then
          some { s with
            responseCh := (d.request, d.message) :: s.responseCh
            handler := .sent d.request
            log := d :: s.log }
        else none
      else if d.request ∈ s.done then some { s with handler := .idle }
      else none
    | _ => none
  | .delete =>
    match s.handler with
    | .sent r => some { s.deleteRequest r.id with handler := .idle }
    | _ => none
  | .close => some { s with done := s.pendingReqs.map Prod.snd ++ s.done, pendingReqs := [] }

/-! ## What holds in every state -/

/-- **The delivery is the right one**: a message with an id goes to the request of that id, one
without to a request that the lookup saw pending and that none it saw precedes. -/
structure Delivery.Right (d : Delivery) : Prop where
  by_id : ∀ k, requestID d.message = some k → d.request.id = k
  oldest : requestID d.message = none →
    (∃ k, (k, d.request) ∈ d.pending) ∧ ∀ e ∈ d.pending, ¬ e.2.createdAt < d.request.createdAt

/-- The requests that got a message. -/
def State.delivered (s : State) : List PendingRequest := s.log.map Delivery.request

/-- **The invariant** of the manager. -/
structure State.Inv (s : State) : Prop where
  nextID : s.nextID = BitVec.ofNat 32 s.requests.length
  requests : ∀ r ∈ s.requests,
    r.id = BitVec.ofNat 32 (r.serial + 1) ∧ s.requests[r.serial]? = some r
  created : ∀ r, (r, .created) ∈ s.calls → r ∈ s.requests ∧ r ∉ s.delivered
  pending : ∀ e ∈ s.pendingReqs, e.2 ∈ s.requests ∧ e.2.id = e.1 ∧ (e.2, .created) ∉ s.calls
  fresh : ∀ e ∈ s.pendingReqs, e.2 ∈ s.delivered → s.handler = .sent e.2
  chan : ∀ c ∈ s.responseCh, c.1 ∈ s.delivered
  found : ∀ d, s.handler = .found d →
    d.Right ∧ d.request ∈ s.requests ∧ (d.request, .created) ∉ s.calls ∧ d.request ∉ s.delivered
  log : ∀ d ∈ s.log, d.Right ∧ d.request ∈ s.requests
  once : s.delivered.Nodup

theorem inv_init : State.init.Inv where
  nextID := rfl
  requests := by simp [State.init]
  created := by simp [State.init]
  pending := by simp [State.init]
  fresh := by simp [State.init]
  chan := by simp [State.init]
  found := by simp [State.init]
  log := by simp [State.init]
  once := List.nodup_nil

/-! ## One step -/

variable {s s' : State} {r : PendingRequest}

/-- **Steps that only take things away** keep the invariant: requests from `pendingReqs`, messages
from channels, calls that were still to register. -/
theorem State.Inv.shrink (h : s.Inv) (hid : s'.nextID = s.nextID)
    (hreq : s'.requests = s.requests)
    (hcalls : ∀ r, (r, Phase.created) ∈ s'.calls → (r, Phase.created) ∈ s.calls)
    (hpend : ∀ e ∈ s'.pendingReqs, e ∈ s.pendingReqs)
    (hch : ∀ c ∈ s'.responseCh, c ∈ s.responseCh) (hh : s'.handler = s.handler)
    (hlog : s'.log = s.log) : s'.Inv where
  nextID := by rw [hid, hreq, h.nextID]
  requests := by rw [hreq]; exact h.requests
  created r hr := by
    rw [hreq, State.delivered, hlog]
    exact h.created r (hcalls r hr)
  pending e he := by
    obtain ⟨hmem, hid, hc⟩ := h.pending e (hpend e he)
    rw [hreq]
    exact ⟨hmem, hid, fun hc' => hc (hcalls _ hc')⟩
  fresh e he hd := by
    rw [State.delivered, hlog] at hd
    rw [hh]
    exact h.fresh e (hpend e he) hd
  chan c hc := by
    rw [State.delivered, hlog]
    exact h.chan c (hch c hc)
  found d hd := by
    rw [hh] at hd
    obtain ⟨hright, hmem, hc, hdel⟩ := h.found d hd
    rw [hreq, State.delivered, hlog]
    exact ⟨hright, hmem, fun hc' => hc (hcalls _ hc'), hdel⟩
  log := by rw [hlog, hreq]; exact h.log
  once := by rw [State.delivered, hlog]; exact h.once

theorem mem_requests_of_delivered (h : s.Inv) (hr : r ∈ s.delivered) : r ∈ s.requests := by
  obtain ⟨d, hd, rfl⟩ := List.mem_map.mp hr
  exact (h.log d hd).2

theorem inv_newRequest {now : ℕ} (h : s.Inv) (hstep : step s (.newRequest now) = some s') :
    s'.Inv := by
  obtain rfl := Option.some.inj hstep
  -- the new request is none of the old ones
  have hnew : ∀ r ∈ s.requests, r ≠ ⟨s.requests.length, s.nextID + 1, now⟩ := by
    rintro r hr rfl
    simpa using (h.requests _ hr).2
  have hcalls : ∀ r ∈ s.requests, (r, Phase.created) ∉ s.calls →
      (r, Phase.created) ∉ (⟨s.requests.length, s.nextID + 1, now⟩, Phase.created) :: s.calls := by
    intro r hr hc
    simp only [List.mem_cons, Prod.mk.injEq, and_true, not_or]
    exact ⟨hnew r hr, hc⟩
  constructor
  · simp [h.nextID, BitVec.ofNat_add]
  · intro r hr
    obtain hr | rfl := List.mem_append.mp hr |>.imp_right List.mem_singleton.mp
    · obtain ⟨hid, hget⟩ := h.requests r hr
      exact ⟨hid, List.getElem?_append_left (List.getElem?_eq_some_iff.mp hget).1 ▸ hget⟩
    · simp [h.nextID, BitVec.ofNat_add]
  · intro r hr
    obtain hr | hr := List.mem_cons.mp hr
    · obtain rfl := congrArg Prod.fst hr
      refine ⟨by simp, fun hd => ?_⟩
      exact hnew _ (mem_requests_of_delivered h hd) rfl
    · obtain ⟨hmem, hd⟩ := h.created r hr
      exact ⟨List.mem_append_left _ hmem, hd⟩
  · intro e he
    obtain ⟨hmem, hid, hc⟩ := h.pending e he
    exact ⟨List.mem_append_left _ hmem, hid, hcalls _ hmem hc⟩
  · exact h.fresh
  · exact h.chan
  · intro d hd
    obtain ⟨hright, hmem, hc, hdel⟩ := h.found d hd
    exact ⟨hright, List.mem_append_left _ hmem, hcalls _ hmem hc, hdel⟩
  · intro d hd
    obtain ⟨hright, hmem⟩ := h.log d hd
    exact ⟨hright, List.mem_append_left _ hmem⟩
  · exact h.once

theorem inv_register (h : s.Inv) (hstep : step s (.register r) = some s') : s'.Inv := by
  simp only [step] at hstep
  split_ifs at hstep with hr
  obtain rfl := Option.some.inj hstep
  obtain ⟨hmem, hdel⟩ := h.created r hr
  have hcalls : ∀ q, (q, Phase.created) ∈ Table.store Prod.fst s.calls (r, Phase.registered) →
      (q, Phase.created) ∈ s.calls := by
    intro q hq
    obtain hq | ⟨hq, -⟩ := Table.mem_store.mp hq
    · cases hq
    · exact hq
  have hpend : ∀ e ∈ Table.store Prod.fst s.pendingReqs (r.id, r),
      e = (r.id, r) ∨ e ∈ s.pendingReqs := fun e he => (Table.mem_store.mp he).imp_right And.left
  refine ⟨h.nextID, h.requests, fun q hq => h.created q (hcalls q hq), fun e he => ?_,
    fun e he hd => ?_, h.chan, fun d hd => ?_, h.log, h.once⟩
  · obtain rfl | he := hpend e he
    · refine ⟨hmem, rfl, fun hc => ?_⟩
      -- the call of this request has gone on
      obtain hc | ⟨-, hne⟩ := Table.mem_store.mp hc
      · cases hc
      · exact hne rfl
    · obtain ⟨hmem, hid, hc⟩ := h.pending e he
      exact ⟨hmem, hid, fun hc' => hc (hcalls _ hc')⟩
  · obtain rfl | he := hpend e he
    · exact absurd hd hdel
    · exact h.fresh e he hd
  · obtain ⟨hright, hmem, hc, hdel⟩ := h.found d hd
    exact ⟨hright, hmem, fun hc' => hc (hcalls _ hc'), hdel⟩

/-- What a lookup finds is pending, and the right request for the message. -/
theorem lookup_eq_some (h : s.Inv) {message : Item} {order : Pending}
    (hperm : order.Perm s.pendingReqs) (hr : s.lookup message order = some r) :
    (∃ k, (k, r) ∈ s.pendingReqs) ∧ (Delivery.mk message r s.pendingReqs).Right := by
  unfold State.lookup at hr
  cases hid : requestID message with
  | some k =>
    simp only [hid, Option.map_eq_some_iff] at hr
    obtain ⟨e, he, rfl⟩ := hr
    have hmem := Table.mem_of_lookup he
    have hkey := Table.key_of_lookup he
    refine ⟨⟨e.1, hmem⟩, fun k' hk' => ?_, fun hn => ?_⟩
    · obtain rfl : k = k' := Option.some.inj (hid.symm.trans hk')
      exact (h.pending e hmem).2.1.trans hkey
    · cases hid.symm.trans hn
  | none =>
    simp only [hid] at hr
    obtain ⟨⟨k, hk⟩, hmin⟩ := oldestReq_eq_some hr
    refine ⟨⟨k, hperm.subset hk⟩, fun k' hk' => ?_, fun _ => ⟨⟨k, hperm.subset hk⟩, ?_⟩⟩
    · cases hid.symm.trans hk'
    · exact fun e he => hmin e (hperm.symm.subset he)

theorem inv_message (h : s.Inv) {message : Item} {order : Pending}
    (hstep : step s (.message message order) = some s') : s'.Inv := by
  simp only [step] at hstep
  cases hh : s.handler with
  | idle =>
    rw [hh] at hstep
    dsimp only at hstep
    split_ifs at hstep with hperm
    cases hl : s.lookup message order with
    | none =>
      rw [hl] at hstep
      obtain rfl := Option.some.inj hstep
      exact h
    | some r =>
      rw [hl] at hstep
      obtain rfl := Option.some.inj hstep
      obtain ⟨⟨k, hk⟩, hright⟩ := lookup_eq_some h hperm hl
      obtain ⟨hmem, -, hc⟩ := h.pending _ hk
      -- no delivery is in progress, so what is pending has not got a message
      have hidle : ∀ e ∈ s.pendingReqs, e.2 ∉ s.delivered := fun e he hd => by
        have := h.fresh e he hd
        rw [hh] at this
        cases this
      refine ⟨h.nextID, h.requests, h.created, h.pending, fun e he hd => absurd hd (hidle e he),
        h.chan, fun d hd => ?_, h.log, h.once⟩
      obtain rfl := Handler.found.inj hd
      exact ⟨hright, hmem, hc, hidle _ hk⟩
  | found d | sent r => simp [hh] at hstep

theorem inv_select (h : s.Inv) {deliver : Bool} (hstep : step s (.select deliver) = some s') :
    s'.Inv := by
  simp only [step] at hstep
  cases hh : s.handler with
  | found d =>
    obtain ⟨hright, hmem, hc, hdel⟩ := h.found d hh
    have hfresh : ∀ e ∈ s.pendingReqs, e.2 ∉ s.delivered := fun e he hd => by
      have := h.fresh e he hd
      rw [hh] at this
      cases this
    rw [hh] at hstep
    dsimp only at hstep
    split_ifs at hstep with hdeliver hch hdone
    · obtain rfl := Option.some.inj hstep
      refine ⟨h.nextID, h.requests, fun q hq => ?_, h.pending, fun e he hd => ?_, fun c hc => ?_,
        fun d hd => ?_, fun d' hd' => ?_, ?_⟩
      · obtain ⟨hq', hd⟩ := h.created q hq
        refine ⟨hq', fun hd' => ?_⟩
        obtain rfl | hd' := List.mem_cons.mp hd'
        · exact hc hq
        · exact hd hd'
      · obtain hd | hd := List.mem_cons.mp hd
        · exact congrArg Handler.sent hd.symm
        · exact absurd hd (hfresh e he)
      · obtain rfl | hc := List.mem_cons.mp hc
        · exact List.mem_cons_self
        · exact List.mem_cons_of_mem _ (h.chan c hc)
      · cases hd
      · obtain rfl | hd' := List.mem_cons.mp hd'
        · exact ⟨hright, hmem⟩
        · exact h.log d' hd'
      · exact List.nodup_cons.mpr ⟨hdel, h.once⟩
    · obtain rfl := Option.some.inj hstep
      exact ⟨h.nextID, h.requests, h.created, h.pending, fun e he hd => absurd hd (hfresh e he),
        h.chan, fun d hd => absurd hd (by simp), h.log, h.once⟩
  | idle | sent r => simp [hh] at hstep

theorem inv_delete (h : s.Inv) (hstep : step s .delete = some s') : s'.Inv := by
  simp only [step] at hstep
  cases hh : s.handler with
  | sent r =>
    rw [hh] at hstep
    obtain rfl := Option.some.inj hstep
    refine ⟨h.nextID, h.requests, h.created, fun e he => h.pending e (Table.mem_remove.mp he).1,
      fun e he hd => ?_, h.chan, fun d hd => absurd hd (by simp), h.log, h.once⟩
    -- only the request just removed had got a message
    obtain ⟨hmem, hne⟩ := Table.mem_remove.mp he
    have hsent := h.fresh e hmem hd
    rw [hh] at hsent
    exact absurd ((h.pending e hmem).2.1.symm.trans (congrArg _ (Handler.sent.inj hsent).symm)) hne
  | idle | found d => simp [hh] at hstep

theorem mem_cancelRequest {reqID : RequestID} :
    ∀ e ∈ (s.cancelRequest reqID).pendingReqs, e ∈ s.pendingReqs := by
  unfold State.cancelRequest
  split
  · exact fun e he => he
  · exact fun e he => (Table.mem_remove.mp he).1

/-- The rest of the state after `cancelRequest`. -/
theorem cancelRequest_eq (s : State) (reqID : RequestID) :
    (s.cancelRequest reqID).nextID = s.nextID ∧ (s.cancelRequest reqID).requests = s.requests ∧
      (s.cancelRequest reqID).responseCh = s.responseCh ∧
      (s.cancelRequest reqID).handler = s.handler ∧ (s.cancelRequest reqID).log = s.log := by
  unfold State.cancelRequest
  split <;> exact ⟨rfl, rfl, rfl, rfl, rfl⟩

theorem inv_cancelRequest (h : s.Inv) (reqID : RequestID) (r : PendingRequest) :
    State.Inv { s.cancelRequest reqID with calls := Table.remove Prod.fst s.calls r } := by
  obtain ⟨hid, hreq, hch, hh, hlog⟩ := cancelRequest_eq s reqID
  exact h.shrink hid hreq (fun q hq => (Table.mem_remove.mp hq).1) mem_cancelRequest
    (fun c hc => hch ▸ hc) hh hlog

/-- **Every step keeps the invariant.** -/
theorem inv_step {e : Event} (h : s.Inv) (hstep : step s e = some s') : s'.Inv := by
  cases e with
  | newRequest now => exact inv_newRequest h hstep
  | register r => exact inv_register h hstep
  | send r ok =>
    simp only [step] at hstep
    split_ifs at hstep
    all_goals
      obtain rfl := Option.some.inj hstep
      refine h.shrink rfl rfl (fun q hq => ?_) (fun e he => he) (fun c hc => hc) rfl rfl
      obtain hq | ⟨hq, -⟩ := Table.mem_store.mp hq
      · cases hq
      · exact hq
  | cancel r =>
    simp only [step] at hstep
    split_ifs at hstep
    obtain rfl := Option.some.inj hstep
    exact inv_cancelRequest h r.id r
  | contextDone r =>
    simp only [step] at hstep
    split_ifs at hstep
    obtain rfl := Option.some.inj hstep
    exact h.shrink rfl rfl (fun _ hq => hq) (fun _ he => he) (fun _ hc => hc) rfl rfl
  | cleanup r =>
    simp only [step] at hstep
    split_ifs at hstep
    obtain rfl := Option.some.inj hstep
    exact inv_cancelRequest h r.id r
  | receive r =>
    obtain rfl := Option.some.inj hstep
    exact h.shrink rfl rfl (fun _ hq => hq) (fun _ he => he)
      (fun _ hc => (Table.mem_remove.mp hc).1) rfl rfl
  | message message order => exact inv_message h hstep
  | select deliver => exact inv_select h hstep
  | delete => exact inv_delete h hstep
  | close =>
    obtain rfl := Option.some.inj hstep
    exact h.shrink rfl rfl (fun _ hq => hq) (fun _ he => absurd he List.not_mem_nil)
      (fun _ hc => hc) rfl rfl

/-! ## Every run -/

/-- **Messages are routed correctly**: the entries of `pendingReqs` are under their ids; while no
delivery is in progress their channels are empty, and the channel a delivery is about to send to is;
an id is that of one request; every delivery is the right one, and no request gets two. -/
structure State.Routed (s : State) : Prop where
  key_id : ∀ e ∈ s.pendingReqs, e.2.id = e.1
  empty : s.handler = .idle → ∀ e ∈ s.pendingReqs, Table.lookup Prod.fst s.responseCh e.2 = none
  room : ∀ d, s.handler = .found d → Table.lookup Prod.fst s.responseCh d.request = none
  unique : ∀ r ∈ s.requests, ∀ r' ∈ s.requests, r.id = r'.id → r = r'
  right : ∀ d ∈ s.log, d.Right
  once : s.delivered.Nodup

/-- A request without a message has an empty channel. -/
theorem lookup_responseCh (h : s.Inv) (hr : r ∉ s.delivered) :
    Table.lookup Prod.fst s.responseCh r = none := by
  cases hl : Table.lookup Prod.fst s.responseCh r with
  | none => rfl
  | some c =>
    have hc := h.chan c (Table.mem_of_lookup hl)
    rw [Table.key_of_lookup hl] at hc
    exact absurd hc hr

theorem routed_of_inv (h : s.Inv) (hn : s.requests.length < 2 ^ 32) : s.Routed where
  key_id e he := (h.pending e he).2.1
  empty hh e he := by
    refine lookup_responseCh h fun hd => ?_
    have := h.fresh e he hd
    rw [hh] at this
    cases this
  room d hd := lookup_responseCh h (h.found d hd).2.2.2
  unique r hr r' hr' hid := by
    obtain ⟨hr, hget⟩ := h.requests r hr
    obtain ⟨hr', hget'⟩ := h.requests r' hr'
    have hlt := (List.getElem?_eq_some_iff.mp hget).1
    have hlt' := (List.getElem?_eq_some_iff.mp hget').1
    have hserial : r.serial = r'.serial := by
      have := congrArg BitVec.toNat (hr.symm.trans (hid.trans hr'))
      simp only [BitVec.toNat_ofNat] at this
      omega
    rw [hserial] at hget
    exact Option.some.inj (hget.symm.trans hget')
  right d hd := (h.log d hd).1
  once := h.once

/-- **In every run** — any order of requests, messages, timeouts, cancellations and `Close`, with
fewer than 2³² requests — messages are routed correctly. -/
theorem routed_of_run {es : List Event} (hr : run step State.init es = some s)
    (hn : s.requests.length < 2 ^ 32) : s.Routed :=
  routed_of_inv (inv_of_run (fun h hs => inv_step h hs) inv_init hr) hn

/-- The first request. -/
def firstRequest : PendingRequest := ⟨0, 1, 0⟩

/-- A sample without a response around it, as agents older than 0.13 send it. -/
def bareSample : Item := Entities.combinedData.enc Encoding.cborFormat Entities.combinedData.zero

/-- A request is sent, and a message without id arrives while it is pending. -/
def legacyMessage : List Event :=
  [.newRequest 0, .register firstRequest, .send firstRequest true,
    .message bareSample [(1, firstRequest)]]

theorem routed_of_run_legacyMessage :
    ∃ s, run step State.init (legacyMessage ++ [.select true, .delete]) = some s ∧ s.Routed ∧
      s.delivered = [firstRequest] := by
  have hr : run step State.init (legacyMessage ++ [.select true, .delete]) = some _ := rfl
  exact ⟨_, hr, routed_of_run hr (by decide), rfl⟩

/-- The request times out between the lookup and the send: the message without id goes to a request
that is no longer pending, and none is. -/
theorem delivered_not_pending :
    ∃ s s', run step State.init
        (legacyMessage ++ [.contextDone firstRequest, .cleanup firstRequest]) = some s ∧
      step s (.select true) = some s' ∧ s.pendingReqs = [] ∧ s.delivered = [] ∧
      s'.delivered = [firstRequest] ∧ requestID bareSample = none :=
  ⟨_, _, rfl, rfl, rfl, rfl, rfl, rfl⟩

end RequestManager

end Beszel
