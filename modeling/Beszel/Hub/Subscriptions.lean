import Beszel.Machinery.Run
import Mathlib.Algebra.Ring.Nat
import Mathlib.Data.List.AList
import Mathlib.Data.List.Dedup
import Mathlib.Algebra.BigOperators.Group.List.Lemmas

/-!
# Hub/Subscriptions — how many subscriptions a system's realtime metrics have

    subscribe:   old ──e.Next()──▸ new      new ∖ old: connectedClients + 1
                                            old ∖ new: connectedClients - 1, deleted at 0
    disconnect:  old ──────────────▸        old:       connectedClients - 1, deleted at 0

The hooks of `internal/hub/systems/system_realtime.go` on `activeSubscriptions`, run one at a time.
A subscribe request replaces the subscriptions of a client, and the hook counts the difference, in
eight bits: an entry is deleted whenever the count comes to a multiple of 256.
-/

namespace Beszel

open Machinery

namespace Subscriptions

/-! ## The map -/

/-- `subscriptionInfo`. -/
structure SubscriptionInfo where
  subscription : String
  connectedClients : UInt8
  deriving DecidableEq, Repr

/-- `activeSubscriptions`. -/
abbrev Active := AList fun _ : String => SubscriptionInfo

/-- `strings.HasPrefix(k, "rt_metrics")`. -/
def isMetrics (k : String) : Bool := "rt_metrics".toList.isPrefixOf k.toList

section Hooks

-- the system a subscription names, `options.Query["system"]`, as the broker has parsed it
variable (system : String → String)

/-- What the subscribe hook does for a new subscription. -/
def addSubscription (active : Active) (k : String) : Active :=
  if isMetrics k then
    let info := (active.lookup (system k)).getD ⟨k, 0⟩
    active.insert (system k) { info with connectedClients := info.connectedClients + 1 }
  else active

/-- `removeRealtimeSubscription`. -/
def removeRealtimeSubscription (active : Active) (k : String) : Active :=
  if isMetrics k then
    match active.lookup (system k) with
    | none => active
    | some info =>
      let connectedClients := info.connectedClients - 1
      if connectedClients ≤ 0 then active.erase (system k)
      else active.insert (system k) { info with connectedClients }
  else active

/-- The subscriptions that are only in the first. -/
def only (subs subs' : List String) : List String := subs.filter (· ∉ subs')

/-- **`onRealtimeSubscribeRequest`**, when the request has been carried out. -/
def onRealtimeSubscribeRequest (active : Active) (oldSubs newSubs : List String) : Active :=
  (only oldSubs newSubs).foldl (removeRealtimeSubscription system)
    ((only newSubs oldSubs).foldl (addSubscription system) active)

/-- **`onRealtimeConnectRequest`**, when the client has disconnected. -/
def onRealtimeConnectRequest (active : Active) (subscriptions : List String) : Active :=
  subscriptions.foldl (removeRealtimeSubscription system) active

end Hooks

/-! ## The machine -/

/-- A connected client of the broker, with its subscriptions. -/
structure Client where
  id : String
  subscriptions : List String
  deriving DecidableEq, Repr

structure State where
  clients : List Client
  active : Active

def State.init : State := ⟨[], ∅⟩

/-- A request or a disconnect.  The lists are in the orders in which the hook ranges over the
maps. -/
inductive Event
  | connect (id : String)
  | subscribe (client : Client) (oldSubs newSubs : List String)
  | disconnect (client : Client) (oldSubs : List String)
  deriving DecidableEq, Repr

section Machine

variable (system : String → String)

/-- **One event.**  A subscribe request is answered only for a connected client. -/
def step (s : State) : Event → Option State
  | .connect id =>
    if id ∈ s.clients.map (·.id) then none
    else some { s with clients := ⟨id, []⟩ :: s.clients }
  | .subscribe client oldSubs newSubs =>
    if client ∈ s.clients ∧ oldSubs.Perm client.subscriptions ∧ newSubs.Nodup then
      some
        { clients := { client with subscriptions := newSubs } :: s.clients.erase client
          active := onRealtimeSubscribeRequest system s.active oldSubs newSubs }
    else none
  | .disconnect client oldSubs =>
    if client ∈ s.clients ∧ oldSubs.Perm client.subscriptions then
      some
        { clients := s.clients.erase client
          active := onRealtimeConnectRequest system s.active oldSubs }
    else none

/-- The subscription is to the metrics of this system. -/
def topic (id k : String) : Bool := isMetrics k && decide (system k = id)

/-- How many subscriptions the connected clients have to the metrics of a system. -/
def count (clients : List Client) (id : String) : ℕ :=
  (clients.map fun c => c.subscriptions.countP (topic system id)).sum

/-- **The map says what the clients are subscribed to**: a system has an entry exactly if there is a
subscription to it, and the entry has their number. -/
def Tracked (s : State) : Prop :=
  ∀ id, (id ∈ s.active ↔ 1 ≤ count system s.clients id) ∧
    ∀ info ∈ s.active.lookup id, info.connectedClients.toNat = count system s.clients id

/-- **No request takes the count over 255**, other than to 256 with one of them removed again. -/
def Fits (s : State) : Event → Prop
  | .subscribe _ oldSubs newSubs => ∀ k ∈ only newSubs oldSubs, isMetrics k = true →
      let added := (only newSubs oldSubs).countP (topic system (system k))
      count system s.clients (system k) + added ≤ 255 ∨
        (count system s.clients (system k) + added = 256 ∧
          1 ≤ (only oldSubs newSubs).countP (topic system (system k)))
  | _ => True

end Machine

/-! ## The entry of one system -/

section Entry

variable {system : String → String} {active : Active} {id : String}

/-- The count in the entry of a system. -/
def clientsAt (active : Active) (id : String) : Option UInt8 :=
  (active.lookup id).map (·.connectedClients)

/-- One more. -/
def bump (n : Option UInt8) : Option UInt8 := some (n.getD 0 + 1)

/-- One less, and deleted at zero. -/
def drop (n : Option UInt8) : Option UInt8 :=
  n.bind fun n => if n - 1 ≤ 0 then none else some (n - 1)

/-- The entry for this many subscriptions, counted in eight bits. -/
def entry (n : ℕ) : Option UInt8 := if n = 0 then none else some (UInt8.ofNat n)

theorem clientsAt_add (k : String) :
    clientsAt (addSubscription system active k) id =
      if topic system id k then bump (clientsAt active id) else clientsAt active id := by
  unfold addSubscription topic clientsAt
  cases isMetrics k with
  | false => rfl
  | true =>
    by_cases hid : system k = id
    · subst hid
      simp only [if_true, Bool.true_and, decide_true, AList.lookup_insert, bump, Option.map_some]
      cases active.lookup (system k) <;> rfl
    · simp [hid, AList.lookup_insert_ne (Ne.symm hid)]

theorem clientsAt_remove (k : String) :
    clientsAt (removeRealtimeSubscription system active k) id =
      if topic system id k then drop (clientsAt active id) else clientsAt active id := by
  unfold removeRealtimeSubscription topic clientsAt
  cases isMetrics k with
  | false => rfl
  | true =>
    by_cases hid : system k = id
    · subst hid
      cases hl : active.lookup (system k) with
      | none => simp [hl, drop]
      | some info =>
        simp only [if_true, Bool.true_and, decide_true, drop, Option.map_some, Option.bind_some]
        split_ifs
        · simp
        · simp
    · cases hl : active.lookup (system k) with
      | none => simp [hid]
      | some info =>
        simp only [if_true, Bool.true_and, decide_eq_true_eq, if_neg hid]
        split_ifs
        · rw [AList.lookup_erase_ne (Ne.symm hid)]
        · rw [AList.lookup_insert_ne (Ne.symm hid)]

/-- A list of keys takes the entry of a system as many steps as it has keys of the system. -/
theorem clientsAt_foldl {f : Active → String → Active} {g : Option UInt8 → Option UInt8}
    (hf : ∀ active k, clientsAt (f active k) id =
      if topic system id k then g (clientsAt active id) else clientsAt active id)
    (ks : List String) (active : Active) :
    clientsAt (ks.foldl f active) id = g^[ks.countP (topic system id)] (clientsAt active id) := by
  induction ks generalizing active with
  | nil => rfl
  | cons k ks ih =>
    rw [List.foldl_cons, ih, hf, List.countP_cons]
    split_ifs
    · rfl
    · rfl

theorem bump_entry (n : ℕ) : bump (entry n) = entry (n + 1) := by
  unfold bump entry
  rw [if_neg (Nat.succ_ne_zero n), UInt8.ofNat_add]
  split_ifs with hn
  · subst hn
    rfl
  · rfl

theorem iterate_bump_entry (a n : ℕ) : bump^[a] (entry n) = entry (n + a) := by
  induction a with
  | zero => rfl
  | succ a ih => rw [Function.iterate_succ_apply', ih, bump_entry, Nat.add_assoc]

/-- One less is the entry for one less, or none where that is a multiple of 256. -/
theorem drop_entry (n : ℕ) : drop (entry (n + 1)) = if n % 256 = 0 then none else entry n := by
  have hsub : UInt8.ofNat (n + 1) - 1 = UInt8.ofNat n := by
    rw [UInt8.ofNat_add]
    exact UInt8.add_sub_cancel _ _
  unfold drop entry
  rw [if_neg (Nat.succ_ne_zero n), Option.bind_some, hsub]
  have hzero : UInt8.ofNat n ≤ 0 ↔ n % 256 = 0 := by
    rw [UInt8.le_iff_toNat_le, UInt8.toNat_ofNat', UInt8.toNat_zero, Nat.le_zero]
  simp only [hzero]
  split_ifs with h h'
  · rfl
  · rw [h'] at h
    exact absurd rfl h
  · rfl

theorem iterate_drop_none (d : ℕ) : drop^[d] none = none := Function.iterate_fixed rfl d

/-- **Taking away, as long as the count stays off the multiples of 256.** -/
theorem iterate_drop_entry {m d : ℕ} (hd : d ≤ m)
    (h : ∀ j, m - d ≤ j → j < m → j = 0 ∨ j % 256 ≠ 0) : drop^[d] (entry m) = entry (m - d) := by
  induction d with
  | zero => rfl
  | succ d ih =>
    rw [Function.iterate_succ_apply', ih (by omega) fun j hj hjm => h j (by omega) hjm,
      show m - d = (m - (d + 1)) + 1 by omega, drop_entry]
    rcases h (m - (d + 1)) le_rfl (by omega) with hj | hj
    · rw [hj]
      rfl
    · rw [if_neg hj]

/-- **Taking away past a multiple of 256 loses the entry.** -/
theorem iterate_drop_eq_none {m d j : ℕ} (hj : j % 256 = 0) (hjm : j < m) (hdj : m - d ≤ j)
    (hd : d ≤ m) : drop^[d] (entry m) = none := by
  set j' := 256 * ((m - 1) / 256)
  have hj' : m - j' ≤ d := by omega
  have hlast : drop^[m - j'] (entry m) = none := by
    rw [show m - j' = (m - j' - 1) + 1 by omega, Function.iterate_succ_apply',
      iterate_drop_entry (by omega) fun i hi him => by omega,
      show m - (m - j' - 1) = j' + 1 by omega, drop_entry, if_pos (by omega)]
  rw [show d = (d - (m - j')) + (m - j') by omega, Function.iterate_add_apply, hlast,
    iterate_drop_none]

end Entry

/-! ## One request -/

section Requests

variable {system : String → String} {s s' : State} {id : String}

/-- **The map is right exactly if each entry is**, and there are at most 255 subscriptions to it. -/
theorem tracked_iff :
    Tracked system s ↔
      ∀ id, clientsAt s.active id = entry (count system s.clients id) ∧
        count system s.clients id ≤ 255 := by
  refine forall_congr' fun id => ?_
  rw [← AList.lookup_isSome, clientsAt, entry]
  cases s.active.lookup id with
  | none =>
    simp only [Option.isSome_none, Bool.false_eq_true, false_iff, Nat.not_le, Nat.lt_one_iff,
      Option.map_none]
    constructor
    · rintro ⟨h, -⟩
      rw [h]
      exact ⟨rfl, Nat.zero_le _⟩
    · rintro ⟨h, -⟩
      refine ⟨?_, nofun⟩
      by_contra hne
      rw [if_neg hne] at h
      cases h
  | some info =>
    simp only [Option.isSome_some, true_iff, Option.map_some, Option.mem_def, Option.some.injEq,
      forall_eq']
    have hlt := info.connectedClients.toNat_lt
    constructor
    · rintro ⟨hone, h⟩
      rw [if_neg (by omega), ← h, UInt8.ofNat_toNat]
      exact ⟨rfl, by omega⟩
    · rintro ⟨h, hle⟩
      split_ifs at h with hzero
      obtain h := Option.some.inj h
      refine ⟨by omega, ?_⟩
      rw [h, UInt8.toNat_ofNat', Nat.mod_eq_of_lt (by omega)]

/-- What the clients have, one of them apart. -/
theorem count_of_mem (system : String → String) {clients : List Client} {c : Client}
    (hc : c ∈ clients) (id : String) :
    count system clients id =
      c.subscriptions.countP (topic system id) + count system (clients.erase c) id :=
  ((List.perm_cons_erase hc).map _).sum_eq.trans (List.sum_cons ..)

/-- What two sets of subscriptions have more than each other. -/
theorem countP_only {subs subs' : List String} (h : subs.Nodup) (h' : subs'.Nodup)
    (p : String → Bool) :
    subs.countP p + (only subs' subs).countP p = subs'.countP p + (only subs subs').countP p := by
  have hsplit (l l' : List String) :
      l.countP p = (l.filter (· ∈ l')).countP p + (only l l').countP p := by
    have hneg : only l l' = l.filter fun x => !decide (x ∈ l') := by simp [only]
    rw [hneg, ← List.countP_append]
    exact (List.filter_append_perm (fun x => decide (x ∈ l')) l).countP_eq p |>.symm
  have hcommon : (subs.filter (· ∈ subs')).Perm (subs'.filter (· ∈ subs)) := by
    refine (List.perm_ext_iff_of_nodup (h.filter _) (h'.filter _)).mpr fun k => ?_
    simp [and_comm]
  rw [hsplit subs subs', hsplit subs' subs, hcommon.countP_eq p]
  omega

/-- What a subscribe request makes of the entry of a system. -/
theorem clientsAt_subscribe (active : Active) (oldSubs newSubs : List String) :
    clientsAt (onRealtimeSubscribeRequest system active oldSubs newSubs) id =
      drop^[(only oldSubs newSubs).countP (topic system id)]
        (bump^[(only newSubs oldSubs).countP (topic system id)] (clientsAt active id)) := by
  rw [onRealtimeSubscribeRequest, clientsAt_foldl (fun _ _ => clientsAt_remove _),
    clientsAt_foldl (fun _ _ => clientsAt_add _)]

/-- What a disconnect makes of it. -/
theorem clientsAt_disconnect (active : Active) (oldSubs : List String) :
    clientsAt (onRealtimeConnectRequest system active oldSubs) id =
      drop^[oldSubs.countP (topic system id)] (clientsAt active id) := by
  rw [onRealtimeConnectRequest, clientsAt_foldl fun _ _ => clientsAt_remove _]

/-- **A count that goes up and down again stays right** exactly if it does not come to a multiple of
256 on the way. -/
theorem fits_iff {n a d : ℕ} (hn : n ≤ 255) (hd : d ≤ n) :
    (drop^[d] (bump^[a] (entry n)) = entry (n + a - d) ∧ n + a - d ≤ 255) ↔
      n + a ≤ 255 ∨ (n + a = 256 ∧ 1 ≤ d) := by
  rw [iterate_bump_entry]
  constructor
  · rintro ⟨h, hle⟩
    by_contra hno
    rw [iterate_drop_eq_none (j := 256) rfl (by omega) (by omega) (by omega), entry,
      if_neg (by omega)] at h
    cases h
  · intro h
    exact ⟨iterate_drop_entry (by omega) fun j hj hjm => by omega, by omega⟩

/-- The subscriptions of a client are a set. -/
def Distinct (s : State) : Prop := ∀ c ∈ s.clients, c.subscriptions.Nodup

theorem distinct_step {e : Event} (hs : Distinct s) (h : step system s e = some s') :
    Distinct s' := by
  cases e with
  | connect id =>
    simp only [step, Option.ite_none_left_eq_some, Option.some.injEq] at h
    obtain ⟨-, rfl⟩ := h
    exact List.forall_mem_cons.mpr ⟨List.nodup_nil, hs⟩
  | subscribe client oldSubs newSubs =>
    obtain ⟨⟨-, -, hnew⟩, rfl⟩ := guard_eq_some h
    exact List.forall_mem_cons.mpr ⟨hnew, fun c hc => hs c (List.mem_of_mem_erase hc)⟩
  | disconnect client oldSubs =>
    obtain ⟨-, rfl⟩ := guard_eq_some h
    exact fun c hc => hs c (List.mem_of_mem_erase hc)

/-- What a subscribe request makes of the number of subscriptions. -/
theorem count_subscribe {clients : List Client} {client : Client} {oldSubs newSubs : List String}
    (hclient : client ∈ clients) (hold : oldSubs.Nodup) (hnew : newSubs.Nodup)
    (hperm : oldSubs.Perm client.subscriptions) (id : String) :
    (only oldSubs newSubs).countP (topic system id) ≤ count system clients id ∧
      count system ({ client with subscriptions := newSubs } :: clients.erase client) id =
        count system clients id + (only newSubs oldSubs).countP (topic system id) -
          (only oldSubs newSubs).countP (topic system id) := by
  have hcount := count_of_mem system hclient id
  have hcount' :
      count system ({ client with subscriptions := newSubs } :: clients.erase client) id =
        newSubs.countP (topic system id) + count system (clients.erase client) id :=
    List.sum_cons ..
  have honly := countP_only hold hnew (topic system id)
  have hpart : (only oldSubs newSubs).countP (topic system id) ≤
      oldSubs.countP (topic system id) := List.filter_sublist.countP_le
  rw [← hperm.countP_eq] at hcount
  omega

/-- **One request keeps the map right exactly if the count fits.** -/
theorem tracked_step_iff {e : Event} (hdistinct : Distinct s) (hs : Tracked system s)
    (h : step system s e = some s') : Tracked system s' ↔ Fits system s e := by
  rw [tracked_iff] at hs ⊢
  cases e with
  | connect id =>
    simp only [step, Option.ite_none_left_eq_some, Option.some.injEq] at h
    obtain ⟨-, rfl⟩ := h
    refine iff_of_true (fun id' => ?_) trivial
    have hcount : count system (⟨id, []⟩ :: s.clients) id' = count system s.clients id' :=
      (List.sum_cons ..).trans (Nat.zero_add _)
    rw [hcount]
    exact hs id'
  | subscribe client oldSubs newSubs =>
    obtain ⟨⟨hclient, hperm, hnew⟩, rfl⟩ := guard_eq_some h
    have hold : oldSubs.Nodup := hperm.nodup_iff.mpr (hdistinct client hclient)
    have hfits (id : String) := fits_iff (a := (only newSubs oldSubs).countP (topic system id))
      (hs id).2 (count_subscribe hclient hold hnew hperm id).1
    simp only [clientsAt_subscribe, (count_subscribe hclient hold hnew hperm _).2, (hs _).1, hfits]
    constructor
    · exact fun h k _ _ => h (system k)
    · intro h id
      rcases Nat.eq_zero_or_pos ((only newSubs oldSubs).countP (topic system id)) with hzero | hpos
      · rw [hzero]
        exact .inl (hs id).2
      · obtain ⟨k, hk, htopic⟩ := List.countP_pos_iff.mp hpos
        obtain ⟨hmetrics, hid⟩ := Bool.and_eq_true_iff.mp htopic
        obtain rfl : system k = id := of_decide_eq_true hid
        exact h k hk hmetrics
  | disconnect client oldSubs =>
    obtain ⟨⟨hclient, hperm⟩, rfl⟩ := guard_eq_some h
    refine iff_of_true (fun id => ?_) trivial
    obtain ⟨hentry, hle⟩ := hs id
    have hcount := count_of_mem system hclient id
    rw [← hperm.countP_eq] at hcount
    rw [clientsAt_disconnect, hentry, iterate_drop_entry (by omega) fun j _ _ => by omega]
    change _ = entry (count system (s.clients.erase client) id) ∧
      count system (s.clients.erase client) id ≤ 255
    exact ⟨congrArg entry (by omega), by omega⟩

/-- **The map is right in every run in which the counts fit**, and wrong after the first request in
which one does not. -/
theorem tracked_of_along {es : List Event} (hok : Along (step system) (Fits system) State.init es)
    (hr : run (step system) State.init es = some s) :
    Tracked system s ∧
      ∀ e s', ¬ Fits system s e → step system s e = some s' → ¬ Tracked system s' := by
  have hinv : Distinct s ∧ Tracked system s := by
    refine inv_of_along (I := fun s => Distinct s ∧ Tracked system s) ?_ ?_ hok hr
    · exact fun hs hok h => ⟨distinct_step hs.1 h, (tracked_step_iff hs.1 hs.2 h).mpr hok⟩
    · refine ⟨nofun, tracked_iff.mpr fun id => ⟨rfl, Nat.zero_le _⟩⟩
  exact ⟨hinv.2, fun e s' hfits h => (tracked_step_iff hinv.1 hinv.2 h).not.mpr hfits⟩

end Requests

/-! ### Two runs -/

instance (system : String → String) (s : State) : ∀ e : Event, Decidable (Fits system s e)
  | .subscribe _ _ _ => inferInstanceAs (Decidable (∀ k ∈ _, _ → _))
  | .connect _ | .disconnect _ _ => .isTrue trivial

/-- The subscription of the system page. -/
def metricsKey : String :=
  "rt_metrics?options=%7B%22query%22%3A%7B%22system%22%3A%22abc%22%7D%7D"

/-- Two clients look at a system, and one of them leaves. -/
def twoClients : List Event :=
  [.connect "a", .connect "b", .subscribe ⟨"a", []⟩ [] [metricsKey],
    .subscribe ⟨"b", []⟩ [] [metricsKey, "systems/*"], .disconnect ⟨"a", [metricsKey]⟩ [metricsKey]]

/-- One subscription is left. -/
theorem tracked_of_along_two_clients :
    ∃ s, run (step fun k => if k = metricsKey then "abc" else "") State.init twoClients = some s ∧
      s.active.lookup "abc" = some ⟨metricsKey, 1⟩ ∧
        Tracked (fun k => if k = metricsKey then "abc" else "") s := by
  have hok : Along (step fun k => if k = metricsKey then "abc" else "")
      (Fits fun k => if k = metricsKey then "abc" else "") State.init twoClients := by
    decide +kernel
  exact ⟨_, rfl, by decide +kernel, (tracked_of_along hok rfl).1⟩

/-- A subscription to the metrics of the system with something appended to its address. -/
def longKey (n : ℕ) : String := String.ofList (metricsKey.toList ++ '&' :: List.replicate n 'x')

/-- This many subscriptions. -/
def longKeys (n : ℕ) : List String := (List.range n).map longKey

/-- **One client with 256 subscriptions to a system**: its entry says that there are none. -/
theorem not_tracked_longKeys :
    ∃ s, run (step fun _ => "abc") State.init
        [.connect "a", .subscribe ⟨"a", []⟩ [] (longKeys 256)] = some s ∧
      ¬ Tracked (fun _ => "abc") s := by
  have hnodup : (longKeys 256).Nodup := by
    refine List.nodup_range.map fun n m h => ?_
    have := congrArg String.length h
    simpa [longKey] using this
  have htopic (n : ℕ) : topic (fun _ => "abc") "abc" (longKey n) = true := by
    have hlong : (longKey n).toList = metricsKey.toList ++ '&' :: List.replicate n 'x' :=
      String.toList_ofList
    rw [topic, isMetrics, hlong, decide_eq_true rfl, Bool.and_true, List.isPrefixOf_iff_prefix]
    exact (by decide : "rt_metrics".toList <+: metricsKey.toList).trans (List.prefix_append _ _)
  have hcount : count (fun _ => "abc") [⟨"a", longKeys 256⟩] "abc" = 256 := by
    have hall : (longKeys 256).countP (topic (fun _ => "abc") "abc") = (longKeys 256).length := by
      rw [List.countP_eq_length]
      intro k hk
      obtain ⟨n, -, rfl⟩ := List.mem_map.mp hk
      exact htopic n
    rw [count, List.map_singleton, List.sum_singleton, hall, longKeys, List.length_map,
      List.length_range]
  refine ⟨⟨[⟨"a", longKeys 256⟩], onRealtimeSubscribeRequest (fun _ => "abc") ∅ [] (longKeys 256)⟩,
    ?_, fun h => ?_⟩
  · simp [run, step, State.init, hnodup]
  · have hle := (tracked_iff.mp h "abc").2
    rw [hcount] at hle
    exact absurd hle (by decide)

end Subscriptions

end Beszel
