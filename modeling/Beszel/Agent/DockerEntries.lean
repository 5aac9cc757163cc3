import Beszel.Agent.Docker

/-!
# Agent/DockerEntries — which containers a poll returns

    running ──ok──────────────────────────────▸ succeeded
       │ failed                                     ▴ ok
       ╰──▸ failing ──drop──▸ failed ──retry──▸ running ──failed──▸ failed

The polls of `Agent/Docker`, with what became of each container's last attempt.  A first attempt
that fails has its entry deleted; one that is made again and fails keeps the entry it opened.  All
responses are decoded into one `apiStats`, of which only the networks are reset: what a response
leaves out is what another left there.
-/

namespace Beszel

open Machinery

namespace Agent

namespace Docker

namespace Entries

/-! ## The responses -/

/-- The JSON of a stats response: a field is there or it is not. -/
structure Body where
  read : Option ℤ
  numProcs : Option UInt32
  networks : List (UInt64 × UInt64)
  totalUsage : Option UInt64
  systemUsage : Option UInt64
  memUsage : Option UInt64
  memCache : Option UInt64
  memInactiveFile : Option UInt64
  privateWorkingSet : Option UInt64

/-- `dm.decode(resp, res)`: the networks were reset, another field that is not there stays. -/
def Body.decode (body : Body) (apiStats : ApiStats) : ApiStats where
  read := body.read.getD apiStats.read
  numProcs := body.numProcs.getD apiStats.numProcs
  networks := body.networks
  totalUsage := body.totalUsage.getD apiStats.totalUsage
  systemUsage := body.systemUsage.getD apiStats.systemUsage
  memUsage := body.memUsage.getD apiStats.memUsage
  memCache := body.memCache.getD apiStats.memCache
  memInactiveFile := body.memInactiveFile.getD apiStats.memInactiveFile
  privateWorkingSet := body.privateWorkingSet.getD apiStats.privateWorkingSet

/-- The zero time, in nanoseconds. -/
def zeroTime : ℤ := -62135596800 * 10 ^ 9

/-- `&container.ApiStats{}`. -/
def noStats : ApiStats := ⟨zeroTime, 0, [], 0, 0, 0, 0, 0, 0⟩

/-- How a request for the stats of a container goes: it fails, its body is decoded in part, or whole
at a time. -/
inductive Answer
  | requestFailed
  | decodeFailed (body : Body)
  | decoded (now : ℤ) (body : Body)

/-- The attempt, with what is then in `apiStats`. -/
def Answer.attempt (apiStats : ApiStats) : Answer → Attempt
  | .requestFailed => .requestFailed
  | .decodeFailed _ => .decodeFailed
  | .decoded now body => .decoded now (body.decode apiStats)

/-- What the answer leaves in `apiStats`. -/
def Answer.leaves (apiStats : ApiStats) : Answer → ApiStats
  | .requestFailed => apiStats
  | .decodeFailed body | .decoded _ body => body.decode apiStats

/-! ## The last attempts -/

/-- An attempt that succeeded: for which container, what the response says by itself and what was in
`apiStats` with it, the CPU percentage by the counters that were kept, and the entry it left. -/
structure Success where
  ctr : ApiInfo
  isWindows : Bool
  own : ApiStats
  apiStats : ApiStats
  cpuPct : ApiStats → ℚ
  stats : Stats

/-- The memory of an entry. -/
def Success.mem (u : Success) (res : ApiStats) : Option ℚ :=
  (calculateMemoryUsage res u.isWindows).map fun used => bytesToMegabytes used.toNat

/-- The entry carries the values of a response. -/
structure Success.From (u : Success) (res : ApiStats) : Prop where
  id : u.stats.id = u.ctr.idShort
  status : u.stats.status = (parseDockerStatus u.ctr.status).1
  health : u.stats.health = (parseDockerStatus u.ctr.status).2
  cpu : u.stats.cpu = twoDecimals (u.cpuPct res)
  mem : some u.stats.mem = u.mem res
  sent : u.stats.networkSent = bytesToMegabytes u.stats.bandwidth.1.toNat
  recv : u.stats.networkRecv = bytesToMegabytes u.stats.bandwidth.2.toNat
  prevNet : u.stats.prevNet = totals res.networks
  prevReadTime : u.stats.prevReadTime = some res.read

/-- **The entry carries the values of the attempt**: those of its own response. -/
def Success.Carries (u : Success) : Prop := u.From u.own

/-- **Nothing foreign shows**: with what other responses left in `apiStats` in the fields that this
one leaves out, it says what it says by itself. -/
structure Success.Unmixed (u : Success) : Prop where
  cpu : twoDecimals (u.cpuPct u.apiStats) = twoDecimals (u.cpuPct u.own)
  mem : u.mem u.apiStats = u.mem u.own
  read : u.apiStats.read = u.own.read

/-- What became of an attempt; one that failed may have been answered. -/
inductive Outcome
  | failed (answered : Bool)
  | succeeded (u : Success)

/-- What becomes of an attempt. -/
def outcome (dm : DockerManager) (apiStats : ApiStats) (key : UInt16) (ctr : ApiInfo) :
    Answer → Outcome
  | .requestFailed => .failed false
  | .decodeFailed _ => .failed true
  | .decoded now body =>
    let attempt : Attempt := .decoded now (body.decode apiStats)
    if dm.Accepts key ctr.idShort attempt then
      .succeeded
        { ctr := ctr
          isWindows := dm.isWindows
          own := body.decode noStats
          apiStats := body.decode apiStats
          cpuPct := dm.cpuPct key ctr.idShort
          stats := (dm.updateContainerStats ctr key attempt).1.heap (dm.addrOf ctr.idShort) }
    else .failed true

/-- The entry carries what was in `apiStats`. -/
structure Success.Written (u : Success) : Prop where
  entry : u.From u.apiStats
  networks : u.apiStats.networks = u.own.networks

/-- **What was in `apiStats` is the response's own** where nothing foreign shows. -/
theorem Success.Written.carries_iff {u : Success} (h : u.Written) : u.Carries ↔ u.Unmixed := by
  constructor
  · intro hown
    exact ⟨h.entry.cpu.symm.trans hown.cpu, h.entry.mem.symm.trans hown.mem,
      Option.some.inj (h.entry.prevReadTime.symm.trans hown.prevReadTime)⟩
  · intro hsame
    refine ⟨h.entry.id, h.entry.status, h.entry.health, h.entry.cpu.trans hsame.cpu,
      h.entry.mem.trans hsame.mem, h.entry.sent, h.entry.recv, ?_, ?_⟩
    · rw [h.entry.prevNet, h.networks]
    · rw [h.entry.prevReadTime, hsame.read]

/-- The response has all fields. -/
structure Body.Complete (body : Body) : Prop where
  read : body.read.isSome
  numProcs : body.numProcs.isSome
  totalUsage : body.totalUsage.isSome
  systemUsage : body.systemUsage.isSome
  memUsage : body.memUsage.isSome
  memCache : body.memCache.isSome
  memInactiveFile : body.memInactiveFile.isSome
  privateWorkingSet : body.privateWorkingSet.isSome

theorem Body.Complete.decode_eq {body : Body} (h : body.Complete) (s s' : ApiStats) :
    body.decode s = body.decode s' := by
  have hgetD {α : Type} {o : Option α} (ho : o.isSome) (a b : α) : o.getD a = o.getD b := by
    obtain ⟨c, rfl⟩ := Option.isSome_iff_exists.mp ho
    rfl
  unfold Body.decode
  congr 1
  exacts [hgetD h.read _ _, hgetD h.numProcs _ _, hgetD h.totalUsage _ _, hgetD h.systemUsage _ _,
    hgetD h.memUsage _ _, hgetD h.memCache _ _, hgetD h.memInactiveFile _ _,
    hgetD h.privateWorkingSet _ _]

/-- The entry of a container as it is opened. -/
theorem openEntry_self (dm : DockerManager) (ctr : ApiInfo) :
    ∃ old : Stats, (dm.openEntry ctr).1.heap (dm.addrOf ctr.idShort) =
      { old with
        id := ctr.idShort
        status := (parseDockerStatus ctr.status).1
        health := (parseDockerStatus ctr.status).2 } :=
  ⟨{ ((dm.containerStatsMap.lookup ctr.idShort).map dm.heap).getD (.new ctr) with
      cpu := 0
      mem := 0
      bandwidth := (0, 0)
      networkSent := 0
      networkRecv := 0 }, Function.update_self _ _ _⟩

/-- **The entry that an attempt leaves** when it succeeds. -/
theorem updateContainerStats_entry {dm : DockerManager} {key : UInt16} {ctr : ApiInfo} {now : ℤ}
    {res : ApiStats} (h : dm.Accepts key ctr.idShort (.decoded now res)) :
    ∃ used ∈ calculateMemoryUsage res dm.isWindows, ∃ rates : UInt64 × UInt64,
      (dm.updateContainerStats ctr key (.decoded now res)).1.heap (dm.addrOf ctr.idShort) =
        { (dm.openEntry ctr).1.heap (dm.addrOf ctr.idShort) with
          cpu := twoDecimals (dm.cpuPct key ctr.idShort res)
          mem := bytesToMegabytes used.toNat
          bandwidth := rates
          networkSent := bytesToMegabytes rates.1.toNat
          networkRecv := bytesToMegabytes rates.2.toNat
          prevNet := totals res.networks
          prevReadTime := some res.read } := by
  rw [DockerManager.updateContainerStats]
  dsimp only
  split
  case h_1 hmem =>
    have hsome : (calculateMemoryUsage res dm.isWindows).isSome = true := h.1
    rw [show calculateMemoryUsage res dm.isWindows = none from hmem] at hsome
    cases hsome
  case h_2 used hmem =>
    split_ifs with hcpu
    · exact absurd h.2 (not_le.mpr hcpu)
    · exact ⟨used, hmem, _, Function.update_self _ _ _⟩

/-- **What is written carries what was in `apiStats`.** -/
theorem written_of_outcome {dm : DockerManager} {apiStats : ApiStats} {key : UInt16} {ctr : ApiInfo}
    {answer : Answer} {u : Success} (h : outcome dm apiStats key ctr answer = .succeeded u) :
    u.Written ∧ u.ctr = ctr := by
  cases answer with
  | requestFailed | decodeFailed body => cases h
  | decoded now body =>
    rw [outcome] at h
    split at h
    · rename_i haccepts
      obtain rfl := Outcome.succeeded.inj h
      obtain ⟨old, hold⟩ := openEntry_self dm ctr
      obtain ⟨used, hused, rates, hentry⟩ := updateContainerStats_entry haccepts
      refine ⟨⟨?_, rfl⟩, rfl⟩
      rw [hold] at hentry
      constructor <;> simp only [hentry]
      rw [Success.mem, show calculateMemoryUsage _ _ = some used from hused]
      rfl
    · cases h

/-- **Nothing foreign shows in a response with all fields.** -/
theorem unmixed_of_complete {dm : DockerManager} {apiStats : ApiStats} {key : UInt16}
    {ctr : ApiInfo} {now : ℤ} {body : Body} {u : Success}
    (h : outcome dm apiStats key ctr (.decoded now body) = .succeeded u) (hbody : body.Complete) :
    u.Unmixed := by
  rw [outcome, hbody.decode_eq apiStats noStats] at h
  split at h
  · obtain rfl := Outcome.succeeded.inj h
    exact ⟨rfl, rfl, rfl⟩
  · cases h

/-! ## The polls, with their outcomes -/

/-- What a poll did: the containers that are listed and not excluded, by their short ids, what
became of the last attempt of each, the entries that were returned, and the keys that are left in
the map. -/
structure Report where
  ids : List String
  last : String → Option Outcome
  stats : List (String × Stats)
  kept : List String

/-- What can happen in a poll. -/
inductive Event
  | begin (key : UInt16) (isWindows : Bool) (containers : List ApiInfo)
  | visit
  | update (ctr : ApiInfo) (answer : Answer)
  | drop (ctr : ApiInfo)
  | retry
  | finish

/-- The event, with what an answer then leaves in `apiStats`. -/
def Event.decode (apiStats : ApiStats) : Event → Docker.Event
  | .begin key isWindows containers => .begin key isWindows containers
  | .visit => .visit
  | .update ctr answer => .update ctr (answer.attempt apiStats)
  | .drop ctr => .drop ctr
  | .retry => .retry
  | .finish => .finish

/-- The manager and its `apiStats`, with the list of the poll under way, the last attempts of its
containers, and what the polls did. -/
structure Watch where
  sys : State
  apiStats : ApiStats
  listed : List ApiInfo
  last : String → Option Outcome
  reports : List Report

/-- Nothing was polled yet. -/
def Watch.init : Watch := ⟨.init, noStats, [], fun _ => none, []⟩

section Machine

variable (excluded : String → Bool)

/-- The containers of a list that are not excluded. -/
def included (l : List ApiInfo) : List String :=
  (l.filter fun ctr => !excluded ctr.name).map (·.idShort)

namespace Watch

/-- What a poll returns when it ends. -/
def report (w : Watch) (p : Poll) : Report where
  ids := included excluded w.listed
  last := w.last
  stats := (w.sys.dm.prune p.validIds).2.map fun e => (e.1, w.sys.dm.heap e.2)
  kept := (w.sys.dm.prune p.validIds).1.containerStatsMap.keys

/-- What is noted of an event. -/
def note (w : Watch) (sys : State) : Event → Watch
  | .begin _ _ containers =>
    { w with sys := sys, listed := containers, last := fun _ => none }
  | .update ctr answer =>
    { w with
      sys := sys
      apiStats := answer.leaves w.apiStats
      last := Function.update w.last ctr.idShort
        (w.sys.poll.map fun p => outcome w.sys.dm w.apiStats p.key ctr answer) }
  | .finish =>
    { w with
      sys := sys
      reports := (w.sys.poll.map (w.report excluded)).toList ++ w.reports }
  | _ => { w with sys := sys }

/-- **One step** of the polls. -/
def step (w : Watch) (e : Event) : Option Watch :=
  (Docker.step excluded w.sys (e.decode w.apiStats)).map fun sys => w.note excluded sys e

end Watch

end Machine

/-! ## What a poll is to return -/

/-- **The outcome of a poll is right**: the entries that are returned are those of the containers
whose last attempt succeeded, each once and with its values, and no others are left in the map. -/
structure Report.Right (r : Report) : Prop where
  returned : ∀ id stats, (id, stats) ∈ r.stats ↔
    id ∈ r.ids ∧ ∃ u, r.last id = some (.succeeded u) ∧ stats = u.stats
  once : (r.stats.map (·.1)).Nodup
  values : ∀ id u, r.last id = some (.succeeded u) → u.Carries ∧ u.ctr.idShort = id
  kept : ∀ id ∈ r.kept, id ∈ r.ids

/-- **A poll is clean**: no container's last attempt was answered and failed, and nothing foreign
shows in one that succeeded. -/
structure Report.Clean (r : Report) : Prop where
  answered : ∀ id ∈ r.ids, r.last id ≠ some (.failed true)
  unmixed : ∀ id u, r.last id = some (.succeeded u) → u.Unmixed

/-! ## The steps -/

section Step

variable {excluded : String → Bool} {s s' : State} {w w' : Watch} {p : Poll} {ctr : ApiInfo}

/-- **Entries stay apart.** -/
theorem separate_step {e : Docker.Event} (h : s.dm.Separate)
    (hs : Docker.step excluded s e = some s') : s'.dm.Separate := by
  cases step_move excluded hs with
  | begin => exact ⟨h.lt, h.inj⟩
  | @visit p ctr rest hp =>
    unfold visitContainer
    dsimp only
    split_ifs
    · exact h
    · exact (h.deleteEntry ctr.idShort).of_subset rfl fun _ _ ha => ha
    · exact h
  | @update p ctr attempt hp =>
    have hout := s.dm.updateContainerStats_outcome ctr p.key attempt
    unfold updateContainer
    generalize s.dm.updateContainerStats ctr p.key attempt = r at hout ⊢
    cases hout with
    | unopened => exact h
    | rejected opens => exact opens.separate h
    | updated opens => exact opens.separate h
  | @drop p ctr hp => exact h.deleteEntry ctr.idShort
  | retry => exact h
  | @finish p hp =>
    refine h.of_subset rfl fun id a ha => ?_
    have hlookup : a ∈ (s.dm.prune p.validIds).1.containerStatsMap.lookup id := ha
    rw [s.dm.prune_lookup] at hlookup
    split_ifs at hlookup with hid
    · exact hlookup
    · cases hlookup

/-- The containers of a poll that are still to be settled. -/
def unsettled (p : Poll) : List ApiInfo := p.running ++ p.failing ++ p.failed

/-- **A container is settled**: its entry is what its last attempt left. -/
def Settled (dm : DockerManager) (id : String) : Option Outcome → Prop
  | some (.succeeded u) => ∃ a ∈ dm.containerStatsMap.lookup id, dm.heap a = u.stats
  | some (.failed true) => (dm.containerStatsMap.lookup id).isSome
  | some (.failed false) => dm.containerStatsMap.lookup id = none
  | none => False

/-- The entry of a container stays what it is. -/
structure Stays (dm dm' : DockerManager) (id : String) : Prop where
  lookup : dm'.containerStatsMap.lookup id = dm.containerStatsMap.lookup id
  heap : ∀ a ∈ dm.containerStatsMap.lookup id, dm'.heap a = dm.heap a

theorem Settled.of_stays {dm dm' : DockerManager} {id : String} {o : Option Outcome}
    (h : Settled dm id o) (hs : Stays dm dm' id) : Settled dm' id o := by
  match o with
  | some (.succeeded u) =>
    obtain ⟨a, ha, hheap⟩ := h
    exact ⟨a, hs.lookup ▸ ha, (hs.heap a ha).trans hheap⟩
  | some (.failed true) => exact (congrArg Option.isSome hs.lookup).trans h
  | some (.failed false) => exact hs.lookup.trans h

/-- **The invariant of a poll** of containers that have ids of their own. -/
structure PollInv (excluded : String → Bool) (w : Watch) (p : Poll) : Prop where
  ids : (p.validIds ++ included excluded p.toVisit).Perm (included excluded w.listed)
  apart : ((unsettled p).map (·.idShort)).Nodup
  valid : ∀ c ∈ unsettled p, c.idShort ∈ p.validIds
  again : p.retrying = true → p.toVisit = [] ∧ p.failing = []
  deleted : ∀ c ∈ p.failed, w.sys.dm.containerStatsMap.lookup c.idShort = none
  retried : p.retrying = true →
    ∀ c ∈ p.running, w.sys.dm.containerStatsMap.lookup c.idShort = none
  settled : ∀ id ∈ p.validIds, id ∉ (unsettled p).map (·.idShort) →
    Settled w.sys.dm id (w.last id)

/-- **The invariant.** -/
structure Inv (excluded : String → Bool) (w : Watch) : Prop where
  separate : w.sys.dm.Separate
  values : ∀ id u, w.last id = some (.succeeded u) → u.Written ∧ u.ctr.idShort = id
  poll : ∀ p ∈ w.sys.poll, (included excluded w.listed).Nodup → PollInv excluded w p
  reports : ∀ r ∈ w.reports, r.ids.Nodup → (r.Right ↔ r.Clean)

theorem inv_init : Inv excluded .init where
  separate := Docker.inv_init.separate
  values _ _ h := nomatch h
  poll _ h := nomatch h
  reports _ h := nomatch h

theorem included_cons (ctr : ApiInfo) (rest : List ApiInfo) :
    included excluded (ctr :: rest) =
      if excluded ctr.name then included excluded rest
      else ctr.idShort :: included excluded rest := by
  unfold included
  cases h : excluded ctr.name <;> simp [h]

/-- A container that the loop comes to was not come to before. -/
theorem PollInv.fresh {rest : List ApiInfo} (h : PollInv excluded w p)
    (hnodup : (included excluded w.listed).Nodup) (htodo : p.toVisit = ctr :: rest)
    (hincluded : ¬ excluded ctr.name = true) : ctr.idShort ∉ p.validIds := by
  have hperm := (h.ids.nodup_iff).mpr hnodup
  rw [htodo, included_cons, if_neg hincluded] at hperm
  intro hmem
  exact (List.nodup_append.mp hperm).2.2 _ hmem _ List.mem_cons_self rfl

/-- An entry that is deleted is one container's. -/
theorem stays_deleteEntry {dm : DockerManager} {id id' : String} (hne : id' ≠ id) :
    Stays dm (dm.deleteEntry id) id' :=
  ⟨DockerManager.deleteEntry_lookup_of_ne hne, fun _ _ => rfl⟩

/-- **The loop comes to a container.** -/
theorem PollInv.visit {rest : List ApiInfo} (h : PollInv excluded w p)
    (hnodup : (included excluded w.listed).Nodup) (htodo : p.toVisit = ctr :: rest) :
    ∀ p' ∈ (visitContainer excluded w.sys p ctr rest).poll,
      PollInv excluded { w with sys := visitContainer excluded w.sys p ctr rest } p' := by
  have hids := h.ids
  rw [htodo, included_cons] at hids
  have hfirst : ¬ p.retrying = true := by
    intro hretrying
    rw [(h.again hretrying).1] at htodo
    cases htodo
  unfold visitContainer
  dsimp only
  by_cases hexcluded : excluded ctr.name = true
  · rw [if_pos hexcluded] at hids ⊢
    rintro p' ⟨⟩
    exact ⟨hids, h.apart, h.valid, fun hretrying => absurd hretrying hfirst, h.deleted, h.retried,
      h.settled⟩
  · rw [if_neg hexcluded] at hids ⊢
    have hfresh := h.fresh hnodup htodo hexcluded
    have hother : ∀ id ∈ p.validIds, id ≠ ctr.idShort := fun id hid heq => hfresh (heq ▸ hid)
    -- all that is known of other containers holds where only this one's entry may be deleted
    have hkey : ∀ s' : State, (∀ id ∈ p.validIds, Stays w.sys.dm s'.dm id) →
        PollInv excluded { w with sys := s' }
          { p with
            toVisit := rest
            running := ctr :: p.running
            validIds := ctr.idShort :: p.validIds } := by
      intro s' hstays
      constructor
      · refine List.Perm.trans ?_ hids
        exact List.perm_middle.symm
      · refine List.nodup_cons.mpr ⟨fun hmem => ?_, h.apart⟩
        obtain ⟨c, hc, heq⟩ := List.mem_map.mp hmem
        exact hother _ (h.valid c hc) heq
      · intro c hc
        rcases List.mem_cons.mp hc with rfl | hc
        · exact List.mem_cons_self
        · exact List.mem_cons_of_mem _ (h.valid c hc)
      · exact fun hretrying => absurd hretrying hfirst
      · intro c hc
        have hvalid := h.valid c (List.mem_append_right _ hc)
        exact (hstays _ hvalid).lookup.trans (h.deleted c hc)
      · exact fun hretrying => absurd hretrying hfirst
      · intro id hid hsettled
        have hne : id ≠ ctr.idShort := by
          rintro rfl
          exact hsettled List.mem_cons_self
        have hold := (List.mem_cons.mp hid).resolve_left hne
        exact (h.settled id hold fun hmem => hsettled (List.mem_cons_of_mem _ hmem)).of_stays
          (hstays id hold)
    split
    · rintro p' ⟨⟩
      refine hkey _ fun id hid => ?_
      have hstays : Stays w.sys.dm (w.sys.dm.deleteEntry ctr.idShort) id :=
        stays_deleteEntry (hother id hid)
      exact ⟨hstays.lookup, hstays.heap⟩
    · rintro p' ⟨⟩
      exact hkey _ fun _ _ => ⟨rfl, fun _ _ => rfl⟩

/-- **A container's first attempt failed, and its entry is deleted.** -/
theorem PollInv.drop (h : PollInv excluded w p) (hmem : ctr ∈ p.failing) :
    ∀ p' ∈ (dropContainer w.sys p ctr).poll,
      PollInv excluded { w with sys := dropContainer w.sys p ctr } p' := by
  have hperm : (unsettled p).Perm (unsettled { p with
      failing := p.failing.erase ctr, failed := ctr :: p.failed }) := by
    unfold unsettled
    rw [List.append_assoc, List.append_assoc]
    refine List.Perm.append_left _ ?_
    refine ((List.perm_cons_erase hmem).append_right _).trans ?_
    exact List.perm_middle.symm
  have hids := hperm.map (·.idShort)
  have hunsettled : ctr ∈ unsettled p :=
    List.mem_append_left _ (List.mem_append_right _ hmem)
  rintro p' ⟨⟩
  constructor
  · exact h.ids
  · exact hids.nodup_iff.mp h.apart
  · exact fun c hc => h.valid c (hperm.mem_iff.mpr hc)
  · intro hretrying
    rw [(h.again hretrying).2] at hmem
    cases hmem
  · intro c hc
    by_cases heq : c.idShort = ctr.idShort
    · rw [heq]
      exact DockerManager.deleteEntry_lookup_self _ _
    · rcases List.mem_cons.mp hc with rfl | hc
      · exact absurd rfl heq
      · exact (stays_deleteEntry heq).lookup.trans (h.deleted c hc)
  · intro hretrying
    rw [(h.again hretrying).2] at hmem
    cases hmem
  · intro id hid hsettled
    have hold : id ∉ (unsettled p).map (·.idShort) := fun hmem => hsettled (hids.mem_iff.mp hmem)
    refine (h.settled id hid hold).of_stays (stays_deleteEntry ?_)
    rintro rfl
    exact hold (List.mem_map.mpr ⟨ctr, hunsettled, rfl⟩)

/-- **The containers that failed are tried again.** -/
theorem PollInv.retry (h : PollInv excluded w p) (hwaited : p.waited) :
    PollInv excluded
      { w with sys := { w.sys with
        poll := some { p with running := p.failed, failed := [], retrying := true } } }
      { p with running := p.failed, failed := [], retrying := true } := by
  obtain ⟨htodo, hrunning, hfailing⟩ := hwaited
  have hsame : unsettled { p with running := p.failed, failed := [], retrying := true } =
      unsettled p := by
    unfold unsettled
    dsimp only
    rw [hrunning, hfailing, List.append_nil, List.append_nil]
    rfl
  constructor
  · exact h.ids
  · rw [hsame]
    exact h.apart
  · rw [hsame]
    exact h.valid
  · exact fun _ => ⟨htodo, hfailing⟩
  · exact fun _ hc => nomatch hc
  · exact fun _ => h.deleted
  · rw [hsame]
    exact h.settled

/-- An attempt leaves the entries of the other containers. -/
theorem stays_of_opens {dm dm' : DockerManager} {id id' : String} (hsep : dm.Separate)
    (hopens : dm.Opens id dm') (hne : id' ≠ id) : Stays dm dm' id' where
  lookup := hopens.lookup_of_ne hne
  heap a ha := hopens.heap a (hsep.ne_addrOf hne ha)

/-- **What an attempt leaves of the entry of its container**, and of the others. -/
theorem updated (hsep : s.dm.Separate) (key : UInt16) (ctr : ApiInfo) (apiStats : ApiStats)
    (answer : Answer) :
    (∀ id, id ≠ ctr.idShort →
        Stays s.dm (s.dm.updateContainerStats ctr key (answer.attempt apiStats)).1 id) ∧
      (((s.dm.updateContainerStats ctr key (answer.attempt apiStats)).2 = true ∨
          s.dm.containerStatsMap.lookup ctr.idShort = none) →
        Settled (s.dm.updateContainerStats ctr key (answer.attempt apiStats)).1 ctr.idShort
          (some (outcome s.dm apiStats key ctr answer))) := by
  generalize hattempt : answer.attempt apiStats = attempt
  have hout := s.dm.updateContainerStats_outcome ctr key attempt
  generalize hr : s.dm.updateContainerStats ctr key attempt = r at hout ⊢
  cases hout with
  | unopened =>
    refine ⟨fun _ _ => ⟨rfl, fun _ _ => rfl⟩, fun h => ?_⟩
    cases answer with
    | requestFailed => exact h.resolve_left Bool.false_ne_true
    | decodeFailed | decoded => cases hattempt
  | @rejected _ dm' opens _ request rejects =>
    refine ⟨fun _ hne => stays_of_opens hsep opens hne, fun _ => ?_⟩
    have houtcome : outcome s.dm apiStats key ctr answer = .failed true := by
      cases answer with
      | requestFailed => exact absurd hattempt.symm request
      | decodeFailed body => rfl
      | decoded now body =>
        rw [← hattempt] at rejects
        exact if_neg rejects
    rw [houtcome]
    exact Option.isSome_of_eq_some opens.lookup_self
  | @updated now res dm' opens _ _ _ accepts =>
    refine ⟨fun _ hne => stays_of_opens hsep opens hne, fun _ => ?_⟩
    cases answer with
    | requestFailed | decodeFailed => cases hattempt
    | decoded now' body =>
      have hdecoded : Attempt.decoded now' (body.decode apiStats) = .decoded now res := hattempt
      rw [outcome]
      dsimp only
      rw [hdecoded, if_pos accepts, hr]
      exact ⟨_, opens.lookup_self, rfl⟩

/-- **A container is attempted.** -/
theorem PollInv.update {answer : Answer} (h : PollInv excluded w p) (hsep : w.sys.dm.Separate)
    (hmem : ctr ∈ p.running) :
    ∀ p' ∈ (updateContainer w.sys p ctr (answer.attempt w.apiStats)).poll,
      PollInv excluded
        { w with
          sys := updateContainer w.sys p ctr (answer.attempt w.apiStats)
          apiStats := answer.leaves w.apiStats
          last := Function.update w.last ctr.idShort
            (some (outcome w.sys.dm w.apiStats p.key ctr answer)) } p' := by
  obtain ⟨hothers, hself⟩ := updated hsep p.key ctr w.apiStats answer
  generalize answer.attempt w.apiStats = attempt at hothers hself ⊢
  have hperm := List.perm_cons_erase hmem
  -- the other containers are those that were there before
  have hunsettled : (unsettled p).Perm
      (ctr :: (p.running.erase ctr ++ p.failing ++ p.failed)) := by
    unfold unsettled
    rw [List.append_assoc, List.append_assoc]
    exact hperm.append_right _
  have hids := hunsettled.map (·.idShort)
  have hnodup := hids.nodup_iff.mp h.apart
  have hvalid : ∀ c ∈ ctr :: (p.running.erase ctr ++ p.failing ++ p.failed),
      c.idShort ∈ p.validIds := fun c hc => h.valid c (hunsettled.mem_iff.mpr hc)
  have hne : ∀ c ∈ p.running.erase ctr ++ p.failing ++ p.failed, c.idShort ≠ ctr.idShort := by
    intro c hc heq
    exact (List.nodup_cons.mp hnodup).1 (List.mem_map.mpr ⟨c, hc, heq⟩)
  have hsettled : ∀ id ∈ p.validIds,
      id ∉ (ctr :: (p.running.erase ctr ++ p.failing ++ p.failed)).map (·.idShort) →
        Settled (w.sys.dm.updateContainerStats ctr p.key attempt).1 id
          (Function.update w.last ctr.idShort
            (some (outcome w.sys.dm w.apiStats p.key ctr answer)) id) := by
    intro id hid hnot
    have hne : id ≠ ctr.idShort := by
      rintro rfl
      exact hnot List.mem_cons_self
    rw [Function.update_of_ne hne]
    exact (h.settled id hid fun hmem => hnot (hids.mem_iff.mp hmem)).of_stays (hothers id hne)
  have hdeleted : ∀ c ∈ p.failed,
      (w.sys.dm.updateContainerStats ctr p.key attempt).1.containerStatsMap.lookup c.idShort =
        none := by
    intro c hc
    have hother := hne c (List.mem_append_right _ hc)
    exact (hothers _ hother).lookup.trans (h.deleted c hc)
  unfold updateContainer
  dsimp only
  by_cases hdone : (w.sys.dm.updateContainerStats ctr p.key attempt).2 = true ∨ p.retrying = true
  · rw [if_pos hdone]
    rintro p' ⟨⟩
    constructor
    · exact h.ids
    · exact (List.nodup_cons.mp hnodup).2
    · exact fun c hc => hvalid c (List.mem_cons_of_mem _ hc)
    · exact h.again
    · exact hdeleted
    · intro hretrying c hc
      have hother := hne c (List.mem_append_left _ (List.mem_append_left _ hc))
      exact (hothers _ hother).lookup.trans (h.retried hretrying c (List.mem_of_mem_erase hc))
    · intro id hid hnot
      by_cases heq : id = ctr.idShort
      · subst heq
        dsimp only
        rw [Function.update_self]
        exact hself (hdone.imp_right fun hretrying => h.retried hretrying ctr hmem)
      · exact hsettled id hid fun hin => hnot ((List.mem_cons.mp hin).resolve_left heq)
  · rw [if_neg hdone]
    have hfirst : ¬ p.retrying = true := fun hretrying => hdone (.inr hretrying)
    have hmoved : (unsettled { p with
        running := p.running.erase ctr, failing := ctr :: p.failing }).Perm
          (ctr :: (p.running.erase ctr ++ p.failing ++ p.failed)) := by
      unfold unsettled
      rw [List.append_assoc, List.append_assoc]
      exact List.perm_middle
    have hmovedIds := hmoved.map (·.idShort)
    rintro p' ⟨⟩
    constructor
    · exact h.ids
    · exact hmovedIds.nodup_iff.mpr hnodup
    · exact fun c hc => hvalid c (hmoved.mem_iff.mp hc)
    · exact fun hretrying => absurd hretrying hfirst
    · exact hdeleted
    · exact fun hretrying => absurd hretrying hfirst
    · exact fun id hid hnot => hsettled id hid fun hin => hnot (hmovedIds.mem_iff.mpr hin)

/-- What is returned are the entries of the valid containers. -/
theorem mem_prune_iff {dm : DockerManager} {validIds : List String} {id : String} {a : ℕ} :
    (id, a) ∈ (dm.prune validIds).2 ↔ id ∈ validIds ∧ a ∈ dm.containerStatsMap.lookup id := by
  have hlookup : (id, a) ∈ (dm.prune validIds).2 ↔
      a ∈ (dm.prune validIds).1.containerStatsMap.lookup id := by
    refine ⟨DockerManager.mem_prune, fun ha => ?_⟩
    exact List.mem_map.mpr ⟨⟨id, a⟩, AList.mem_lookup_iff.mp ha, rfl⟩
  rw [hlookup, dm.prune_lookup]
  split_ifs with hid
  · exact ⟨fun ha => ⟨hid, ha⟩, fun h => h.2⟩
  · exact ⟨fun ha => (nomatch ha), fun h => absurd h.1 hid⟩

/-- The entries of the valid containers are reported, with their statistics. -/
theorem mem_report_iff {id : String} {stats : Stats} : (id, stats) ∈ (w.report excluded p).stats ↔
    id ∈ p.validIds ∧ ∃ a ∈ w.sys.dm.containerStatsMap.lookup id, w.sys.dm.heap a = stats := by
  refine List.mem_map.trans ⟨?_, ?_⟩
  · rintro ⟨⟨id', a⟩, hmem, heq⟩
    obtain ⟨rfl, rfl⟩ := Prod.mk.inj heq
    obtain ⟨hid, ha⟩ := mem_prune_iff.mp hmem
    exact ⟨hid, a, ha, rfl⟩
  · rintro ⟨hid, a, ha, rfl⟩
    exact ⟨(id, a), mem_prune_iff.mpr ⟨hid, ha⟩, rfl⟩

theorem nodup_report : ((w.report excluded p).stats.map (·.1)).Nodup := by
  have hkeys : ((w.report excluded p).stats.map (·.1)) =
      (w.sys.dm.prune p.validIds).1.containerStatsMap.keys := by
    unfold Watch.report DockerManager.prune AList.keys List.keys
    dsimp only
    rw [List.map_map, List.map_map]
    rfl
  rw [hkeys]
  exact AList.keys_nodup _

theorem mem_validIds_of_kept {id : String} (hid : id ∈ (w.report excluded p).kept) :
    id ∈ p.validIds := by
  have hmem : id ∈ (w.sys.dm.prune p.validIds).1.containerStatsMap := AList.mem_keys.mpr hid
  obtain ⟨a, ha⟩ := Option.isSome_iff_exists.mp (AList.lookup_isSome.mpr hmem)
  rw [w.sys.dm.prune_lookup] at ha
  split_ifs at ha with hvalid
  exact hvalid

/-- **An entry is that of a success**, but for the placeholder of an attempt that was answered and
failed. -/
theorem Settled.heap_iff {dm : DockerManager} {id : String} {o : Option Outcome}
    (h : Settled dm id o) (hnot : o ≠ some (.failed true)) (stats : Stats) :
    (∃ a ∈ dm.containerStatsMap.lookup id, dm.heap a = stats) ↔
      ∃ u, o = some (.succeeded u) ∧ stats = u.stats := by
  match o with
  | some (.succeeded u) =>
    obtain ⟨a, ha, hheap⟩ := h
    constructor
    · rintro ⟨a', ha', rfl⟩
      obtain rfl : a = a' := Option.some.inj (ha.symm.trans ha')
      exact ⟨u, rfl, hheap⟩
    · rintro ⟨u', hu', rfl⟩
      obtain rfl := Outcome.succeeded.inj (Option.some.inj hu')
      exact ⟨a, ha, hheap⟩
  | some (.failed true) => exact absurd rfl hnot
  | some (.failed false) =>
    constructor
    · rintro ⟨a, ha, -⟩
      exact nomatch h.symm.trans ha
    · rintro ⟨u, hu, -⟩
      cases hu
  | none => exact h.elim

/-- **A poll is right where it is clean.** -/
theorem PollInv.report_iff (h : PollInv excluded w p)
    (hvalues : ∀ id u, w.last id = some (.succeeded u) → u.Written ∧ u.ctr.idShort = id)
    (hwaited : p.waited) (hfailed : p.failed = []) :
    (w.report excluded p).Right ↔ (w.report excluded p).Clean := by
  obtain ⟨htodo, hrunning, hfailing⟩ := hwaited
  have hids : ∀ id, id ∈ p.validIds ↔ id ∈ (w.report excluded p).ids := by
    intro id
    have hperm := h.ids
    rw [htodo, included, List.filter_nil, List.map_nil, List.append_nil] at hperm
    exact hperm.mem_iff
  have hsettled : ∀ id ∈ p.validIds, Settled w.sys.dm id (w.last id) := by
    intro id hid
    refine h.settled id hid ?_
    rw [unsettled, hrunning, hfailing, hfailed]
    exact List.not_mem_nil
  constructor
  · intro hright
    refine ⟨fun id hid hlast => ?_, fun id u hlast => ?_⟩
    · -- the entry of an attempt that was answered and failed is still there, and returned
      have hid' := (hids id).mpr hid
      have hplaceholder := hsettled id hid'
      have hlast' : w.last id = some (.failed true) := hlast
      rw [hlast'] at hplaceholder
      obtain ⟨a, ha⟩ := Option.isSome_iff_exists.mp hplaceholder
      obtain ⟨-, u, hu, -⟩ := (hright.returned id _).mp (mem_report_iff.mpr ⟨hid', a, ha, rfl⟩)
      rw [hlast] at hu
      cases hu
    · exact (hvalues id u hlast).1.carries_iff.mp (hright.values id u hlast).1
  · intro hclean
    refine ⟨fun id stats => ?_, nodup_report, fun id u hlast => ?_,
      fun id hid => (hids id).mp (mem_validIds_of_kept hid)⟩
    · rw [mem_report_iff, ← hids]
      exact and_congr_right fun hid =>
        (hsettled id hid).heap_iff (hclean.answered id ((hids id).mp hid)) stats
    · obtain ⟨hwritten, hid⟩ := hvalues id u hlast
      exact ⟨hwritten.carries_iff.mpr (hclean.unmixed id u hlast), hid⟩

/-- **One step keeps the invariant.** -/
theorem Inv.step {e : Event} (h : Inv excluded w) (hs : w.step excluded e = some w') :
    Inv excluded w' := by
  obtain ⟨sys, hsys, rfl⟩ := Option.map_eq_some_iff.mp hs
  have hsep := separate_step h.separate hsys
  cases hp : w.sys.poll with
  | none =>
    cases e with
    | begin key isWindows containers =>
      obtain ⟨-, rfl⟩ := guard_eq_some hsys
      refine ⟨hsep, fun _ _ hlast => absurd hlast.symm (Option.some_ne_none _), ?_, h.reports⟩
      rintro p' ⟨⟩ -
      exact ⟨.refl _, List.nodup_nil, fun _ hc => absurd hc List.not_mem_nil,
        fun hretrying => absurd hretrying Bool.false_ne_true,
        fun _ hc => absurd hc List.not_mem_nil, fun _ _ hc => absurd hc List.not_mem_nil,
        fun _ hid => absurd hid List.not_mem_nil⟩
    | visit | update | drop | retry | finish =>
      simp only [Event.decode, Docker.step, hp] at hsys
      cases hsys
  | some p =>
    have hpoll := h.poll p hp
    cases e with
    | begin =>
      obtain ⟨hidle, -⟩ := guard_eq_some hsys
      rw [hp] at hidle
      cases hidle
    | visit =>
      simp only [Event.decode, Docker.step, hp] at hsys
      split at hsys
      · rename_i ctr rest htodo
        obtain rfl := Option.some.inj hsys
        exact ⟨hsep, h.values, fun p' hp' hnodup => (hpoll hnodup).visit hnodup htodo p' hp',
          h.reports⟩
      · cases hsys
    | update ctr answer =>
      simp only [Event.decode, Docker.step, hp] at hsys
      obtain ⟨hmem, rfl⟩ := guard_eq_some hsys
      have hnote : w.note excluded (updateContainer w.sys p ctr (answer.attempt w.apiStats))
          (.update ctr answer) =
          { w with
            sys := updateContainer w.sys p ctr (answer.attempt w.apiStats)
            apiStats := answer.leaves w.apiStats
            last := Function.update w.last ctr.idShort
              (some (outcome w.sys.dm w.apiStats p.key ctr answer)) } := by
        rw [Watch.note, hp]
        rfl
      rw [hnote]
      refine ⟨hsep, fun id u hlast => ?_, fun p' hp' hnodup => ?_, h.reports⟩
      · dsimp only at hlast
        by_cases hid : id = ctr.idShort
        · subst hid
          rw [Function.update_self] at hlast
          obtain ⟨hwritten, hctr⟩ := written_of_outcome (Option.some.inj hlast)
          exact ⟨hwritten, congrArg ApiInfo.idShort hctr⟩
        · rw [Function.update_of_ne hid] at hlast
          exact h.values id u hlast
      · exact (hpoll hnodup).update h.separate hmem p' hp'
    | drop ctr =>
      simp only [Event.decode, Docker.step, hp] at hsys
      obtain ⟨hmem, rfl⟩ := guard_eq_some hsys
      exact ⟨hsep, h.values, fun p' hp' hnodup => (hpoll hnodup).drop hmem p' hp', h.reports⟩
    | retry =>
      simp only [Event.decode, Docker.step, hp] at hsys
      obtain ⟨⟨hwaited, -⟩, rfl⟩ := guard_eq_some hsys
      refine ⟨hsep, h.values, ?_, h.reports⟩
      rintro p' ⟨⟩ hnodup
      exact (hpoll hnodup).retry hwaited
    | finish =>
      simp only [Event.decode, Docker.step, hp] at hsys
      obtain ⟨⟨hwaited, hfailed⟩, rfl⟩ := guard_eq_some hsys
      refine ⟨hsep, h.values, fun p' hp' => absurd hp'.symm (Option.some_ne_none _),
        fun r hr hnodup => ?_⟩
      rw [Watch.note, hp] at hr
      rcases List.mem_cons.mp hr with rfl | hr
      · exact (hpoll hnodup).report_iff h.values hwaited hfailed
      · exact h.reports r hr hnodup

end Step

/-! ### A container that answers and fails twice -/

/-- A container of that name. -/
def container (name : String) : ApiInfo := ⟨name, name, "Up 5 minutes", "nginx"⟩

/-- An answer with that much memory used. -/
def answerOf (memUsage : UInt64) : Answer :=
  .decoded 0 ⟨some 0, none, [], none, none, some memUsage, none, none, none⟩

/-- Two containers, of which one fails at first; the second attempt is as given. -/
def pollTwice (answer : Answer) : List Event :=
  [.begin 60000 false [container "web", container "db"], .visit, .visit,
    .update (container "db") (answerOf 0), .update (container "web") (answerOf 1048576),
    .drop (container "db"), .retry, .update (container "db") answer, .finish]

end Entries

end Docker

end Agent

end Beszel
