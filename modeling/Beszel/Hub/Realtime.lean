import Beszel.Hub.Fetch
import Beszel.Machinery.Run
import Mathlib.Logic.Function.Basic

/-!
# Hub/Realtime — the updater and the realtime worker share `sys.data`

    update:    request ──▸ decode ──▸ stats ──▸ containers ──▸ … ──▸ info ──hook──▸ alerts
                             ▼           ▲          ▲                ▲               ▲
    sys.data ════════════════╪═══════════╧══════════╧════════════════╧═══════════════╧═════
                             ▲                 ▲
    realtime:  request ──▸ decode           decode

`update` and `createRecords` of `internal/hub/systems/system.go`, `fetchRealtimeDataAndNotify` of
`system_realtime.go` and the alerts of the record hook.  Every fetch decodes into the one `sys.data`
of the instance, and what an update stores is read from there afterwards, part by part.  A step is
one write or one read of it.
-/

namespace Beszel

open Machinery

namespace Realtime

open Machinery.Wire Entities Fetch
open Encoding (cborFormat jsonFormat)

/-! ## The machine -/

/-- What `createRecords`, and then the hook of its save, read of `sys.data`, in this order. -/
inductive Part
  | stats
  | containers
  | systemdServices
  | details
  | info
  | alerts
  deriving DecidableEq, Repr

/-- The next read. -/
def Part.next : Part → Option Part
  | .stats => some .containers
  | .containers => some .systemdServices
  | .systemdServices => some .details
  | .details => some .info
  | .info => some .alerts
  | .alerts => none

/-- Two contents of `sys.data` agree in the part; the alerts look at all of it. -/
def Part.Same (a b : combinedData.Val) : Part → Prop
  | .stats => Entities.stats.Same (a 0) (b 0)
  | .info => Entities.info.Same (a 1) (b 1)
  | .containers => (Ty.slice (.ptr containerStats)).Same (a 2) (b 2)
  | .systemdServices => (Ty.slice (.ptr service)).Same (a 3) (b 3)
  | .details => (Ty.ptr Entities.details).Same (a 4) (b 4)
  | .alerts => combinedData.Same a b

/-- Where a fetch is: waiting for its answer — over SSH it may have reset `sys.data` for it — or, in
an update, before a read of what it has decoded. -/
inductive Phase
  | fetching (reset : Bool)
  | reading (part : Part)
  deriving DecidableEq, Repr

/-- A fetch of the updater or of the realtime worker, with the agent's answer to its own request and
the path the answer takes. -/
structure Fetching where
  realtime : Bool
  path : Path
  sample : combinedData.Val
  phase : Phase

/-- A part that an update has read to store it, or to hand it to the alerts. -/
structure Stored where
  part : Part
  seen : combinedData.Val
  sample : combinedData.Val

/-- `fetches` has the fetches in progress, by a number. -/
structure State where
  data : combinedData.Val
  fetches : ℕ → Option Fetching
  log : List Stored

/-- An instance on which nothing is in progress. -/
def State.init (data : combinedData.Val) : State := ⟨data, fun _ => none, []⟩

/-- What can happen: a fetch begins, resets `sys.data`, leaves a content of a decoding that failed,
decodes its answer, reads a part, or is given up. -/
inductive Event
  | begin (n : ℕ) (realtime : Bool) (path : Path) (sample : combinedData.Val)
  | reset (n : ℕ)
  | spoil (n : ℕ) (content : combinedData.Val)
  | decode (n : ℕ)
  | read (n : ℕ)
  | fail (n : ℕ)

/-- The paths of `fetchDataViaSSH`. -/
def isSsh : Path → Bool
  | .sshSystemData | .sshCbor | .sshJson => true
  | .wsSystemData | .wsData | .wsRaw => false

/-- The path decodes into the content that its own reset left. -/
def usesReset : Path → Bool
  | .sshCbor | .sshJson => true
  | _ => false

section Steps

variable (replace : { b : ByteArray // b.validateUTF8 = false } → String)

/-- `sys.data` after the answer is decoded: the typed field of a response replaces it, everything
else is decoded into what is there. -/
def decode (data sample : combinedData.Val) : Path → combinedData.Val
  | .wsSystemData | .sshSystemData => combinedData.merge cborFormat combinedData.zero sample
  | .wsData | .wsRaw | .sshCbor => combinedData.merge cborFormat data sample
  | .sshJson => combinedData.merge (jsonFormat replace) data sample

/-- The fetch goes on, or ends. -/
def State.put (s : State) (n : ℕ) (f : Option Fetching) : ℕ → Option Fetching :=
  Function.update s.fetches n f

/-- **One event.**  A realtime fetch stores nothing. -/
def step (s : State) : Event → Option State
  | .begin n realtime path sample =>
    match s.fetches n with
    | none => some { s with fetches := s.put n (some ⟨realtime, path, sample, .fetching false⟩) }
    | some _ => none
  | .reset n =>
    match s.fetches n with
    | some ⟨realtime, path, sample, .fetching _⟩ =>
      if isSsh path then
        some { s with
          data := combinedData.zero
          fetches := s.put n (some ⟨realtime, path, sample, .fetching true⟩) }
      else none
    | _ => none
  | .spoil n content =>
    match s.fetches n with
    | some ⟨realtime, path, sample, .fetching _⟩ =>
      if isSsh path then
        some { s with
          data := content
          fetches := s.put n (some ⟨realtime, path, sample, .fetching false⟩) }
      else none
    | _ => none
  | .decode n =>
    match s.fetches n with
    | some ⟨realtime, path, sample, .fetching reset⟩ =>
      if isSsh path = reset then
        some { s with
          data := decode replace s.data sample path
          fetches := s.put n
            (if realtime then none else some ⟨false, path, sample, .reading .stats⟩) }
      else none
    | _ => none
  | .read n =>
    match s.fetches n with
    | some ⟨realtime, path, sample, .reading part⟩ =>
      some { s with
        log := ⟨part, s.data, sample⟩ :: s.log
        fetches := s.put n (part.next.map fun part => ⟨realtime, path, sample, .reading part⟩) }
    | _ => none
  | .fail n => some { s with fetches := s.put n none }

/-! ## Whose answer is stored -/

/-- **The part is that of the update's own answer.** -/
def Stored.Own (st : Stored) : Prop := st.part.Same st.seen st.sample

/-- No other update has decoded its answer and not yet read all of it. -/
def Undisturbing (s : State) (n : ℕ) : Prop :=
  ∀ m f part, m ≠ n → s.fetches m = some f → f.phase ≠ .reading part

/-- `sys.data` is written only while no other update is between its decoding and its last read; and
an update decodes on a path that delivers its answer as it is, over SSH into what its own reset
left. -/
def Apart (s : State) : Event → Prop
  | .reset n | .spoil n _ => Undisturbing s n
  | .decode n => Undisturbing s n ∧ ∀ f, s.fetches n = some f → f.realtime = false →
      f.path.Faithful replace (some s.data) f.sample ∧
        (usesReset f.path = true → s.data = combinedData.zero)
  | _ => True

/-- What runs apart keep: while an update reads, `sys.data` is its own answer. -/
structure Inv (s : State) : Prop where
  own : ∀ st ∈ s.log, st.Own
  reading : ∀ n f part, s.fetches n = some f → f.phase = .reading part →
    combinedData.Same s.data f.sample

end Steps

section Proofs

variable {replace : { b : ByteArray // b.validateUTF8 = false } → String} {s s' : State} {e : Event}
  {n : ℕ}

/-- **The decoding of a fetch that nobody disturbs** is the result of its path in `Hub/Fetch`. -/
theorem decode_eq_result {data sample : combinedData.Val} {path : Path}
    (h : usesReset path = true → data = combinedData.zero) :
    decode replace data sample path = path.result replace (some data) sample := by
  cases path with
  | wsSystemData | wsData | wsRaw | sshSystemData => rfl
  | sshCbor | sshJson =>
    obtain rfl := h rfl
    rfl

/-- What agrees agrees in every part. -/
theorem part_same {a b : combinedData.Val} (h : combinedData.Same a b) (part : Part) :
    part.Same a b := by
  cases part with
  | stats => exact h 0
  | info => exact h 1
  | containers => exact h 2
  | systemdServices => exact h 3
  | details => exact h 4
  | alerts => exact h

theorem inv_init (data : combinedData.Val) : Inv (State.init data) := ⟨nofun, nofun⟩

theorem put_eq_some {m : ℕ} {f : Option Fetching} {g : Fetching} (h : s.put n f m = some g) :
    m = n ∧ f = some g ∨ m ≠ n ∧ s.fetches m = some g := by
  rw [State.put, Function.update_apply] at h
  split_ifs at h with hmn
  · exact .inl ⟨hmn, h⟩
  · exact .inr ⟨hmn, h⟩

/-- **A write** of a fetch that is not reading afterwards, or has written its own answer. -/
theorem Inv.write (hs : Inv s) (hapart : Undisturbing s n) {data : combinedData.Val}
    {f : Option Fetching}
    (hf : ∀ g ∈ f, ∀ part, g.phase = .reading part → combinedData.Same data g.sample) :
    Inv { s with data := data, fetches := s.put n f } := by
  refine ⟨hs.own, fun m g part hg hphase => ?_⟩
  obtain ⟨-, hg⟩ | ⟨hmn, hg⟩ := put_eq_some hg
  · exact hf g hg part hphase
  · exact absurd hphase (hapart m g part hmn hg)

/-- A fetch goes on without a write. -/
theorem Inv.go (hs : Inv s) {f : Option Fetching} {log : List Stored} (hlog : ∀ st ∈ log, st.Own)
    (hf : ∀ g ∈ f, ∀ part, g.phase = .reading part → combinedData.Same s.data g.sample) :
    Inv { s with fetches := s.put n f, log := log } := by
  refine ⟨hlog, fun m g part hg hphase => ?_⟩
  obtain ⟨-, hg⟩ | ⟨-, hg⟩ := put_eq_some hg
  · exact hf g hg part hphase
  · exact hs.reading m g part hg hphase

/-- **One step apart.** -/
theorem Inv.step (hs : Inv s) (hok : Apart replace s e) (h : step replace s e = some s') :
    Inv s' := by
  cases e with
  | begin n realtime path sample =>
    simp only [Realtime.step] at h
    split at h
    · obtain rfl := Option.some.inj h
      refine hs.go hs.own fun g hg part hphase => ?_
      obtain rfl := Option.some.inj hg
      cases hphase
    · cases h
  | reset n =>
    simp only [Realtime.step] at h
    split at h
    · split_ifs at h
      obtain rfl := Option.some.inj h
      refine hs.write hok fun g hg part hphase => ?_
      obtain rfl := Option.some.inj hg
      cases hphase
    · cases h
  | spoil n content =>
    simp only [Realtime.step] at h
    split at h
    · split_ifs at h
      obtain rfl := Option.some.inj h
      refine hs.write hok fun g hg part hphase => ?_
      obtain rfl := Option.some.inj hg
      cases hphase
    · cases h
  | decode n =>
    obtain ⟨hapart, hown⟩ := hok
    simp only [Realtime.step] at h
    split at h
    · rename_i realtime path sample reset hf
      split_ifs at h with _ hrt <;> obtain rfl := Option.some.inj h
      · exact hs.write hapart nofun
      · refine hs.write hapart fun g hg part _ => ?_
        obtain rfl := Option.some.inj hg
        obtain ⟨hfaithful, hreset⟩ := hown _ hf (Bool.eq_false_of_not_eq_true hrt)
        rw [decode_eq_result hreset]
        exact same_result_iff.mpr hfaithful
    · cases h
  | read n =>
    simp only [Realtime.step] at h
    split at h
    · rename_i realtime path sample part hf
      obtain rfl := Option.some.inj h
      have hsame : combinedData.Same s.data sample := hs.reading n _ part hf rfl
      refine hs.go (fun st hst => ?_) fun g hg _ _ => ?_
      · obtain rfl | hst := List.mem_cons.mp hst
        · exact part_same hsame part
        · exact hs.own st hst
      · obtain ⟨part', -, rfl⟩ := Option.map_eq_some_iff.mp hg
        exact hsame
    · cases h
  | fail n =>
    obtain rfl := Option.some.inj h
    exact hs.go hs.own nofun

/-- **What an update stores is its own answer** in every run whose writes are apart, with any
content of `sys.data` at the start. -/
theorem own_of_along {data : combinedData.Val} {es : List Event}
    (hok : Along (step replace) (Apart replace) (State.init data) es)
    (hr : run (step replace) (State.init data) es = some s) : ∀ st ∈ s.log, st.Own :=
  (inv_of_along (fun hs hok h => hs.step hok h) (inv_init data) hok hr).own

end Proofs

/-- The updater fetches a sample that is all zero and stores its statistics. -/
def zeroCycle : List Event := [.begin 0 false .wsSystemData combinedData.zero, .decode 0, .read 0]

/-- A realtime fetch finds three package updates. -/
def realtimeFetch : List Event := [.begin 1 true .wsSystemData threeUpdates, .decode 1]

/-- The updater reads on, up to the info. -/
def readOn : List Event := [.read 0, .read 0, .read 0, .read 0]

/-- While the updater waits for a sample with three package updates, a realtime fetch of another
sample is decoded; a second one waits while the updater stores what it got. -/
def overlappingCycle : List Event :=
  [.begin 0 false .wsSystemData threeUpdates, .begin 1 true .wsData rebootRequired, .decode 1,
    .decode 0, .begin 1 true .wsData rebootRequired, .read 0, .read 0, .read 0, .read 0, .read 0,
    .read 0, .decode 1]

theorem own_of_along_overlappingCycle :
    ∃ s, run (step fun _ => "") (State.init combinedData.zero) overlappingCycle = some s ∧
      s.log.map Stored.part =
        [.alerts, .info, .details, .systemdServices, .containers, .stats] ∧
        s.log.map Stored.sample = List.replicate 6 threeUpdates ∧ ∀ st ∈ s.log, st.Own := by
  suffices hok : Along (step fun _ => "") (Apart fun _ => "") (State.init combinedData.zero)
      overlappingCycle from ⟨_, rfl, rfl, rfl, own_of_along hok rfl⟩
  refine .cons trivial rfl <| .cons trivial rfl <| .cons ⟨?_, ?_⟩ rfl <| .cons ⟨?_, ?_⟩ rfl <|
    .cons trivial rfl <| .cons trivial rfl <| .cons trivial rfl <| .cons trivial rfl <|
      .cons trivial rfl <| .cons trivial rfl <| .cons trivial rfl <|
        .cons ⟨?_, ?_⟩ rfl (along_nil _)
  · intro m f part hm hf
    simp only [State.put, Function.update_apply, State.init] at hf
    split_ifs at hf <;> cases hf <;> exact nofun
  · intro f hf hrt
    obtain rfl := Option.some.inj hf
    cases hrt
  · intro m f part hm hf
    simp only [State.put, Function.update_apply, State.init] at hf
    split_ifs at hf
  · intro f hf _
    obtain rfl := Option.some.inj hf
    exact ⟨carried_threeUpdates, nofun⟩
  · intro m f part hm hf
    simp only [State.put, Function.update_apply, State.init] at hf
    split_ifs at hf
    cases hf
  · intro f hf hrt
    obtain rfl := Option.some.inj hf
    cases hrt

/-- **A realtime answer that is decoded between two reads** of an update is stored in the update's
place. -/
theorem not_own_realtimeFetch :
    ∃ s, run (step fun _ => "") (State.init combinedData.zero)
        (zeroCycle ++ realtimeFetch ++ readOn) = some s ∧ ¬ ∀ st ∈ s.log, st.Own := by
  refine ⟨_, rfl, fun h => ?_⟩
  have hinfo := h _ List.mem_cons_self
  have h24 : (3 : BitVec 16) = 0 := hinfo 24
  exact absurd h24 (by decide)

end Realtime

end Beszel
