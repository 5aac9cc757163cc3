import Beszel.Machinery.Run
import Mathlib.Data.Int.Order.Basic
import Mathlib.Data.List.Basic
import Mathlib.Tactic.SplitIfs

/-!
# Hub/SmartFetch — when the SMART data of a system is fetched

    Load ──▸ loaded ──time.Since──▸ due ──CompareAndSwap──▸ spawned ──Store──▸ fetching ──Store──▸ ∙
                        ╰──▸ ∙              ╰──▸ ∙

The end of `update` in `internal/hub/systems/system.go`.  The updater of a system and the resumption
of a paused one may both be in `update`, so any number of updates read `lastSmartFetch` and
`smartFetching`, and the goroutine that one of them starts writes both.  Times are nanoseconds.
-/

namespace Beszel

open Machinery

namespace SmartFetch

/-- `time.Hour`. -/
def hour : ℤ := 3600000000000

/-- `Time.UnixMilli`. -/
def unixMilli (t : ℤ) : ℤ := t / 1000000

/-- An update that read `lastSmartFetch`, and when it did. -/
structure Loaded where
  loadedAt : ℤ
  lastFetch : ℤ
  deriving DecidableEq

/-- One for which enough time has passed, as `smartInterval` was then. -/
structure Due extends Loaded where
  interval : ℤ
  deriving DecidableEq

/-- A fetch that began. -/
structure Fetch where
  due : Due
  began : ℤ

/-- The fields of a `System` that are about the fetch, the updates that are about to decide, the
goroutines that are about to begin, how many are fetching, and the fetches so far, newest first. -/
structure State where
  now : ℤ
  smartFetching : Bool
  smartInterval : ℤ
  lastSmartFetch : ℤ
  loaded : List Loaded
  due : List Due
  spawned : List Due
  fetching : ℕ
  fetches : List Fetch

/-- A new `System`. -/
def State.init (now : ℤ) : State := ⟨now, false, 0, 0, [], [], [], 0, []⟩

/-- What can happen next. -/
inductive Event
  | tick (d : ℕ)
  | details (smartInterval : ℤ)
  | load
  | compare (u : Loaded)
  | swap (u : Due)
  | begin (u : Due)
  | finish

/-- **One step.**  `details` is what `createRecords` does with the details of a system. -/
def step (s : State) : Event → Option State
  | .tick d => some { s with now := s.now + d }
  | .details smartInterval =>
    some { s with smartInterval := if smartInterval > 0 then smartInterval else s.smartInterval }
  | .load =>
    some { s with
      smartInterval := if s.smartInterval ≤ 0 then hour else s.smartInterval
      loaded := ⟨s.now, s.lastSmartFetch⟩ :: s.loaded }
  | .compare u =>
    if u ∈ s.loaded then
      some { s with
        loaded := s.loaded.erase u
        due := if s.now - u.lastFetch * 1000000 ≥ s.smartInterval then
          ⟨u, s.smartInterval⟩ :: s.due else s.due }
    else none
  | .swap u =>
    if u ∈ s.due then
      if s.smartFetching then some { s with due := s.due.erase u }
      else some { s with
        smartFetching := true, due := s.due.erase u, spawned := u :: s.spawned }
    else none
  | .begin u =>
    if u ∈ s.spawned then
      some { s with
        lastSmartFetch := unixMilli s.now
        spawned := s.spawned.erase u
        fetching := s.fetching + 1
        fetches := ⟨u, s.now⟩ :: s.fetches }
    else none
  | .finish =>
    if 0 < s.fetching then some { s with smartFetching := false, fetching := s.fetching - 1 }
    else none

/-! ## What every run keeps -/

/-- What an update read is not older than any fetch that had begun. -/
def Loaded.Fresh (fetches : List Fetch) (now : ℤ) (u : Loaded) : Prop :=
  u.loadedAt ≤ now ∧ ∀ a ∈ fetches, a.began < u.loadedAt → unixMilli a.began ≤ u.lastFetch

/-- And its interval has passed. -/
structure Due.Ready (fetches : List Fetch) (now : ℤ) (u : Due) : Prop where
  fresh : u.toLoaded.Fresh fetches now
  positive : 0 < u.interval
  passed : u.lastFetch * 1000000 + u.interval ≤ now

/-- Two fetches, of which `a` began first: if it had begun when the update of `b` read the time of
the last one, then `b` began an interval later, but for the millisecond that the reading is rounded
to. -/
def Fetch.Spaced (b a : Fetch) : Prop :=
  a.began ≤ b.began ∧
    (a.began < b.due.loadedAt → a.began + b.due.interval < b.began + 1000000)

/-- **What every run keeps.** -/
structure Inv (s : State) : Prop where
  single : s.spawned.length + s.fetching = if s.smartFetching then 1 else 0
  last : ∀ a ∈ s.fetches, a.began ≤ s.now ∧ unixMilli a.began ≤ s.lastSmartFetch
  interval : s.loaded ≠ [] → 0 < s.smartInterval
  loaded : ∀ u ∈ s.loaded, u.Fresh s.fetches s.now
  due : ∀ u ∈ s.due, u.Ready s.fetches s.now
  spawned : ∀ u ∈ s.spawned, u.Ready s.fetches s.now
  positive : ∀ a ∈ s.fetches, 0 < a.due.interval
  spaced : s.fetches.Pairwise Fetch.Spaced

section Steps

variable {s s' : State} {fetches : List Fetch} {now later : ℤ}

theorem Loaded.Fresh.mono {u : Loaded} (h : u.Fresh fetches now) (hnow : now ≤ later) :
    u.Fresh fetches later := ⟨le_trans h.1 hnow, h.2⟩

theorem Due.Ready.mono {u : Due} (h : u.Ready fetches now) (hnow : now ≤ later) :
    u.Ready fetches later := ⟨h.fresh.mono hnow, h.positive, le_trans h.passed hnow⟩

/-- A fetch that begins now began after everything that was read. -/
theorem Loaded.Fresh.cons {u : Loaded} (h : u.Fresh fetches now) (due : Due) :
    u.Fresh (⟨due, now⟩ :: fetches) now :=
  ⟨h.1, List.forall_mem_cons.mpr ⟨fun hlt => absurd h.1 (not_le.mpr hlt), h.2⟩⟩

theorem Due.Ready.cons {u : Due} (h : u.Ready fetches now) (due : Due) :
    u.Ready (⟨due, now⟩ :: fetches) now := ⟨h.fresh.cons due, h.positive, h.passed⟩

theorem Inv.tick (h : Inv s) (d : ℕ) : Inv { s with now := s.now + d } := by
  have hnow : s.now ≤ s.now + d := by omega
  exact { h with
    last := fun a ha => ⟨le_trans (h.last a ha).1 hnow, (h.last a ha).2⟩
    loaded := fun u hu => (h.loaded u hu).mono hnow
    due := fun u hu => (h.due u hu).mono hnow
    spawned := fun u hu => (h.spawned u hu).mono hnow }

theorem Inv.load (h : Inv s) (hs : step s .load = some s') : Inv s' := by
  obtain rfl := Option.some.inj hs
  refine { h with interval := fun _ => ?_, loaded := ?_ }
  · change 0 < if s.smartInterval ≤ 0 then hour else s.smartInterval
    split_ifs with hpos
    · decide
    · exact not_le.mp hpos
  · exact List.forall_mem_cons.mpr
      ⟨⟨le_refl _, fun a ha _ => (h.last a ha).2⟩, h.loaded⟩

theorem Inv.compare {u : Loaded} (h : Inv s) (hs : step s (.compare u) = some s') : Inv s' := by
  obtain ⟨hu, rfl⟩ := guard_eq_some hs
  have hpos : 0 < s.smartInterval := h.interval (List.ne_nil_of_mem hu)
  refine { h with interval := fun _ => hpos, loaded := ?_, due := ?_ }
  · exact fun v hv => h.loaded v (List.mem_of_mem_erase hv)
  · dsimp only
    split_ifs with hpassed
    · refine List.forall_mem_cons.mpr ⟨⟨h.loaded u hu, hpos, ?_⟩, h.due⟩
      dsimp only
      omega
    · exact h.due

theorem Inv.swap {u : Due} (h : Inv s) (hs : step s (.swap u) = some s') : Inv s' := by
  obtain ⟨hu, hs⟩ := Option.ite_none_right_eq_some.mp hs
  have hdue : ∀ v ∈ s.due.erase u, v.Ready s.fetches s.now :=
    fun v hv => h.due v (List.mem_of_mem_erase hv)
  split_ifs at hs with hfetching
  · obtain rfl := Option.some.inj hs
    exact { h with due := hdue }
  · obtain rfl := Option.some.inj hs
    have hnone := h.single
    rw [if_neg hfetching] at hnone
    refine { h with due := hdue, single := ?_, spawned := ?_ }
    · dsimp only
      rw [List.length_cons, if_pos rfl]
      omega
    · exact List.forall_mem_cons.mpr ⟨h.due u hu, h.spawned⟩

/-- **A fetch that begins is spaced** from all that began before. -/
theorem Inv.spaced_begin {u : Due} (h : Inv s) (hu : u ∈ s.spawned) :
    ∀ a ∈ s.fetches, Fetch.Spaced ⟨u, s.now⟩ a := by
  intro a ha
  refine ⟨(h.last a ha).1, fun hlt => ?_⟩
  have hready := h.spawned u hu
  have hfresh := hready.fresh.2 a ha hlt
  have hpassed := hready.passed
  unfold unixMilli at hfresh
  dsimp only
  omega

theorem Inv.begin {u : Due} (h : Inv s) (hs : step s (.begin u) = some s') : Inv s' := by
  obtain ⟨hu, rfl⟩ := guard_eq_some hs
  have hmono : ∀ a ∈ s.fetches, unixMilli a.began ≤ unixMilli s.now :=
    fun a ha => Int.ediv_le_ediv (by decide) (h.last a ha).1
  refine
    { single := ?_
      last := List.forall_mem_cons.mpr ⟨⟨le_refl _, le_refl _⟩,
        fun a ha => ⟨(h.last a ha).1, hmono a ha⟩⟩
      interval := h.interval
      loaded := fun v hv => (h.loaded v hv).cons u
      due := fun v hv => (h.due v hv).cons u
      spawned := fun v hv => (h.spawned v (List.mem_of_mem_erase hv)).cons u
      positive := List.forall_mem_cons.mpr ⟨(h.spawned u hu).positive, h.positive⟩
      spaced := List.pairwise_cons.mpr ⟨h.spaced_begin hu, h.spaced⟩ }
  have hlength := List.length_erase_of_mem hu
  have hpos := List.length_pos_of_mem hu
  have hsingle := h.single
  dsimp only
  omega

theorem Inv.finish (h : Inv s) (hs : step s .finish = some s') : Inv s' := by
  obtain ⟨hpos, rfl⟩ := guard_eq_some hs
  refine { h with single := ?_ }
  have hsingle := h.single
  dsimp only
  rw [if_neg Bool.false_ne_true]
  split_ifs at hsingle <;> omega

theorem Inv.step {e : Event} (h : Inv s) (hs : step s e = some s') : Inv s' := by
  cases e with
  | tick d =>
    obtain rfl := Option.some.inj hs
    exact h.tick d
  | details smartInterval =>
    obtain rfl := Option.some.inj hs
    refine { h with interval := fun hne => ?_ }
    change 0 < if smartInterval > 0 then smartInterval else s.smartInterval
    split_ifs with hpos
    · exact hpos
    · exact h.interval hne
  | load => exact h.load hs
  | compare u => exact h.compare hs
  | swap u => exact h.swap hs
  | begin u => exact h.begin hs
  | finish => exact h.finish hs

end Steps

theorem inv_init (now : ℤ) : Inv (.init now) where
  single := rfl
  last := fun _ h => nomatch h
  interval := fun h => absurd rfl h
  loaded := fun _ h => nomatch h
  due := fun _ h => nomatch h
  spawned := fun _ h => nomatch h
  positive := fun _ h => nomatch h
  spaced := .nil

/-- **Fetches are single and spaced.**  However many updates decide at a time, at most one goroutine
is about to fetch or fetching; and a fetch begins less than an interval after another, by more than
the rounding, only where its update had read the time of the last one before that other began. -/
theorem fetches_spaced {now : ℤ} {events : List Event} {s : State}
    (h : run step (.init now) events = some s) :
    s.spawned.length + s.fetching ≤ 1 ∧
      (∀ a ∈ s.fetches, 0 < a.due.interval) ∧ s.fetches.Pairwise Fetch.Spaced := by
  have hinv : Inv s := inv_of_run Inv.step (inv_init now) h
  refine ⟨?_, hinv.positive, hinv.spaced⟩
  rw [hinv.single]
  split_ifs <;> decide

/-- Two updates: the second one read before the fetch of the first, and fetches at once. -/
theorem fetches_spaced_two :
    ∃ s, run step (.init 10) [.details 5, .load, .load, .compare ⟨10, 0⟩, .compare ⟨10, 0⟩,
        .swap ⟨⟨10, 0⟩, 5⟩, .begin ⟨⟨10, 0⟩, 5⟩, .finish, .swap ⟨⟨10, 0⟩, 5⟩,
        .begin ⟨⟨10, 0⟩, 5⟩] = some s ∧
      s.fetches.length = 2 ∧ s.spawned.length + s.fetching ≤ 1 ∧
      s.fetches.Pairwise Fetch.Spaced := by
  obtain ⟨s, hs⟩ : ∃ s, run step (.init 10) [.details 5, .load, .load, .compare ⟨10, 0⟩,
      .compare ⟨10, 0⟩, .swap ⟨⟨10, 0⟩, 5⟩, .begin ⟨⟨10, 0⟩, 5⟩, .finish,
      .swap ⟨⟨10, 0⟩, 5⟩, .begin ⟨⟨10, 0⟩, 5⟩] = some s := ⟨_, rfl⟩
  obtain ⟨hsingle, -, hspaced⟩ := fetches_spaced hs
  refine ⟨s, hs, ?_, hsingle, hspaced⟩
  rw [← Option.some.inj hs]
  rfl

end SmartFetch

end Beszel
