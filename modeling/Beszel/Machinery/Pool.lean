import Beszel.Machinery.Run
import Mathlib.Data.List.Perm.Basic
import Mathlib.Tactic.Linarith

/-!
# Machinery/Pool — a loop that starts workers, which send to a bounded channel

    jobs ──loop──▸ waiting ──semaphore──▸ working ──send──▸ results
            ╰──────────────── inline ───────────────send──▸╯

A loop sends the result of some jobs itself and starts a worker for each of the others; a worker
waits for one of `limit` places, does its work, sends the result and gives the place back.  The
channel holds `capacity` results and nobody receives before all is done.  If it holds one for every
job then no send blocks (`exists_step`), every run comes to its end (`exists_run_done`,
`length_le_of_run`), and at the end there is the result of every job, in some order
(`perm_of_done`).
-/

namespace Machinery

/-- How jobs are done. -/
structure Pool (α β : Type*) where
  limit : ℕ
  capacity : ℕ
  inline : α → Bool
  work : α → β

namespace Pool

variable {α β : Type*}

/-- The jobs the loop has not come to, the workers that wait for a place, those that work, how many
have sent their result and not given their place back, and the channel. -/
structure State (α β : Type*) where
  pending : List α
  waiting : List α
  working : List α
  sent : ℕ
  results : List β
  deriving DecidableEq

/-- What can happen next: the loop goes on to its next job, or a worker goes on. -/
inductive Event (α : Type*)
  | next
  | acquire (a : α)
  | send (a : α)
  | release

/-- Before the loop. -/
def State.init (jobs : List α) : State α β := ⟨jobs, [], [], 0, []⟩

/-- The loop is over, and all workers are. -/
def State.Done (s : State α β) : Prop :=
  s.pending = [] ∧ s.waiting = [] ∧ s.working = [] ∧ s.sent = 0

/-- The jobs without a result. -/
def State.unfinished (s : State α β) : List α := s.pending ++ (s.waiting ++ s.working)

/-- How many steps are left. -/
def State.left (s : State α β) : ℕ :=
  4 * s.pending.length + 3 * s.waiting.length + 2 * s.working.length + s.sent

section Invariant

variable {p : Pool α β} {s : State α β} {jobs : List α}

/-- **The invariant**: every job has its result, or has not. -/
structure Inv (p : Pool α β) (jobs : List α) (s : State α β) : Prop where
  perm : (s.results ++ s.unfinished.map p.work).Perm (jobs.map p.work)
  places : s.working.length + s.sent ≤ p.limit

theorem inv_init : Inv p jobs (.init jobs) :=
  ⟨by rw [State.unfinished, State.init, List.nil_append, List.append_nil, List.append_nil],
    Nat.zero_le _⟩

/-- A result in the place of the job. -/
theorem perm_finish {results : List β} {a : α} {unfinished unfinished' : List α} {all : List β}
    (h : (results ++ unfinished.map p.work).Perm all) (ha : unfinished.Perm (a :: unfinished')) :
    (results ++ [p.work a] ++ unfinished'.map p.work).Perm all := by
  rw [List.append_assoc]
  exact ((ha.map p.work).symm.append_left results).trans h

/-- **At the end there is the result of every job.** -/
theorem perm_of_done (hs : Inv p jobs s) (hdone : s.Done) : s.results.Perm (jobs.map p.work) := by
  obtain ⟨hpending, hwaiting, hworking, -⟩ := hdone
  have hperm := hs.perm
  rwa [State.unfinished, hpending, hwaiting, hworking, List.append_nil, List.append_nil,
    List.map_nil, List.append_nil] at hperm

/-- The channel has room for every job that has no result. -/
theorem room (hs : Inv p jobs s) (hcapacity : jobs.length ≤ p.capacity) (h : s.unfinished ≠ []) :
    s.results.length < p.capacity := by
  have hlength := hs.perm.length_eq
  rw [List.length_append, List.length_map, List.length_map] at hlength
  have hpos := List.length_pos_of_ne_nil h
  omega

end Invariant

section Step

variable [DecidableEq α] (p : Pool α β)

/-- **One step.** -/
def step (s : State α β) : Event α → Option (State α β)
  | .next =>
    match s.pending with
    | [] => none
    | a :: rest =>
      if p.inline a then
        if s.results.length < p.capacity then
          some { s with pending := rest, results := s.results ++ [p.work a] }
        else none
      else some { s with pending := rest, waiting := a :: s.waiting }
  | .acquire a =>
    if a ∈ s.waiting ∧ s.working.length + s.sent < p.limit then
      some { s with waiting := s.waiting.erase a, working := a :: s.working }
    else none
  | .send a =>
    if a ∈ s.working ∧ s.results.length < p.capacity then
      some
        { s with
          working := s.working.erase a
          sent := s.sent + 1
          results := s.results ++ [p.work a] }
    else none
  | .release => if 0 < s.sent then some { s with sent := s.sent - 1 } else none

variable {p} {s t : State α β} {jobs : List α}

/-- What a step does. -/
theorem step_cases {e : Event α} (h : step p s e = some t) :
    (∃ a rest, s.pending = a :: rest ∧
        t = { s with pending := rest, results := s.results ++ [p.work a] }) ∨
      (∃ a rest, s.pending = a :: rest ∧
        t = { s with pending := rest, waiting := a :: s.waiting }) ∨
      (∃ a ∈ s.waiting, s.working.length + s.sent < p.limit ∧
        t = { s with waiting := s.waiting.erase a, working := a :: s.working }) ∨
      (∃ a ∈ s.working,
        t = ⟨s.pending, s.waiting, s.working.erase a, s.sent + 1, s.results ++ [p.work a]⟩) ∨
      (0 < s.sent ∧ t = { s with sent := s.sent - 1 }) := by
  cases e with
  | next =>
    unfold step at h
    rcases hp : s.pending with _ | ⟨a, rest⟩ <;> rw [hp] at h
    · cases h
    · dsimp only at h
      split_ifs at h
      · exact .inl ⟨a, rest, rfl, (Option.some.inj h).symm⟩
      · exact .inr (.inl ⟨a, rest, rfl, (Option.some.inj h).symm⟩)
  | acquire a =>
    obtain ⟨⟨ha, hlimit⟩, rfl⟩ := guard_eq_some h
    exact .inr (.inr (.inl ⟨a, ha, hlimit, rfl⟩))
  | send a =>
    obtain ⟨⟨ha, -⟩, rfl⟩ := guard_eq_some h
    exact .inr (.inr (.inr (.inl ⟨a, ha, rfl⟩)))
  | release =>
    obtain ⟨hsent, rfl⟩ := guard_eq_some h
    exact .inr (.inr (.inr (.inr ⟨hsent, rfl⟩)))

theorem inv_step {e : Event α} (hs : Inv p jobs s) (h : step p s e = some t) : Inv p jobs t := by
  obtain ⟨hperm, hplaces⟩ := hs
  rcases step_cases h with ⟨a, rest, hp, rfl⟩ | ⟨a, rest, hp, rfl⟩ | ⟨a, ha, hlimit, rfl⟩ |
    ⟨a, ha, rfl⟩ | ⟨hsent, rfl⟩
  · have hjob : s.unfinished = a :: (rest ++ (s.waiting ++ s.working)) := by
      rw [State.unfinished, hp, List.cons_append]
    exact ⟨perm_finish hperm (.of_eq hjob), hplaces⟩
  · have hjob : s.unfinished.Perm (rest ++ (a :: s.waiting ++ s.working)) := by
      rw [State.unfinished, hp, List.cons_append, List.cons_append]
      exact List.perm_middle.symm
    exact ⟨((hjob.map p.work).symm.append_left s.results).trans hperm, hplaces⟩
  · have hjob : s.unfinished.Perm (s.pending ++ (s.waiting.erase a ++ a :: s.working)) :=
      (((List.perm_cons_erase ha).append_right s.working).trans List.perm_middle.symm).append_left
        s.pending
    exact ⟨((hjob.map p.work).symm.append_left s.results).trans hperm,
      by dsimp only [List.length_cons]; omega⟩
  · have hjob : s.unfinished.Perm (a :: (s.pending ++ (s.waiting ++ s.working.erase a))) := by
      have herase := (List.perm_cons_erase ha).append_left (s.pending ++ s.waiting)
      rw [List.append_assoc] at herase
      refine herase.trans (List.perm_middle.trans ?_)
      rw [List.append_assoc]
    refine ⟨perm_finish hperm hjob, ?_⟩
    have hlength := List.length_erase_of_mem ha
    have hpos := List.length_pos_of_mem ha
    dsimp only
    omega
  · exact ⟨hperm, by dsimp only; omega⟩

theorem inv_run {es : List (Event α)} (h : run (step p) (.init jobs) es = some t) : Inv p jobs t :=
  inv_of_run inv_step inv_init h

/-! ## The end -/

/-- Every step brings the end nearer. -/
theorem left_lt {e : Event α} (h : step p s e = some t) : t.left < s.left := by
  unfold State.left
  rcases step_cases h with ⟨a, rest, hp, rfl⟩ | ⟨a, rest, hp, rfl⟩ | ⟨a, ha, -, rfl⟩ |
    ⟨a, ha, rfl⟩ | ⟨hsent, rfl⟩
  · rw [hp, List.length_cons]
    dsimp only
    omega
  · rw [hp, List.length_cons]
    dsimp only [List.length_cons]
    omega
  · have hlength := List.length_erase_of_mem ha
    have hpos := List.length_pos_of_mem ha
    dsimp only [List.length_cons]
    omega
  · have hlength := List.length_erase_of_mem ha
    have hpos := List.length_pos_of_mem ha
    dsimp only
    omega
  · dsimp only
    omega

/-- **A run is no longer than what is left.** -/
theorem length_le_of_run {es : List (Event α)} (h : run (step p) s es = some t) :
    es.length ≤ s.left := by
  induction es generalizing s with
  | nil => exact Nat.zero_le _
  | cons e es ih =>
    obtain ⟨s', hs', ht⟩ := run_cons_eq_some.mp h
    exact (Nat.succ_le_succ (ih ht)).trans (left_lt hs')

/-- **No send blocks and no worker waits for ever**: until the end, something can happen. -/
theorem exists_step (hs : Inv p jobs s) (hlimit : 0 < p.limit)
    (hcapacity : jobs.length ≤ p.capacity) (h : ¬ s.Done) :
    ∃ e t, step p s e = some t := by
  by_cases hsent : 0 < s.sent
  · exact ⟨.release, _, if_pos hsent⟩
  rcases hworking : s.working with _ | ⟨a, working⟩
  · rcases hwaiting : s.waiting with _ | ⟨a, waiting⟩
    · rcases hpending : s.pending with _ | ⟨a, rest⟩
      · exact absurd ⟨hpending, hwaiting, hworking, by omega⟩ h
      · have hroom := room hs hcapacity (by rw [State.unfinished, hpending]; simp)
        refine ⟨.next, ?_⟩
        unfold step
        rw [hpending]
        dsimp only
        rw [if_pos hroom]
        split_ifs <;> exact ⟨_, rfl⟩
    · refine ⟨.acquire a, _, if_pos ⟨hwaiting ▸ List.mem_cons_self, ?_⟩⟩
      rw [hworking, List.length_nil]
      omega
  · have hroom := room hs hcapacity (by rw [State.unfinished, hworking]; simp)
    exact ⟨.send a, _, if_pos ⟨hworking ▸ List.mem_cons_self, hroom⟩⟩

/-- **Every run can be brought to its end.** -/
theorem exists_run_done (hlimit : 0 < p.limit) (hcapacity : jobs.length ≤ p.capacity)
    (hs : Inv p jobs s) : ∃ es t, run (step p) s es = some t ∧ t.Done := by
  induction hn : s.left using Nat.strong_induction_on generalizing s with
  | _ n ih =>
    by_cases hdone : s.Done
    · exact ⟨[], s, rfl, hdone⟩
    · obtain ⟨e, s', hs'⟩ := exists_step hs hlimit hcapacity hdone
      obtain ⟨es, t, ht, hdone⟩ := ih s'.left (hn ▸ left_lt hs') (inv_step hs hs') rfl
      exact ⟨e :: es, t, run_cons_eq_some.mpr ⟨s', hs', ht⟩, hdone⟩

end Step

end Pool

end Machinery
