import Beszel.Machinery.Run
import Mathlib.Data.List.Basic

/-!
# Agent/DockerQueue — how many containers are asked at a time

    loop ──wg.Add──▸ queued ──flag──▸ sending ──token──▸ ready ──go──▸ requests
                                 ╰──────────────────────▸╯               │ wg.Done
                                           gone ◂──token── receiving ◂──flag── done

`queue` and `dequeue` of `agent/docker.go`, around the requests of a poll, and `checkDockerVersion`,
which may find that the version of Docker is a good one while requests are on their way.  A request
that was started before then put no token into `sem`, and its goroutine takes one out of it all the
same.  Every interleaving of the loop, the goroutines and the check is a run.
-/

namespace Beszel

open Machinery

namespace Agent

namespace DockerQueue

/-! ## The version -/

/-- What an attempt at `/version` gave. -/
inductive VersionAnswer
  | requestFailed
  | undecodable
  | notSemver
  | major (n : ℕ)
  deriving DecidableEq

/-- `versionMaxTries`. -/
def versionMaxTries : ℕ := 2

/-- `checkDockerVersion`: the first attempt that is answered decides. -/
def checkDockerVersion (attempts : List VersionAnswer) : Bool :=
  match (attempts.take versionMaxTries).find? (· ≠ .requestFailed) with
  | some (.major n) => 24 < n
  | _ => false

/-! ## Polls -/

/-- The capacity of `sem`. -/
def semLimit : ℕ := 5

/-- How far `queue` is with a container, and then its `go` statement. -/
inductive Phase
  | queued
  | sending
  | ready
  deriving DecidableEq

/-- Where the loop of `getDockerStats` is: with no container left it is at `wg.Wait`. -/
inductive Main (α : Type*)
  | idle
  | loop (toVisit : List α)
  | starting (phase : Phase) (ctr : α) (rest : List α)

/-- The fields that `queue` and `dequeue` use, the loop, the requests that are on their way, the
goroutines that called `wg.Done` and are to read the flag, those that wait for a token, and the
containers that failed. -/
structure State (α : Type*) where
  goodDockerVersion : Bool
  checking : Bool
  wg : ℕ
  sem : ℕ
  main : Main α
  retrying : Bool
  requests : List α
  done : ℕ
  receiving : ℕ
  failed : List α

/-- `newDockerManager`; with Podman nothing is checked. -/
def State.init {α : Type*} (usingPodman : Bool) : State α :=
  ⟨usingPodman, !usingPodman, 0, 0, .idle, false, [], 0, 0, []⟩

/-- What can happen next. -/
inductive Event (α : Type*)
  | begin (containers : List α)
  | visit
  | look
  | send
  | go
  | wait
  | finish (ctr : α) (ok : Bool)
  | leave
  | receive
  | version (attempts : List VersionAnswer)

/-- The events of polls that began: all but a new poll and the check. -/
def Event.own {α : Type*} : Event α → Prop
  | .begin _ | .version _ => False
  | _ => True

section Step

variable {α : Type*} [DecidableEq α] (shouldExclude : α → Bool)

/-- **One step.** -/
def step (s : State α) : Event α → Option (State α)
  | .begin containers =>
    match s.main with
    | .idle => some { s with main := .loop containers, retrying := false, failed := [] }
    | _ => none
  | .visit =>
    match s.main with
    | .loop (ctr :: rest) =>
      -- the second loop goes over containers that the first did not exclude
      if shouldExclude ctr ∧ s.retrying = false then some { s with main := .loop rest }
      else some { s with wg := s.wg + 1, main := .starting .queued ctr rest }
    | _ => none
  | .look =>
    match s.main with
    | .starting .queued ctr rest =>
      some { s with
        main := .starting (if s.goodDockerVersion then .sending else .ready) ctr rest }
    | _ => none
  | .send =>
    match s.main with
    | .starting .sending ctr rest =>
      if s.sem < semLimit then some { s with sem := s.sem + 1, main := .starting .ready ctr rest }
      else none
    | _ => none
  | .go =>
    match s.main with
    | .starting .ready ctr rest =>
      some { s with requests := ctr :: s.requests, main := .loop rest }
    | _ => none
  | .wait =>
    match s.main with
    | .loop [] =>
      if s.wg = 0 then
        if s.failed ≠ [] ∧ s.retrying = false then
          some { s with main := .loop s.failed, retrying := true, failed := [] }
        else some { s with main := .idle }
      else none
    | _ => none
  | .finish ctr ok =>
    if ctr ∈ s.requests then
      some { s with
        wg := s.wg - 1
        requests := s.requests.erase ctr
        done := s.done + 1
        failed := if ok ∨ s.retrying then s.failed else s.failed ++ [ctr] }
    else none
  | .leave =>
    if 0 < s.done then
      some { s with
        done := s.done - 1
        receiving := if s.goodDockerVersion then s.receiving + 1 else s.receiving }
    else none
  | .receive =>
    if 0 < s.receiving ∧ 0 < s.sem then
      some { s with sem := s.sem - 1, receiving := s.receiving - 1 }
    else none
  | .version attempts =>
    if s.checking then
      some { s with
        checking := false
        goodDockerVersion := s.goodDockerVersion || checkDockerVersion attempts }
    else none

end Step

section Moves

variable {α : Type*} [DecidableEq α] {shouldExclude : α → Bool}

/-- **What a step can be.** -/
inductive Move (s : State α) : Event α → State α → Prop
  | begin {containers : List α} (main : s.main = .idle) :
    Move s (.begin containers) { s with main := .loop containers, retrying := false, failed := [] }
  | skip {ctr : α} {rest : List α} (main : s.main = .loop (ctr :: rest)) :
    Move s .visit { s with main := .loop rest }
  | visit {ctr : α} {rest : List α} (main : s.main = .loop (ctr :: rest)) :
    Move s .visit { s with wg := s.wg + 1, main := .starting .queued ctr rest }
  | look {ctr : α} {rest : List α} (main : s.main = .starting .queued ctr rest) :
    Move s .look
      { s with main := .starting (if s.goodDockerVersion then .sending else .ready) ctr rest }
  | send {ctr : α} {rest : List α} (main : s.main = .starting .sending ctr rest)
      (room : s.sem < semLimit) :
    Move s .send { s with sem := s.sem + 1, main := .starting .ready ctr rest }
  | go {ctr : α} {rest : List α} (main : s.main = .starting .ready ctr rest) :
    Move s .go { s with requests := ctr :: s.requests, main := .loop rest }
  | retry (main : s.main = .loop []) (wg : s.wg = 0) (retrying : s.retrying = false) :
    Move s .wait { s with main := .loop s.failed, retrying := true, failed := [] }
  | wait (main : s.main = .loop []) (wg : s.wg = 0) : Move s .wait { s with main := .idle }
  | finish {ctr : α} {ok : Bool} (mem : ctr ∈ s.requests) :
    Move s (.finish ctr ok)
      { s with
        wg := s.wg - 1
        requests := s.requests.erase ctr
        done := s.done + 1
        failed := if ok ∨ s.retrying then s.failed else s.failed ++ [ctr] }
  | leave (done : 0 < s.done) :
    Move s .leave
      { s with
        done := s.done - 1
        receiving := if s.goodDockerVersion then s.receiving + 1 else s.receiving }
  | receive (receiving : 0 < s.receiving) (sem : 0 < s.sem) :
    Move s .receive { s with sem := s.sem - 1, receiving := s.receiving - 1 }
  | version {attempts : List VersionAnswer} (checking : s.checking = true) :
    Move s (.version attempts)
      { s with
        checking := false
        goodDockerVersion := s.goodDockerVersion || checkDockerVersion attempts }

theorem step_move {s t : State α} {e : Event α} (h : step shouldExclude s e = some t) :
    Move s e t := by
  cases e with
  | begin containers =>
    simp only [step] at h
    split at h <;> cases h
    exact .begin ‹_›
  | visit =>
    simp only [step] at h
    split at h
    · split_ifs at h <;> cases h
      · exact .skip ‹_›
      · exact .visit ‹_›
    · cases h
  | look =>
    simp only [step] at h
    split at h <;> cases h
    exact .look ‹_›
  | send =>
    simp only [step] at h
    split at h
    · obtain ⟨hroom, rfl⟩ := guard_eq_some h
      exact .send ‹_› hroom
    · cases h
  | go =>
    simp only [step] at h
    split at h <;> cases h
    exact .go ‹_›
  | wait =>
    simp only [step] at h
    split at h
    · split_ifs at h with hwg hfailed <;> cases h
      · exact .retry ‹_› hwg hfailed.2
      · exact .wait ‹_› hwg
    · cases h
  | finish ctr ok =>
    obtain ⟨hmem, rfl⟩ := guard_eq_some h
    exact .finish hmem
  | leave =>
    obtain ⟨hdone, rfl⟩ := guard_eq_some h
    exact .leave hdone
  | receive =>
    obtain ⟨⟨hreceiving, hsem⟩, rfl⟩ := guard_eq_some h
    exact .receive hreceiving hsem
  | version attempts =>
    obtain ⟨hchecking, rfl⟩ := guard_eq_some h
    exact .version hchecking

end Moves

/-! ## Tokens -/

section Invariant

variable {α : Type*} {s t : State α}

/-- Whether the loop is in `queue` or at its `go` statement, where `wg` counts the request that is
not there yet. -/
def Main.counted : Main α → ℕ
  | .starting _ _ _ => 1
  | _ => 0

/-- Whether a container is about to have its goroutine. -/
def Main.ready : Main α → ℕ
  | .starting .ready _ _ => 1
  | _ => 0

/-- Whether the loop is at the channel. -/
def Main.sending : Main α → Prop
  | .starting .sending _ _ => True
  | _ => False

/-- **Those that take a token out of `sem` once the flag is set**: the requests on their way, the
one that is about to be, and the goroutines that are to leave. -/
def State.takers (s : State α) : ℕ := s.requests.length + s.main.ready + s.done + s.receiving

/-- What holds whatever the version: `wg` counts the requests and the one that is being started,
nobody waits at a channel while the flag is not set, and no more tokens than fit are in it. -/
structure Inv (s : State α) : Prop where
  wg : s.wg = s.requests.length + s.main.counted
  room : s.sem ≤ semLimit
  unset : s.goodDockerVersion = false → s.sem = 0 ∧ s.receiving = 0 ∧ ¬ s.main.sending

/-- **The balance**: the flag is set, and `k` more take a token than there are. -/
def Owing (k : ℕ) (s : State α) : Prop := s.goodDockerVersion = true ∧ s.takers = s.sem + k

theorem inv_init (usingPodman : Bool) : Inv (.init usingPodman : State α) :=
  ⟨rfl, Nat.zero_le _, fun _ => ⟨rfl, rfl, id⟩⟩

/-- With Podman nothing is owed. -/
theorem owing_podman : Owing 0 (.init true : State α) := ⟨rfl, rfl⟩

/-- At most as many requests as there are tokens, and those that are owed. -/
theorem Owing.requests_le {k : ℕ} (h : Owing k s) (hs : Inv s) :
    s.requests.length ≤ semLimit + k := by
  have hroom := hs.room
  have hk := h.2
  unfold State.takers at hk
  omega

end Invariant

section Preserved

variable {α : Type*} [DecidableEq α] {shouldExclude : α → Bool} {s t : State α} {e : Event α}

theorem Inv.step (h : Inv s) (hs : step shouldExclude s e = some t) : Inv t := by
  obtain ⟨hwg, hroom, hunset⟩ := h
  cases step_move hs with
  | begin main | skip main | go main | retry main | wait main =>
    rw [main] at hwg hunset
    exact ⟨hwg, hroom, fun hbad => ⟨(hunset hbad).1, (hunset hbad).2.1, id⟩⟩
  | visit main =>
    rw [main] at hwg
    exact ⟨congrArg (· + 1) hwg, hroom, fun hbad => ⟨(hunset hbad).1, (hunset hbad).2.1, id⟩⟩
  | look main =>
    rw [main] at hwg
    refine ⟨hwg, hroom, fun hbad => ⟨(hunset hbad).1, (hunset hbad).2.1, ?_⟩⟩
    dsimp only at hbad ⊢
    rw [hbad]
    exact id
  | send main room =>
    rw [main] at hwg hunset
    exact ⟨hwg, room, fun hbad => absurd trivial (hunset hbad).2.2⟩
  | finish mem =>
    refine ⟨?_, hroom, hunset⟩
    have hpos := List.length_pos_of_mem mem
    dsimp only
    rw [hwg, List.length_erase_of_mem mem]
    omega
  | leave =>
    refine ⟨hwg, hroom, fun hbad => ⟨(hunset hbad).1, ?_, (hunset hbad).2.2⟩⟩
    dsimp only at hbad ⊢
    rw [hbad]
    exact (hunset hbad).2.1
  | receive receiving =>
    refine ⟨hwg, Nat.le_trans (Nat.sub_le _ _) hroom, fun hbad => ?_⟩
    rw [(hunset hbad).2.1] at receiving
    cases receiving
  | version =>
    refine ⟨hwg, hroom, fun hbad => hunset ?_⟩
    exact (Bool.or_eq_false_iff.mp hbad).1

/-- **No step changes what is owed.** -/
theorem Owing.step {k : ℕ} (h : Owing k s) (hs : step shouldExclude s e = some t) : Owing k t := by
  obtain ⟨hgood, hk⟩ := h
  unfold State.takers at hk
  cases step_move hs with
  | begin main | skip main | visit main | retry main | wait main =>
    rw [main] at hk
    exact ⟨hgood, hk⟩
  | look main =>
    rw [main] at hk
    refine ⟨hgood, ?_⟩
    unfold State.takers
    dsimp only
    rw [hgood]
    exact hk
  | send main =>
    refine ⟨hgood, ?_⟩
    rw [main] at hk
    simp only [State.takers, Main.ready] at hk ⊢
    omega
  | go main =>
    refine ⟨hgood, ?_⟩
    rw [main] at hk
    simp only [State.takers, Main.ready, List.length_cons] at hk ⊢
    omega
  | finish mem =>
    refine ⟨hgood, ?_⟩
    have hpos := List.length_pos_of_mem mem
    simp only [State.takers, List.length_erase_of_mem mem]
    omega
  | leave done =>
    refine ⟨hgood, ?_⟩
    simp only [State.takers, hgood, if_true]
    omega
  | receive receiving sem =>
    refine ⟨hgood, ?_⟩
    simp only [State.takers]
    omega
  | version => exact ⟨by rw [hgood]; rfl, hk⟩

/-- **What is owed when the version turns out to be a good one**: every request that is on its way
without a token. -/
theorem Inv.owing_of_version {attempts : List VersionAnswer} (h : Inv s)
    (hbad : s.goodDockerVersion = false)
    (hs : DockerQueue.step shouldExclude s (.version attempts) = some t)
    (hgood : t.goodDockerVersion = true) :
    Owing (s.requests.length + s.main.ready + s.done) t := by
  obtain ⟨hsem, hreceiving, -⟩ := h.unset hbad
  obtain ⟨-, rfl⟩ := guard_eq_some hs
  refine ⟨hgood, ?_⟩
  simp only [State.takers, hsem, hreceiving]
  omega

theorem inv_run {usingPodman : Bool} {events : List (Event α)}
    (h : run (DockerQueue.step shouldExclude) (.init usingPodman) events = some t) : Inv t :=
  inv_of_run Inv.step (inv_init usingPodman) h

theorem Owing.run {k : ℕ} {events : List (Event α)} (h : Owing k s)
    (hr : run (DockerQueue.step shouldExclude) s events = some t) : Owing k t :=
  inv_of_run Owing.step h hr

end Preserved

/-! ## Every poll comes to its end -/

section Ends

variable {α : Type*}

/-- What a request costs from its `wg.Done` on, with the second attempt of a first one. -/
def State.price (s : State α) : ℕ := if s.retrying then 3 else 10

/-- What is left for the loop. -/
def Main.left (main : Main α) (price : ℕ) : ℕ :=
  match main with
  | .idle => 0
  | .loop toVisit => toVisit.length * (price + 4) + 1
  | .starting phase _ rest =>
    rest.length * (price + 4) + 1 + price +
      match phase with
      | .queued => 3
      | .sending => 2
      | .ready => 1

/-- **How many steps the polls that began can still take.** -/
def State.left (s : State α) : ℕ :=
  s.main.left s.price + s.requests.length * s.price + 2 * s.done + s.receiving +
    (if s.retrying then 0 else 7 * s.failed.length + 1)

variable [DecidableEq α] {shouldExclude : α → Bool} {s t : State α} {e : Event α}

/-- **Every step of a poll brings its end nearer.** -/
theorem left_lt (h : Inv s) (hs : step shouldExclude s e = some t) (he : e.own) :
    t.left < s.left := by
  have hwg := h.wg
  cases step_move hs with
  | begin | version => exact he.elim
  | skip main | visit main | send main | go main =>
    simp only [State.left, State.price, main, Main.left, List.length_cons]
    split_ifs <;> omega
  | look main =>
    simp only [State.left, State.price, main, Main.left]
    cases s.goodDockerVersion <;> simp
  | retry main wg retrying =>
    rw [main, wg] at hwg
    have hrequests : s.requests.length = 0 := by simpa [Main.counted] using hwg.symm
    simp only [State.left, State.price, main, Main.left, retrying, hrequests, List.length_nil,
      if_true, Bool.false_eq_true, if_false]
    omega
  | wait main =>
    simp only [State.left, State.price, main, Main.left, List.length_nil]
    omega
  | @finish ctr ok mem =>
    have hpos := List.length_pos_of_mem mem
    simp only [State.left, State.price, List.length_erase_of_mem mem]
    obtain ⟨n, hn⟩ := Nat.exists_eq_add_of_lt hpos
    cases s.retrying <;> cases ok <;> simp [hn] <;> omega
  | leave done =>
    simp only [State.left, State.price]
    split_ifs <;> omega
  | receive receiving =>
    simp only [State.left, State.price]
    omega

theorem length_le_left {events : List (Event α)} (h : Inv s) (hown : ∀ e ∈ events, e.own)
    (hr : run (step shouldExclude) s events = some t) : events.length + t.left ≤ s.left := by
  induction events generalizing s with
  | nil =>
    obtain rfl := Option.some.inj hr
    exact Nat.le_of_eq (Nat.zero_add _)
  | cons e events ih =>
    obtain ⟨s', hs', hr⟩ := run_cons_eq_some.mp hr
    have hrest := ih (h.step hs') (fun e he => hown e (List.mem_cons_of_mem _ he)) hr
    have hlt := left_lt h hs' (hown e List.mem_cons_self)
    rw [List.length_cons]
    omega

/-- No step of a poll is possible. -/
def Quiet (shouldExclude : α → Bool) (s : State α) : Prop :=
  ∀ e : Event α, e.own → step shouldExclude s e = none

/-- **A poll that began is never stuck.** -/
theorem exists_step {k : ℕ} (h : Inv s) (hk : s.goodDockerVersion = true → Owing k s)
    (hmain : s.main ≠ .idle) : ∃ e : Event α, e.own ∧ (step shouldExclude s e).isSome := by
  rcases hm : s.main with _ | (_ | ⟨ctr, rest⟩) | ⟨_ | _ | _, ctr, rest⟩
  · exact absurd hm hmain
  · -- at `wg.Wait`: a request is on its way, or nothing is waited for
    rcases hr : s.requests with _ | ⟨ctr, requests⟩
    · have hwg := h.wg
      rw [hm, hr] at hwg
      refine ⟨.wait, trivial, ?_⟩
      simp only [step, hm, hwg]
      split_ifs <;> first | rfl | contradiction
    · refine ⟨.finish ctr true, trivial, ?_⟩
      simp [step, hr]
  · refine ⟨.visit, trivial, ?_⟩
    simp only [step, hm]
    split_ifs <;> rfl
  · exact ⟨.look, trivial, by simp only [step, hm]; rfl⟩
  · -- at the channel: it has room, or one of those that take a token goes on
    by_cases hroom : s.sem < semLimit
    · exact ⟨.send, trivial, by simp only [step, hm, if_pos hroom]; rfl⟩
    have hgood : s.goodDockerVersion = true := by
      by_contra hbad
      refine (h.unset (Bool.not_eq_true _ ▸ hbad)).2.2 ?_
      rw [hm]
      trivial
    have htakers := (hk hgood).2
    simp only [State.takers, hm, Main.ready, semLimit] at htakers hroom
    rcases hr : s.requests with _ | ⟨ctr', requests⟩
    · by_cases hdone : 0 < s.done
      · exact ⟨.leave, trivial, by simp only [step, if_pos hdone]; rfl⟩
      · refine ⟨.receive, trivial, ?_⟩
        rw [hr, List.length_nil] at htakers
        have hboth : 0 < s.receiving ∧ 0 < s.sem := by omega
        simp only [step, if_pos hboth]
        rfl
    · refine ⟨.finish ctr' true, trivial, ?_⟩
      simp [step, hr]
  · exact ⟨.go, trivial, by simp only [step, hm]; rfl⟩

/-- Only the check sets the flag. -/
theorem goodDockerVersion_of_step (hs : step shouldExclude s e = some t) :
    t.goodDockerVersion = s.goodDockerVersion ∨ ∃ attempts, e = .version attempts := by
  cases step_move hs with
  | version => exact .inr ⟨_, rfl⟩
  | _ => exact .inl rfl

/-- The steps of the polls leave it alone. -/
theorem goodDockerVersion_of_own {events : List (Event α)} (hown : ∀ e ∈ events, e.own)
    (hr : run (step shouldExclude) s events = some t) :
    t.goodDockerVersion = s.goodDockerVersion := by
  induction events generalizing s with
  | nil => rw [Option.some.inj hr]
  | cons e events ih =>
    obtain ⟨s', hs', hr⟩ := run_cons_eq_some.mp hr
    rcases goodDockerVersion_of_step hs' with hsame | ⟨attempts, rfl⟩
    · exact (ih (fun e he => hown e (List.mem_cons_of_mem _ he)) hr).trans hsame
    · exact (hown _ List.mem_cons_self).elim

/-- **What is owed is known** in every state of every run. -/
theorem exists_owing {usingPodman : Bool} {events : List (Event α)}
    (h : run (step shouldExclude) (.init usingPodman) events = some s) :
    ∃ k, (s.goodDockerVersion = true → Owing k s) ∧ (s.goodDockerVersion = false → k = 0) := by
  refine (inv_of_run (I := fun s => Inv s ∧ ∃ k, (s.goodDockerVersion = true → Owing k s) ∧
    (s.goodDockerVersion = false → k = 0)) ?_ ⟨inv_init usingPodman, 0, ?_, fun _ => rfl⟩ h).2
  · rintro s e t ⟨hinv, k, hk, -⟩ hs
    refine ⟨hinv.step hs, ?_⟩
    cases hgood : s.goodDockerVersion with
    | true => exact ⟨k, fun _ => (hk hgood).step hs, fun hbad => by
        rw [((hk hgood).step hs).1] at hbad
        cases hbad⟩
    | false =>
      cases hgood' : t.goodDockerVersion with
      | false => exact ⟨0, fun h => (Bool.false_ne_true h).elim, fun _ => rfl⟩
      | true =>
        rcases goodDockerVersion_of_step hs with hsame | ⟨attempts, rfl⟩
        · rw [hsame, hgood] at hgood'
          cases hgood'
        · exact ⟨_, fun _ => hinv.owing_of_version hgood hs hgood',
            fun h => (Bool.false_ne_true h.symm).elim⟩
  · cases usingPodman with
    | true => exact fun _ => owing_podman
    | false => exact fun h => nomatch h

/-- **Where everything came to rest**, nobody is left but those that wait for the tokens that are
owed. -/
theorem Quiet.atRest {k : ℕ} (hq : Quiet shouldExclude s) (h : Inv s)
    (hk : s.goodDockerVersion = true → Owing k s) :
    s.main = .idle ∧ s.requests = [] ∧ s.done = 0 ∧ s.sem = 0 ∧
      s.receiving = if s.goodDockerVersion then k else 0 := by
  have hidle : s.main = .idle := by
    by_contra hmain
    obtain ⟨e, he, hsome⟩ : ∃ e : Event α, e.own ∧ (step shouldExclude s e).isSome :=
      exists_step h hk hmain
    rw [hq e he] at hsome
    cases hsome
  have hrequests : s.requests = [] := by
    by_contra hne
    obtain ⟨ctr, hmem⟩ := List.exists_mem_of_ne_nil _ hne
    have hnone := hq (.finish ctr true) trivial
    simp only [step, if_pos hmem] at hnone
    cases hnone
  have hdone : s.done = 0 := by
    by_contra hne
    have hnone := hq .leave trivial
    simp only [step, if_pos (Nat.pos_of_ne_zero hne)] at hnone
    cases hnone
  refine ⟨hidle, hrequests, hdone, ?_⟩
  cases hgood : s.goodDockerVersion with
  | false => exact ⟨(h.unset hgood).1, (h.unset hgood).2.1⟩
  | true =>
    have htakers := (hk hgood).2
    simp only [State.takers, hidle, hrequests, hdone, Main.ready, List.length_nil] at htakers
    have hnot : ¬ (0 < s.receiving ∧ 0 < s.sem) := by
      intro hboth
      have hnone := hq .receive trivial
      simp only [step, if_pos hboth] at hnone
      cases hnone
    rw [if_pos rfl]
    omega

/-- **Every poll ends, whatever the order.**  From any state of any run the polls that began take a
bounded number of steps; a poll that has not ended can take another; and where nothing more is
possible it has ended, all its requests have, and the tokens are gone. -/
theorem polls_end {usingPodman : Bool} {events : List (Event α)}
    (h : run (step shouldExclude) (.init usingPodman) events = some s) :
    ∃ k, ∀ (own : List (Event α)) (t : State α), (∀ e ∈ own, e.own) →
      run (step shouldExclude) s own = some t →
        own.length ≤ s.left ∧
        (t.main ≠ .idle → ∃ e : Event α, e.own ∧ (step shouldExclude t e).isSome) ∧
        (Quiet shouldExclude t → t.main = .idle ∧ t.wg = 0 ∧ t.requests = [] ∧ t.done = 0 ∧
          t.sem = 0 ∧ t.receiving = k) := by
  have hinv := inv_run h
  obtain ⟨k, hk, hzero⟩ := exists_owing h
  refine ⟨k, fun own t hown hr => ?_⟩
  have hinvt : Inv t := inv_of_run Inv.step hinv hr
  have hsame := goodDockerVersion_of_own hown hr
  have howing : t.goodDockerVersion = true → Owing k t :=
    fun hgood => (hk (hsame ▸ hgood)).run hr
  have hlength := length_le_left hinv hown hr
  refine ⟨by omega, exists_step hinvt howing, fun hquiet => ?_⟩
  obtain ⟨hidle, hrequests, hdone, hsem, hreceiving⟩ := hquiet.atRest hinvt howing
  have hwg := hinvt.wg
  rw [hidle, hrequests] at hwg
  refine ⟨hidle, hwg, hrequests, hdone, hsem, hreceiving.trans ?_⟩
  cases hgood : t.goodDockerVersion with
  | true => rfl
  | false => exact (hzero (hsame ▸ hgood)).symm

theorem polls_end_one :
    ∃ k, ∀ (own : List (Event ℕ)) (t : State ℕ), (∀ e ∈ own, e.own) →
      run (step fun _ => false) ⟨false, true, 0, 0, .loop [1], false, [], 0, 0, []⟩ own = some t →
        own.length ≤ 16 ∧
        (t.main ≠ .idle → ∃ e : Event ℕ, e.own ∧ (step (fun _ => false) t e).isSome) ∧
        (Quiet (fun _ => false) t → t.main = .idle ∧ t.wg = 0 ∧ t.requests = [] ∧ t.done = 0 ∧
          t.sem = 0 ∧ t.receiving = k) :=
  @polls_end ℕ _ (fun _ => false) _ false [.begin [1]] rfl

end Ends

/-! ## The limit -/

section Limit

variable {α : Type*} [DecidableEq α] {shouldExclude : α → Bool} {s t : State α}

theorem step_receive (hreceiving : 0 < s.receiving) (hsem : 0 < s.sem) :
    step shouldExclude s .receive =
      some { s with sem := s.sem - 1, receiving := s.receiving - 1 } :=
  if_pos ⟨hreceiving, hsem⟩

/-- **A container is started**, with a token that is there, or that one who waits makes room for. -/
theorem exists_run_start {ctr : α} {rest : List α} (hgood : s.goodDockerVersion = true)
    (hmain : s.main = .loop (ctr :: rest)) (hkept : shouldExclude ctr = false)
    (hroom : s.sem < semLimit) :
    ∃ events t, run (step shouldExclude) s events = some t ∧ t.goodDockerVersion = true ∧
      t.main = .loop rest ∧ t.requests = ctr :: s.requests ∧
      t.sem + (s.receiving - t.receiving) = s.sem + 1 ∧ t.receiving = s.receiving - 1 := by
  obtain ⟨s₁, hrun, hgood₁, hmain₁, hrequests₁, hsem₁, hreceiving₁⟩ : ∃ s₁,
      run (step shouldExclude) s [.visit, .look, .send, .go] = some s₁ ∧
        s₁.goodDockerVersion = true ∧ s₁.main = .loop rest ∧ s₁.requests = ctr :: s.requests ∧
        s₁.sem = s.sem + 1 ∧ s₁.receiving = s.receiving := by
    refine ⟨{ s with
      wg := s.wg + 1
      sem := s.sem + 1
      main := .loop rest
      requests := ctr :: s.requests }, ?_, hgood, rfl, rfl, rfl, rfl⟩
    simp [run_cons, step, hmain, hkept, hgood, hroom]
  by_cases hwaits : 0 < s₁.receiving
  · have hreceive : run (step shouldExclude) s₁ [.receive] = some _ :=
      (run_singleton _ _).trans (step_receive hwaits (by omega))
    exact ⟨_, _, run_append_eq_some.mpr ⟨s₁, hrun, hreceive⟩, hgood₁, hmain₁, hrequests₁,
      by dsimp only; omega, by dsimp only; omega⟩
  · exact ⟨_, s₁, hrun, hgood₁, hmain₁, hrequests₁, by omega, by omega⟩

/-- **As many containers as there is room for are started**, before one of their requests ends. -/
theorem exists_run_loop {containers rest : List α} (hgood : s.goodDockerVersion = true)
    (hmain : s.main = .loop (containers ++ rest))
    (hkept : ∀ ctr ∈ containers, shouldExclude ctr = false)
    (hapart : s.sem = 0 ∨ s.receiving = 0)
    (hroom : s.sem + containers.length ≤ semLimit + s.receiving) :
    ∃ events t, run (step shouldExclude) s events = some t ∧
      t.requests.length = s.requests.length + containers.length := by
  induction containers generalizing s with
  | nil => exact ⟨[], s, rfl, rfl⟩
  | cons ctr containers ih =>
    obtain ⟨hfirst, hrest⟩ := List.forall_mem_cons.mp hkept
    rw [List.length_cons] at hroom
    obtain ⟨events, t, hrun, htgood, htmain, htrequests, htsem, htreceiving⟩ :=
      exists_run_start hgood hmain hfirst (by unfold semLimit at hroom ⊢; omega)
    obtain ⟨events', u, hrun', hu⟩ := ih htgood htmain hrest (by omega) (by omega)
    refine ⟨events ++ events', u, run_append_eq_some.mpr ⟨t, hrun, hrun'⟩, ?_⟩
    rw [hu, htrequests, List.length_cons, List.length_cons]
    omega

/-- With Podman, and with a good version that is known before the first poll, at most five requests
are on their way. -/
theorem requests_le_of_podman {events : List (Event α)}
    (h : run (step shouldExclude) (.init true) events = some s) :
    s.requests.length ≤ semLimit :=
  (owing_podman.run h).requests_le (inv_run h)

/-- **The limit on requests.**  Let `k` requests be on their way when Docker turns out to be of a
good version.  From then on at most `5 + k` are; and once all came to rest, `k` goroutines wait for
a token for ever, and every later poll of enough containers can have `5 + k` of them. -/
theorem requests_limit {usingPodman : Bool} {before after : List (Event α)} {s' t : State α}
    {attempts : List VersionAnswer} {k : ℕ}
    (hbefore : run (step shouldExclude) (.init usingPodman) before = some s)
    (hk : k = s.requests.length + s.main.ready + s.done)
    (hbad : s.goodDockerVersion = false)
    (hversion : step shouldExclude s (.version attempts) = some s')
    (hgood : s'.goodDockerVersion = true)
    (hafter : run (step shouldExclude) s' after = some t) :
    t.requests.length ≤ semLimit + k ∧
      (Quiet shouldExclude t → t.receiving = k ∧
        ∀ containers : List α, semLimit + k ≤ containers.length →
          (∀ ctr ∈ containers, shouldExclude ctr = false) →
          ∃ events u, run (step shouldExclude) t (.begin containers :: events) = some u ∧
            u.requests.length = semLimit + k) := by
  have hinv : Inv s' := (inv_run hbefore).step hversion
  have howing : Owing k t := by
    rw [hk]
    exact ((inv_run hbefore).owing_of_version hbad hversion hgood).run hafter
  have hinvt : Inv t := inv_of_run Inv.step hinv hafter
  refine ⟨howing.requests_le hinvt, fun hquiet => ?_⟩
  obtain ⟨hidle, hrequests, -, hsem, hreceiving⟩ := hquiet.atRest hinvt fun _ => howing
  rw [howing.1, if_pos rfl] at hreceiving
  refine ⟨hreceiving, fun containers hlength hkept => ?_⟩
  have hbegin : step shouldExclude t (.begin containers) =
      some { t with main := .loop containers, retrying := false, failed := [] } := by
    simp only [step, hidle]
  have hsplit := (List.take_append_drop (semLimit + k) containers).symm
  obtain ⟨events, u, hrun, hu⟩ :=
    @exists_run_loop α _ shouldExclude
      { t with main := .loop containers, retrying := false, failed := [] }
      (containers.take (semLimit + k)) (containers.drop (semLimit + k)) howing.1
      (congrArg Main.loop hsplit) (fun ctr hmem => hkept ctr (List.mem_of_mem_take hmem))
      (.inl hsem) (by simp only [hsem, hreceiving, List.length_take]; omega)
  refine ⟨events, u, run_cons_eq_some.mpr ⟨_, hbegin, hrun⟩, ?_⟩
  rw [hu, List.length_take, Nat.min_eq_left hlength]
  simp only [hrequests, List.length_nil, Nat.zero_add]

/-- What is left of one request that was on its way. -/
def afterOne : State ℕ :=
  { State.init false with checking := false, goodDockerVersion := true, receiving := 1 }

theorem quiet_afterOne : Quiet (fun _ => false) afterOne := by
  rintro (_ | _ | _ | _ | _ | _ | ⟨ctr, ok⟩ | _ | _ | _) he
  all_goals first | exact he.elim | rfl

theorem requests_limit_one :
    ∃ events u, run (step fun _ => false) afterOne (.begin (List.range 6) :: events) = some u ∧
      u.requests.length = 6 :=
  let started : State ℕ := { State.init false with wg := 1, main := .loop [], requests := [1] }
  let found : State ℕ := { started with checking := false, goodDockerVersion := true }
  let limit := @requests_limit ℕ _ (fun _ => false) started false
    [.begin [1], .visit, .look, .go] [.finish 1 true, .wait, .leave] found afterOne
    [.requestFailed, .major 25] 1 rfl rfl rfl rfl rfl rfl
  (limit.2 quiet_afterOne).2 (List.range 6) (Nat.le_refl 6) fun _ _ => rfl

end Limit

end DockerQueue

end Agent

end Beszel
