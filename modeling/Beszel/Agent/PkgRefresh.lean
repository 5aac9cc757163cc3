import Beszel.Agent.PkgUpdate
import Mathlib.Logic.Function.Basic

/-!
# Agent/PkgRefresh — the cached list of updates, and the file it is saved to

    refresh ──────── list ──▸ showhold ──▸ pm.updates ──▸ pkg-updates.json
    refreshHeldFlags ─────────▸ showhold ──▸ pm.updates ──▸ pkg-updates.json

`refresh` and `refreshHeldFlags` of `agent/pkgupdate.go`, by any number of callers.  The package
manager is asked without the lock, the list is set with it, and the file is written after that: each
is a step.  Answers of the package manager are numbered in the order that they come in.
-/

namespace Beszel

open Machinery

namespace PkgRefresh

/-- `system.PackageUpdate`. -/
structure PackageUpdate extends PkgUpdate.PackageUpdate where
  currentVersion : String
  availableVersion : String
  deriving DecidableEq, Repr

/-- The `Held` flags are those of `apt-mark showhold`. -/
def setHeld (held : List String) (updates : List PackageUpdate) : List PackageUpdate :=
  updates.map fun u => { u with held := decide (u.name ∈ held) }

/-- **Where a call is**: with the answers to it, and their numbers. -/
inductive Call
  | idle
  | listed (rows : List PackageUpdate) (rowsAt : ℕ)
  | checked (updates : List PackageUpdate) (rowsAt heldAt : ℕ)
  | holds (held : List String) (heldAt : ℕ)
  | saving (updates : List PackageUpdate) (rowsAt heldAt : ℕ)
  | finished (updates : List PackageUpdate) (rowsAt heldAt : ℕ)
  | failed
  deriving DecidableEq, Repr

/-- What a call has made of the list: its rows and its flags are those of the answers with these
numbers. -/
structure Product where
  updates : List PackageUpdate
  rowsAt : ℕ
  heldAt : ℕ
  deriving DecidableEq, Repr

/-- What a call has set the list to. -/
def Call.product : Call → Option Product
  | .saving updates rowsAt heldAt => some ⟨updates, rowsAt, heldAt⟩
  | .finished updates rowsAt heldAt => some ⟨updates, rowsAt, heldAt⟩
  | _ => none

/-- A call has set the list, and has not saved it. -/
def Call.isSaving : Call → Bool
  | .saving _ _ _ => true
  | _ => false

/-- A call is in progress. -/
def Call.active : Call → Bool
  | .idle => false
  | .finished _ _ _ => false
  | .failed => false
  | _ => true

section Machine

variable {ι : Type} [DecidableEq ι]

/-- The list, the file, as far as it can be read back, and the calls.  `rowsAt`, `heldAt` and `last`
say where the list comes from: the numbers of the answers, and the call that has set it. -/
structure State (ι : Type) where
  updates : List PackageUpdate
  file : Option (List PackageUpdate)
  calls : ι → Call
  answers : ℕ
  rowsAt : ℕ
  heldAt : ℕ
  last : Option ι

/-- How a write comes out; one that fails leaves something else. -/
inductive Outcome
  | written
  | failed (left : Option (List PackageUpdate))
  deriving DecidableEq, Repr

/-- A step of a call, with what it is answered; the check of the package manager may fail, and
`aptHeldPackages` then answers with nothing. -/
inductive Event (ι : Type)
  | list (c : ι) (rows : Option (List PackageUpdate))
  | showhold (c : ι) (held : List String)
  | install (c : ι)
  | save (c : ι) (outcome : Outcome)

/-- A call goes on. -/
def State.goTo (s : State ι) (c : ι) (call : Call) : State ι :=
  { s with calls := Function.update s.calls c call }

/-- …with an answer. -/
def State.answer (s : State ι) (c : ι) (call : Call) : State ι :=
  { s.goTo c call with answers := s.answers + 1 }

/-- …and sets the list. -/
def State.install (s : State ι) (c : ι) (product : Product) : State ι :=
  { s.goTo c (.saving product.updates product.rowsAt product.heldAt) with
    updates := product.updates
    rowsAt := product.rowsAt
    heldAt := product.heldAt
    last := some c }

/-- `saveUpdates`. -/
def State.saveUpdates (s : State ι) (c : ι) (product : Product) (outcome : Outcome) : State ι :=
  { s.goTo c (.finished product.updates product.rowsAt product.heldAt) with
    file := match outcome with
      | .written => some product.updates
      | .failed left => left }

/-- What `loadUpdates` reads. -/
def State.loadUpdates (s : State ι) : List PackageUpdate := s.file.getD []

/-- **A step of a call.**  Holds are read with `apt` only; the other checks leave no package
held. -/
def step (apt : Bool) (s : State ι) : Event ι → Option (State ι)
  | .list c rows =>
    match s.calls c, rows with
    | .idle, some rows =>
      some (s.answer c (if apt then .listed rows s.answers
        else .checked (setHeld [] rows) s.answers s.answers))
    | .idle, none => some (s.goTo c .failed)
    | _, _ => none
  | .showhold c held =>
    match s.calls c with
    | .listed rows rowsAt => some (s.answer c (.checked (setHeld held rows) rowsAt s.answers))
    | .idle => if apt then some (s.answer c (.holds held s.answers)) else none
    | _ => none
  | .install c =>
    match s.calls c with
    | .checked updates rowsAt heldAt => some (s.install c ⟨updates, rowsAt, heldAt⟩)
    | .holds held heldAt => some (s.install c ⟨setHeld held s.updates, s.rowsAt, heldAt⟩)
    | _ => none
  | .save c outcome =>
    match s.calls c with
    | .saving updates rowsAt heldAt => some (s.saveUpdates c ⟨updates, rowsAt, heldAt⟩ outcome)
    | _ => none

/-- After `loadUpdates`, before the first call. -/
def State.start (file : Option (List PackageUpdate)) : State ι where
  updates := file.getD []
  file := file
  calls _ := .idle
  answers := 1
  rowsAt := 0
  heldAt := 0
  last := none

/-! ## What the list is, between calls -/

/-- No call is in progress. -/
def State.Quiet (s : State ι) : Prop := ∀ c, (s.calls c).active = false

/-- **The list is the latest**: it is saved, it is that of the call that was answered last, and none
of the calls was answered later than its rows and its flags were read. -/
structure Settled (s : State ι) : Prop where
  saved : s.loadUpdates = s.updates
  latest : ∀ c p, (s.calls c).product = some p →
    (∀ c' p', (s.calls c').product = some p' → p'.heldAt ≤ p.heldAt) → s.updates = p.updates
  rows : ∀ c p, (s.calls c).product = some p → p.rowsAt ≤ s.rowsAt
  held : ∀ c p, (s.calls c).product = some p → p.heldAt ≤ s.heldAt

/-- The answers to a call are newer than what the list was made of. -/
def Call.Newer (s : State ι) : Call → Prop
  | .checked _ rowsAt heldAt => s.rowsAt < rowsAt ∧ s.heldAt < heldAt
  | .holds _ heldAt => s.heldAt < heldAt
  | _ => True

/-- **The steps in order**: the list is set to what was read after it, and it is saved by the call
that has set it last, or before that does. -/
def Ordered (s : State ι) : Event ι → Prop
  | .install c => (s.calls c).Newer s
  | .save c outcome =>
    if s.last = some c then outcome = .written else ∀ l ∈ s.last, (s.calls l).isSaving = true
  | _ => True

/-- The invariant. -/
structure Inv (s : State ι) : Prop where
  rows : ∀ c p, (s.calls c).product = some p → p.rowsAt ≤ s.rowsAt
  held : ∀ c p, (s.calls c).product = some p → p.heldAt ≤ s.heldAt
  latest : ∀ c p, (s.calls c).product = some p → p.heldAt = s.heldAt → s.updates = p.updates
  last : ∀ l ∈ s.last, (s.calls l).product = some ⟨s.updates, s.rowsAt, s.heldAt⟩
  unset : s.last = none → ∀ c, (s.calls c).product = none
  saved : (∃ l ∈ s.last, (s.calls l).isSaving = true) ∨ s.loadUpdates = s.updates

variable {s s' : State ι} {c : ι} {call : Call} {p : Product}

theorem calls_of_ne {c' : ι} (hne : c' ≠ c) :
    Function.update s.calls c call c' = s.calls c' :=
  Function.update_of_ne hne _ _

theorem product_update {c' : ι} (heq : call.product = (s.calls c).product) :
    (Function.update s.calls c call c').product = (s.calls c').product := by
  by_cases hc : c' = c
  · rw [hc, Function.update_self, heq]
  · rw [calls_of_ne hc]

/-- A call that has not set the list goes on. -/
theorem Inv.goTo (h : Inv s) (hbefore : (s.calls c).product = none) (hafter : call.product = none) :
    Inv (s.goTo c call) := by
  have hproduct (c' : ι) : ((s.goTo c call).calls c').product = (s.calls c').product :=
    product_update (hafter.trans hbefore.symm)
  refine ⟨fun c' p hp => h.rows c' p ((hproduct c').symm.trans hp),
    fun c' p hp => h.held c' p ((hproduct c').symm.trans hp),
    fun c' p hp => h.latest c' p ((hproduct c').symm.trans hp),
    fun l hl => (hproduct l).trans (h.last l hl),
    fun hnone c' => (hproduct c').trans (h.unset hnone c'), h.saved.imp_left ?_⟩
  rintro ⟨l, hl, hsaving⟩
  have hne : l ≠ c := by
    rintro rfl
    rw [h.last l hl] at hbefore
    cases hbefore
  refine ⟨l, hl, ?_⟩
  change (Function.update s.calls c call l).isSaving = true
  rwa [calls_of_ne hne]

theorem Inv.answer (h : Inv s) (hbefore : (s.calls c).product = none)
    (hafter : call.product = none) : Inv (s.answer c call) :=
  have hgoTo := h.goTo hbefore hafter
  ⟨hgoTo.rows, hgoTo.held, hgoTo.latest, hgoTo.last, hgoTo.unset, hgoTo.saved⟩

/-- **A call sets the list** to what was read after it. -/
theorem Inv.install (h : Inv s) (hrows : s.rowsAt ≤ p.rowsAt) (hheld : s.heldAt < p.heldAt) :
    Inv (s.install c p) := by
  have hself : (s.install c p).calls c = .saving p.updates p.rowsAt p.heldAt :=
    Function.update_self _ _ _
  have hcases {c' : ι} {p' : Product} (hp : ((s.install c p).calls c').product = some p') :
      p = p' ∨ (s.calls c').product = some p' := by
    by_cases hc : c' = c
    · rw [hc, hself] at hp
      exact .inl (Option.some.inj hp)
    · exact .inr (calls_of_ne hc ▸ hp)
  refine ⟨fun c' p' hp => ?_, fun c' p' hp => ?_, fun c' p' hp heq => ?_, fun l hl => ?_,
    fun hnone => absurd hnone (Option.some_ne_none c), .inl ⟨c, rfl, ?_⟩⟩
  · rcases hcases hp with rfl | hold
    · exact Nat.le_refl _
    · exact (h.rows c' p' hold).trans hrows
  · rcases hcases hp with rfl | hold
    · exact Nat.le_refl _
    · exact (h.held c' p' hold).trans hheld.le
  · rcases hcases hp with rfl | hold
    · rfl
    · have hsame : p'.heldAt = p.heldAt := heq
      exact absurd (hsame ▸ h.held c' p' hold) (Nat.not_le_of_lt hheld)
  · obtain rfl : c = l := Option.some.inj hl
    rw [hself]
    rfl
  · rw [hself]
    rfl

/-- **A call saves the list that it has set.** -/
theorem Inv.saveUpdates {outcome : Outcome} (h : Inv s)
    (hcall : s.calls c = .saving p.updates p.rowsAt p.heldAt)
    (hok : Ordered s (.save c outcome)) : Inv (s.saveUpdates c p outcome) := by
  have hproduct (c' : ι) :
      ((s.saveUpdates c p outcome).calls c').product = (s.calls c').product :=
    product_update (hcall ▸ rfl)
  refine ⟨fun c' p hp => h.rows c' p ((hproduct c').symm.trans hp),
    fun c' p hp => h.held c' p ((hproduct c').symm.trans hp),
    fun c' p hp => h.latest c' p ((hproduct c').symm.trans hp),
    fun l hl => (hproduct l).trans (h.last l hl),
    fun hnone c' => (hproduct c').trans (h.unset hnone c'), ?_⟩
  simp only [Ordered] at hok
  by_cases hlast : s.last = some c
  · rw [if_pos hlast] at hok
    have hlist := h.last c hlast
    rw [hcall] at hlist
    subst hok
    exact .inr (congrArg Product.updates (Option.some.inj hlist))
  · rw [if_neg hlast] at hok
    obtain ⟨l, hl⟩ : ∃ l, s.last = some l := by
      refine Option.ne_none_iff_exists'.mp fun hnone => ?_
      have hproduct := h.unset hnone c
      rw [hcall] at hproduct
      cases hproduct
    have hne : l ≠ c := fun heq => hlast (heq ▸ hl)
    refine .inl ⟨l, hl, ?_⟩
    change (Function.update s.calls c _ l).isSaving = true
    rw [calls_of_ne hne]
    exact hok l hl

theorem Inv.step {apt : Bool} {e : Event ι} (h : Inv s) (hok : Ordered s e)
    (hs : PkgRefresh.step apt s e = some s') : Inv s' := by
  cases e with
  | list c rows =>
    simp only [PkgRefresh.step] at hs
    split at hs
    · next hcall =>
      obtain rfl := Option.some.inj hs
      refine h.answer (hcall ▸ rfl) ?_
      cases apt <;> rfl
    · next hcall =>
      obtain rfl := Option.some.inj hs
      exact h.goTo (hcall ▸ rfl) rfl
    · cases hs
  | showhold c held =>
    simp only [PkgRefresh.step] at hs
    split at hs
    · next hcall =>
      obtain rfl := Option.some.inj hs
      exact h.answer (hcall ▸ rfl) rfl
    · next hcall =>
      obtain ⟨-, rfl⟩ := guard_eq_some hs
      exact h.answer (hcall ▸ rfl) rfl
    · cases hs
  | install c =>
    simp only [PkgRefresh.step] at hs
    simp only [Ordered] at hok
    split at hs
    · next hcall =>
      rw [hcall] at hok
      obtain rfl := Option.some.inj hs
      exact h.install hok.1.le hok.2
    · next hcall =>
      rw [hcall] at hok
      obtain rfl := Option.some.inj hs
      exact h.install (Nat.le_refl _) hok
    · cases hs
  | save c outcome =>
    simp only [PkgRefresh.step] at hs
    split at hs
    · next hcall =>
      obtain rfl := Option.some.inj hs
      exact h.saveUpdates hcall hok
    · cases hs

omit [DecidableEq ι] in
theorem Inv.start (file : Option (List PackageUpdate)) : Inv (State.start (ι := ι) file) where
  rows _ _ hp := by cases hp
  held _ _ hp := by cases hp
  latest _ _ hp := by cases hp
  last _ hl := by cases hl
  unset _ _ := rfl
  saved := .inr rfl

omit [DecidableEq ι] in
/-- Between calls, the list is the latest. -/
theorem Inv.settled (h : Inv s) (hquiet : s.Quiet) : Settled s := by
  have hidle {l : ι} (hl : (s.calls l).isSaving = true) : False := by
    have hactive := hquiet l
    cases hcall : s.calls l with
    | saving updates rowsAt heldAt =>
      rw [hcall] at hactive
      cases hactive
    | _ =>
      rw [hcall] at hl
      cases hl
  refine ⟨h.saved.resolve_left fun ⟨l, _, hl⟩ => hidle hl, fun c p hp hmax => ?_, h.rows, h.held⟩
  cases hlast : s.last with
  | none =>
    rw [h.unset hlast c] at hp
    cases hp
  | some l =>
    have hle := hmax l _ (h.last l hlast)
    exact h.latest c p hp ((h.held c p hp).antisymm hle)

/-- **As long as the steps are in order, the list is saved and the latest whenever no call is in
progress.** -/
theorem settled_of_ordered (apt : Bool) (file : Option (List PackageUpdate)) {es : List (Event ι)}
    (hok : Along (step apt) Ordered (.start file) es)
    (hr : run (step apt) (.start file) es = some s) (hquiet : s.Quiet) : Settled s :=
  (inv_of_along Inv.step (.start file) hok hr).settled hquiet

end Machine

/-! ## Runs -/

instance {ι : Type} (s : State ι) : ∀ call : Call, Decidable (call.Newer s)
  | .checked _ _ _ => inferInstanceAs (Decidable (_ ∧ _))
  | .holds _ _ => inferInstanceAs (Decidable (_ < _))
  | .idle => .isTrue trivial
  | .listed _ _ => .isTrue trivial
  | .saving _ _ _ => .isTrue trivial
  | .finished _ _ _ => .isTrue trivial
  | .failed => .isTrue trivial

instance {ι : Type} [DecidableEq ι] (s : State ι) : ∀ e, Decidable (Ordered s e)
  | .install c => inferInstanceAs (Decidable ((s.calls c).Newer s))
  | .save c outcome => inferInstanceAs (Decidable (if s.last = some c then outcome = .written
      else ∀ l ∈ s.last, (s.calls l).isSaving = true))
  | .list _ _ => .isTrue trivial
  | .showhold _ _ => .isTrue trivial

instance {n : ℕ} (s : State (Fin n)) : Decidable s.Quiet :=
  inferInstanceAs (Decidable (∀ c : Fin n, (s.calls c).active = false))

/-- An update of `curl`. -/
def curl (held : Bool) : PackageUpdate :=
  ⟨⟨"curl", false, held⟩, "8.5.0-2ubuntu10.1", "8.5.0-2ubuntu10.6"⟩

/-- The list is set and saved in the order in which the holds were read. -/
theorem settled_of_ordered_hold :
    ∃ s, run (step true) (.start (ι := Fin 2) none)
        [.list 0 (some [curl false]), .showhold 0 [], .install 0, .showhold 1 ["curl"],
          .save 0 .written, .install 1, .save 1 .written] = some s ∧
      s.updates = [curl true] ∧ Settled s := by
  have hrun : (run (step true) (.start (ι := Fin 2) none)
      [.list 0 (some [curl false]), .showhold 0 [], .install 0, .showhold 1 ["curl"],
        .save 0 .written, .install 1, .save 1 .written]).map
          (fun s => (s.updates, decide s.Quiet)) = some ([curl true], true) := by decide
  obtain ⟨s, hs, heq⟩ := Option.map_eq_some_iff.mp hrun
  obtain ⟨hupdates, hquiet⟩ := Prod.mk.inj heq
  exact ⟨s, hs, hupdates, settled_of_ordered true none (by decide) hs (of_decide_eq_true hquiet)⟩

/-- **A slow check undoes a hold**, and the file can be left with another list than the cache. -/
theorem not_settled_of_slow_refresh :
    (∃ s, run (step true) (.start (ι := Fin 2) (some [curl false]))
        [.list 0 (some [curl false]), .showhold 0 [], .showhold 1 ["curl"], .install 1,
          .save 1 .written, .install 0, .save 0 .written] = some s ∧
      s.Quiet ∧ s.updates = [curl false] ∧ ¬Settled s) ∧
    ∃ s, run (step true) (.start (ι := Fin 2) (some [curl false]))
        [.list 0 (some [curl false]), .showhold 0 [], .install 0, .showhold 1 ["curl"],
          .install 1, .save 1 .written, .save 0 .written] = some s ∧
      s.Quiet ∧ s.updates = [curl true] ∧ s.loadUpdates = [curl false] ∧ ¬Settled s := by
  constructor
  · have hrun : (run (step true) (.start (ι := Fin 2) (some [curl false]))
        [.list 0 (some [curl false]), .showhold 0 [], .showhold 1 ["curl"], .install 1,
          .save 1 .written, .install 0, .save 0 .written]).map
            (fun s => (decide s.Quiet, s.updates, s.heldAt, (s.calls 1).product)) =
              some (true, [curl false], 2, some ⟨[curl true], 0, 3⟩) := by decide
    obtain ⟨s, hs, heq⟩ := Option.map_eq_some_iff.mp hrun
    simp only [Prod.mk.injEq] at heq
    obtain ⟨hquiet, hupdates, hheldAt, hproduct⟩ := heq
    refine ⟨s, hs, of_decide_eq_true hquiet, hupdates, fun hsettled => ?_⟩
    have hheld := hsettled.held 1 _ hproduct
    rw [hheldAt] at hheld
    exact absurd hheld (by decide)
  · have hrun : (run (step true) (.start (ι := Fin 2) (some [curl false]))
        [.list 0 (some [curl false]), .showhold 0 [], .install 0, .showhold 1 ["curl"],
          .install 1, .save 1 .written, .save 0 .written]).map
            (fun s => (decide s.Quiet, s.updates, s.loadUpdates)) =
              some (true, [curl true], [curl false]) := by decide
    obtain ⟨s, hs, heq⟩ := Option.map_eq_some_iff.mp hrun
    simp only [Prod.mk.injEq] at heq
    obtain ⟨hquiet, hupdates, hloadUpdates⟩ := heq
    refine ⟨s, hs, of_decide_eq_true hquiet, hupdates, hloadUpdates, fun hsettled => ?_⟩
    have hsaved := hsettled.saved
    rw [hupdates, hloadUpdates] at hsaved
    exact absurd hsaved (by decide)

end PkgRefresh

end Beszel
