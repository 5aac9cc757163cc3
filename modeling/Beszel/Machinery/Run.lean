import Mathlib.Data.Option.Basic
import Mathlib.Data.List.Basic

/-!
# Machinery/Run — runs of a partial step function

    s ──e₁──▸ s₁ ──e₂──▸ s₂ ──▸ ⋯

A machine is a partial function `step : σ → ε → Option σ`: an event that is not enabled in a state
has no successor there, and everything nondeterministic (a scheduler's choice, the outcome of an
input/output operation) is part of the event.  A run is then a list of events, `run` the state it
leads to, and `Along ok` says that every step of the run meets the condition `ok` in the state it is
taken in.  `inv_of_along` is the rule every safety proof goes through: what the initial state has
and every step that meets the condition preserves, every run that meets the condition ends in.
-/

namespace Machinery

variable {σ ε : Type*} {step : σ → ε → Option σ} {ok : σ → ε → Prop}

/-! ## Runs -/

/-- **The state a list of events leads to** — `none` as soon as one of them is not enabled. -/
def run (step : σ → ε → Option σ) : σ → List ε → Option σ
  | s, [] => some s
  | s, e :: es => (step s e).bind fun s' => run step s' es

@[simp] theorem run_nil (s : σ) : run step s [] = some s := rfl

theorem run_cons (s : σ) (e : ε) (es : List ε) :
    run step s (e :: es) = (step s e).bind fun s' => run step s' es := rfl

/-- A run of one event is its step. -/
theorem run_singleton (s : σ) (e : ε) : run step s [e] = step s e :=
  (step s e).bind_fun_some

/-- A run that starts with `e` takes `e` first. -/
theorem run_cons_eq_some {s t : σ} {e : ε} {es : List ε} :
    run step s (e :: es) = some t ↔ ∃ s', step s e = some s' ∧ run step s' es = some t := by
  rw [run_cons, Option.bind_eq_some_iff]

/-- A guarded event is enabled where its guard holds, and leads to its state. -/
theorem guard_eq_some {p : Prop} [Decidable p] {s t : σ}
    (h : (if p then some s else none) = some t) : p ∧ t = s := by
  obtain ⟨hp, h⟩ := Option.ite_none_right_eq_some.mp h
  exact ⟨hp, (Option.some.inj h).symm⟩

/-- A run of events that are enabled in every state is not stuck. -/
theorem run_isSome {s : σ} {es : List ε} (h : ∀ s, ∀ e ∈ es, (step s e).isSome) :
    (run step s es).isSome := by
  induction es generalizing s with
  | nil => rfl
  | cons e es ih =>
    obtain ⟨s', hs'⟩ := Option.isSome_iff_exists.mp (h s e List.mem_cons_self)
    rw [run_cons, hs', Option.bind_some]
    exact ih fun s e he => h s e (List.mem_cons_of_mem _ he)

/-- **Runs compose.** -/
theorem run_append (s : σ) (es es' : List ε) :
    run step s (es ++ es') = (run step s es).bind fun t => run step t es' := by
  induction es generalizing s with
  | nil => rfl
  | cons e es ih =>
    rw [List.cons_append, run_cons, run_cons, Option.bind_assoc]
    exact congrArg ((step s e).bind ·) (funext ih)

theorem run_append_eq_some {s t : σ} {es es' : List ε} :
    run step s (es ++ es') = some t ↔ ∃ u, run step s es = some u ∧ run step u es' = some t := by
  rw [run_append, Option.bind_eq_some_iff]

/-- A machine whose events are always enabled folds them. -/
theorem run_some (f : σ → ε → σ) (s : σ) (es : List ε) :
    run (fun s e => some (f s e)) s es = some (es.foldl f s) := by
  induction es generalizing s with
  | nil => rfl
  | cons e es ih => exact ih (f s e)

/-! ## Runs whose steps meet a condition -/

/-- **Every step of the run meets `ok`**, read in the state the step is taken in. -/
def Along (step : σ → ε → Option σ) (ok : σ → ε → Prop) : σ → List ε → Prop
  | _, [] => True
  | s, e :: es => ok s e ∧ ∀ s' ∈ step s e, Along step ok s' es

@[simp] theorem along_nil (s : σ) : Along step ok s [] := trivial

theorem along_cons {s : σ} {e : ε} {es : List ε} :
    Along step ok s (e :: es) ↔ ok s e ∧ ∀ s' ∈ step s e, Along step ok s' es := Iff.rfl

/-- A step that meets the condition, in front of a run that does. -/
theorem Along.cons {s s' : σ} {e : ε} {es : List ε} (hok : ok s e) (hstep : step s e = some s')
    (hs' : Along step ok s' es) : Along step ok s (e :: es) := by
  refine ⟨hok, fun t ht => ?_⟩
  obtain rfl : s' = t := Option.some.inj (hstep.symm.trans ht)
  exact hs'

/-- The condition on a composite run, on its two halves. -/
theorem along_append {s : σ} {es es' : List ε} :
    Along step ok s (es ++ es') ↔
      Along step ok s es ∧ ∀ t ∈ run step s es, Along step ok t es' := by
  induction es generalizing s with
  | nil => simp
  | cons e es ih =>
    rw [List.cons_append, along_cons, along_cons, and_assoc]
    refine and_congr_right fun _ => ⟨fun h => ⟨fun s' hs' => (ih.mp (h s' hs')).1, ?_⟩,
      fun h s' hs' => ih.mpr ⟨h.1 s' hs', fun t ht => h.2 t ?_⟩⟩
    · intro t ht
      obtain ⟨s', hs', ht'⟩ := run_cons_eq_some.mp ht
      exact (ih.mp (h s' hs')).2 t ht'
    · exact run_cons_eq_some.mpr ⟨s', hs', ht⟩

/-- A condition on the events alone joins one on the steps. -/
theorem Along.and_forall {P : ε → Prop} {s : σ} {es : List ε} (hs : Along step ok s es)
    (hP : ∀ e ∈ es, P e) : Along step (fun s e => ok s e ∧ P e) s es := by
  induction es generalizing s with
  | nil => trivial
  | cons e es ih =>
    refine ⟨⟨hs.1, hP e List.mem_cons_self⟩, fun s' hs' => ih (hs.2 s' hs') fun e he => ?_⟩
    exact hP e (List.mem_cons_of_mem _ he)

/-- A decidable condition can be checked along a run. -/
instance decidableAlong [∀ s e, Decidable (ok s e)] :
    ∀ (s : σ) (es : List ε), Decidable (Along step ok s es)
  | _, [] => .isTrue trivial
  | s, e :: es =>
    have : Decidable (∀ s' ∈ step s e, Along step ok s' es) :=
      match step s e with
      | none => .isTrue fun _ hs' => nomatch hs'
      | some s' =>
        have : Decidable (Along step ok s' es) := decidableAlong s' es
        decidable_of_iff (Along step ok s' es) (by simp)
    instDecidableAnd

/-- **The invariant rule.**  What every step meeting the condition preserves, every run meeting the
condition preserves. -/
theorem inv_of_along {I : σ → Prop}
    (hstep : ∀ {s e s'}, I s → ok s e → step s e = some s' → I s')
    {s t : σ} {es : List ε} (hs : I s) (hok : Along step ok s es) (hr : run step s es = some t) :
    I t := by
  induction es generalizing s with
  | nil =>
    obtain rfl : s = t := Option.some.inj hr
    exact hs
  | cons e es ih =>
    obtain ⟨s', hs', ht⟩ := run_cons_eq_some.mp hr
    exact ih (hstep hs hok.1 hs') (hok.2 s' hs') ht

/-- **The rule for what holds of the steps**: where the invariant and the condition give a property
of a step, every step of a run that meets the condition has it. -/
theorem along_of_along {I : σ → Prop} {Q : σ → ε → Prop}
    (hstep : ∀ {s e s'}, I s → ok s e → step s e = some s' → I s')
    (hQ : ∀ {s e}, I s → ok s e → Q s e) {s : σ} {es : List ε} (hs : I s)
    (hok : Along step ok s es) : Along step Q s es := by
  induction es generalizing s with
  | nil => trivial
  | cons e es ih =>
    exact ⟨hQ hs hok.1, fun s' hs' => ih (hstep hs hok.1 hs') (hok.2 s' hs')⟩

/-- A condition on the events of a machine that is never stuck. -/
theorem along_iff_forall {P : ε → Prop} (htotal : ∀ s e, (step s e).isSome) {s : σ} {es : List ε} :
    Along step (fun _ e => P e) s es ↔ ∀ e ∈ es, P e := by
  induction es generalizing s with
  | nil => simp
  | cons e es ih =>
    obtain ⟨s', hs'⟩ := Option.isSome_iff_exists.mp (htotal s e)
    rw [along_cons, List.forall_mem_cons, hs']
    refine and_congr_right fun _ => ?_
    exact ⟨fun h => ih.mp (h s' rfl), fun h t ht => Option.some.inj ht ▸ ih.mpr h⟩

/-- **The rule for exact conditions.**  Where the invariant gives `Q`, steps that meet the condition
keep the invariant, and any other step ends `Q`, a run has `Q` throughout if and only if all its
steps meet the condition. -/
theorem forall_prefix_iff_along {I Q : σ → Prop} (hQ : ∀ {s}, I s → Q s)
    (hstep : ∀ {s e s'}, I s → ok s e → step s e = some s' → I s')
    (hbad : ∀ {s e}, I s → ¬ ok s e → ∃ s', step s e = some s' ∧ ¬ Q s')
    {s : σ} {es : List ε} (hs : I s) :
    (∀ earlier, earlier <+: es → ∀ t ∈ run step s earlier, Q t) ↔ Along step ok s es := by
  induction es generalizing s with
  | nil =>
    refine ⟨fun _ => trivial, fun _ earlier hprefix t ht => ?_⟩
    obtain rfl := List.prefix_nil.mp hprefix
    obtain rfl := Option.some.inj ht
    exact hQ hs
  | cons e es ih =>
    rw [along_cons]
    constructor
    · intro hall
      have hok : ok s e := by
        by_contra hnot
        obtain ⟨s', hs', hnotQ⟩ := hbad hs hnot
        exact hnotQ (hall [e] (List.prefix_append [e] es) s' ((run_singleton s e).trans hs'))
      refine ⟨hok, fun s' hs' => (ih (hstep hs hok hs')).mp fun earlier hprefix t ht => ?_⟩
      refine hall (e :: earlier) ((List.prefix_cons_inj e).mpr hprefix) t ?_
      exact run_cons_eq_some.mpr ⟨s', hs', ht⟩
    · rintro ⟨hok, hrest⟩ earlier hprefix t ht
      cases earlier with
      | nil =>
        obtain rfl := Option.some.inj ht
        exact hQ hs
      | cons first earlier =>
        obtain ⟨rfl, htail⟩ := List.cons_prefix_cons.mp hprefix
        obtain ⟨s', hs', ht⟩ := run_cons_eq_some.mp ht
        exact (ih (hstep hs hok hs')).mpr (hrest s' hs') earlier htail t ht

/-- The invariant rule for machines whose every step preserves it. -/
theorem inv_of_run {I : σ → Prop} (hstep : ∀ {s e s'}, I s → step s e = some s' → I s')
    {s t : σ} {es : List ε} (hs : I s) (hr : run step s es = some t) : I t := by
  induction es generalizing s with
  | nil =>
    obtain rfl : s = t := Option.some.inj hr
    exact hs
  | cons e es ih =>
    obtain ⟨s', hs', ht⟩ := run_cons_eq_some.mp hr
    exact ih (hstep hs hs') ht

/-! ## Logs in which a use needs an earlier grant

A log is kept newest entry first.  An entry may *give* a key and may *need* one; the log is licensed
when every need was given before. -/

section Licensed

variable {α κ : Type*} {needs gives : α → Option κ}

/-- **Every key an entry needs was given by an older entry.** -/
def Licensed (needs gives : α → Option κ) : List α → Prop
  | [] => True
  | a :: older => (∀ k ∈ needs a, ∃ b ∈ older, gives b = some k) ∧ Licensed needs gives older

/-- An entry that needs nothing keeps a log licensed. -/
theorem Licensed.cons_of_none {a : α} {older : List α} (h : Licensed needs gives older)
    (ha : needs a = none) : Licensed needs gives (a :: older) := by
  refine ⟨fun k hk => ?_, h⟩
  rw [ha] at hk
  cases hk

/-- An entry whose need an older one gives keeps a log licensed. -/
theorem Licensed.cons_of_given {a : α} {older : List α} {k : κ} (h : Licensed needs gives older)
    (ha : needs a = some k) (hk : ∃ b ∈ older, gives b = some k) :
    Licensed needs gives (a :: older) := by
  refine ⟨fun k' hk' => ?_, h⟩
  obtain rfl : k = k' := Option.some.inj (ha.symm.trans hk')
  exact hk

instance decidableLicensed [DecidableEq κ] : ∀ log : List α, Decidable (Licensed needs gives log)
  | [] => .isTrue trivial
  | a :: older =>
    have : Decidable (Licensed needs gives older) := decidableLicensed older
    have : Decidable (∀ k ∈ needs a, ∃ b ∈ older, gives b = some k) := inferInstance
    instDecidableAnd

end Licensed

end Machinery
