import Beszel.Machinery.Table
import Mathlib.Data.List.Induction
import Mathlib.Order.Lattice

/-!
# Machinery/Upserts — a table that is inserted into, or written over, and that expires

    put rows ──▸ t ──edit──▸ t' ──expire──▸ t'' ──put rows'──▸ ⋯

Rows are put into a table, each over the row of its key if there is one; statements edit or delete
the rows that are there; and rows whose stamp is before a cutoff expire.  What is found under a key
after a run of such operations is told from the run alone: the last row of the key that was put, as
the later operations left it (`lookup_runOps_iff`).  Of expiries whose cutoffs do not go back only
the last one matters (`lookup_expire`).
-/

namespace Machinery

namespace Upserts

variable {α κ τ : Type*} [DecidableEq κ] [LinearOrder τ] (key : α → κ) (stamp : α → τ)

/-! ## Operations -/

/-- What is done to a table.  An edit deletes the rows that it gives nothing for. -/
inductive Op (α τ : Type*)
  | put (rows : List α)
  | edit (f : α → Option α)
  | expire (cutoff : τ)

/-- An edit leaves key and stamp alone. -/
def Op.Keeps : Op α τ → Prop
  | .edit f => ∀ a b, f a = some b → key b = key a ∧ stamp b = stamp a
  | _ => True

/-- Whether it is an expiry. -/
def Op.isExpire : Op α τ → Bool
  | .expire _ => true
  | _ => false

/-- A row that is not before the cutoff. -/
def fresh (cutoff : τ) (a : α) : Bool := cutoff ≤ stamp a

/-- **One operation.** -/
def apply (t : List α) : Op α τ → List α
  | .put rows => rows.foldl (Table.store key) t
  | .edit f => t.filterMap f
  | .expire cutoff => t.filter (fresh stamp cutoff)

/-- A run of operations on the empty table. -/
def runOps (ops : List (Op α τ)) : List α := ops.foldl (apply key stamp) []

/-- The last row of a key in a batch. -/
def latest (k : κ) (rows : List α) : Option α := Table.lookup key rows.reverse k

/-- What an operation does with one row that is there: nothing is left of it where the batch has
another row of its key. -/
def carry (a : α) : Op α τ → Option α
  | .put rows => if ∃ b ∈ rows, key b = key a then none else some a
  | .edit f => f a
  | .expire cutoff => if fresh stamp cutoff a then some a else none

/-- What a run of operations does with one row. -/
def carryAll : List (Op α τ) → α → Option α
  | [], a => some a
  | op :: ops, a => (carry key stamp a op).bind (carryAll ops)

variable {key} {stamp} {t : List α} {op : Op α τ} {ops : List (Op α τ)} {a b : α} {k : κ}

/-! ## One operation -/

omit [DecidableEq κ] in
theorem nodup_filterMap {f : α → Option α} (hf : ∀ a b, f a = some b → key b = key a)
    (h : (t.map key).Nodup) : ((t.filterMap f).map key).Nodup := by
  refine List.Sublist.nodup ?_ h
  induction t with
  | nil => exact List.Sublist.slnil
  | cons a t ih =>
    rw [List.map_cons, List.nodup_cons] at h
    cases hfa : f a with
    | none =>
      rw [List.filterMap_cons_none hfa]
      exact (ih h.2).cons _
    | some b =>
      rw [List.filterMap_cons_some hfa, List.map_cons, List.map_cons, hf a b hfa]
      exact (ih h.2).cons_cons _

/-- **An edit**, on the row of a key. -/
theorem lookup_filterMap {f : α → Option α} (hf : ∀ a b, f a = some b → key b = key a)
    (h : (t.map key).Nodup) :
    Table.lookup key (t.filterMap f) k = (Table.lookup key t k).bind f := by
  induction t with
  | nil => rfl
  | cons a t ih =>
    have htail := (List.nodup_cons.mp h).2
    by_cases hk : key a = k
    · have hrest : Table.lookup key t k = none := by
        refine List.find?_eq_none.mpr fun b hb hbk => (List.nodup_cons.mp h).1 ?_
        rw [hk, ← of_decide_eq_true hbk]
        exact List.mem_map_of_mem hb
      have hfound : Table.lookup key (a :: t) k = some a :=
        List.find?_cons_of_pos (by simpa using hk)
      rw [hfound, Option.bind_some]
      cases hfa : f a with
      | none => rw [List.filterMap_cons_none hfa, ih htail, hrest, Option.bind_none]
      | some b =>
        rw [List.filterMap_cons_some hfa]
        exact List.find?_cons_of_pos (by simpa [hf a b hfa] using hk)
    · have hskip : Table.lookup key (a :: t) k = Table.lookup key t k :=
        List.find?_cons_of_neg (by simpa using hk)
      rw [hskip, ← ih htail]
      cases hfa : f a with
      | none => rw [List.filterMap_cons_none hfa]
      | some b =>
        rw [List.filterMap_cons_some hfa]
        exact List.find?_cons_of_neg (by simpa [hf a b hfa] using hk)

/-! ## Runs -/

theorem lookup_expireRows {cutoff : τ} (h : (t.map key).Nodup) :
    Table.lookup key (t.filter (fresh stamp cutoff)) k
      = (Table.lookup key t k).filter (fresh stamp cutoff) := by
  rw [← List.filterMap_eq_filter, lookup_filterMap (fun a b hab => ?_) h]
  · cases Table.lookup key t k <;> simp [Option.guard, Option.filter]
  · rw [(Option.guard_eq_some_iff.mp hab).1]

theorem nodup_apply (hop : op.Keeps key stamp) (h : (t.map key).Nodup) :
    ((apply key stamp t op).map key).Nodup := by
  cases op with
  | put rows => exact Table.nodup_foldl_store h rows
  | edit f => exact nodup_filterMap (fun a b hab => (hop a b hab).1) h
  | expire cutoff => exact ((List.filter_sublist).map key).nodup h

theorem runOps_append_singleton (ops : List (Op α τ)) (op : Op α τ) :
    runOps key stamp (ops ++ [op]) = apply key stamp (runOps key stamp ops) op := by
  rw [runOps, List.foldl_append]
  rfl

/-- **Keys stay unique.** -/
theorem nodup_runOps (hops : ∀ op ∈ ops, op.Keeps key stamp) :
    ((runOps key stamp ops).map key).Nodup := by
  induction ops using List.reverseRecOn with
  | nil => exact List.nodup_nil
  | append_singleton ops op ih =>
    rw [runOps_append_singleton]
    have hlast := hops op (List.mem_append_right _ List.mem_cons_self)
    exact nodup_apply hlast (ih fun op' hop' => hops op' (List.mem_append_left _ hop'))

/-- **What is found after one more operation**: a row that it puts, or what it leaves of the row
that was found before. -/
theorem lookup_apply (hop : op.Keeps key stamp) (h : (t.map key).Nodup) :
    Table.lookup key (apply key stamp t op) k = some b ↔
      (∃ rows, op = .put rows ∧ latest key k rows = some b) ∨
        ∃ a, Table.lookup key t k = some a ∧ carry key stamp a op = some b := by
  cases op with
  | put rows =>
    rw [apply, Table.lookup_foldl_store, ← latest]
    cases hlatest : latest key k rows with
    | none =>
      have hnot : ∀ a, Table.lookup key t k = some a → ¬ ∃ b ∈ rows, key b = key a :=
        fun a ha ⟨b, hb, hkey⟩ =>
          Table.key_ne_of_lookup_eq_none hlatest b (List.mem_reverse.mpr hb)
            (hkey.trans (Table.key_of_lookup ha))
      constructor
      · exact fun hb => .inr ⟨b, hb, if_neg (hnot b hb)⟩
      · rintro (⟨rows', hrows, hb⟩ | ⟨a, ha, hcarry⟩)
        · cases hrows
          rw [hlatest] at hb
          cases hb
        · rw [carry, if_neg (hnot a ha)] at hcarry
          rw [← hcarry]
          exact ha
    | some c =>
      constructor
      · exact fun hb => .inl ⟨rows, rfl, hlatest.trans hb⟩
      · rintro (⟨rows', hrows, hb⟩ | ⟨a, ha, hcarry⟩)
        · cases hrows
          exact hlatest.symm.trans hb
        · refine absurd ?_ (Option.ite_none_left_eq_some.mp hcarry).1
          have hmem : c ∈ rows := List.mem_reverse.mp (Table.mem_of_lookup hlatest)
          exact ⟨c, hmem, (Table.key_of_lookup hlatest).trans (Table.key_of_lookup ha).symm⟩
  | edit f =>
    rw [apply, lookup_filterMap (fun a b hab => (hop a b hab).1) h, Option.bind_eq_some_iff]
    exact ⟨.inr, fun h => h.resolve_left fun ⟨_, hput, _⟩ => by cases hput⟩
  | expire cutoff =>
    rw [apply, lookup_expireRows h, Option.filter_eq_some_iff]
    constructor
    · exact fun ⟨hb, hfresh⟩ => .inr ⟨b, hb, if_pos hfresh⟩
    · rintro (⟨_, hput, _⟩ | ⟨a, ha, hcarry⟩)
      · cases hput
      · obtain ⟨hfresh, hab⟩ := Option.ite_none_right_eq_some.mp hcarry
        rw [← Option.some.inj hab]
        exact ⟨ha, hfresh⟩

theorem carryAll_append_singleton (ops : List (Op α τ)) (op : Op α τ) (a : α) :
    carryAll key stamp (ops ++ [op]) a
      = (carryAll key stamp ops a).bind (carry key stamp · op) := by
  induction ops generalizing a with
  | nil => exact Option.bind_fun_some _
  | cons first ops ih =>
    rw [List.cons_append, carryAll, carryAll, Option.bind_assoc]
    exact congrArg _ (funext ih)

/-- **What is found after a run**: the last row of the key that was put, as the operations after it
left it. -/
theorem lookup_runOps_iff (hops : ∀ op ∈ ops, op.Keeps key stamp) :
    Table.lookup key (runOps key stamp ops) k = some b ↔
      ∃ before rows later a, ops = before ++ .put rows :: later ∧
        latest key k rows = some a ∧ carryAll key stamp later a = some b := by
  induction ops using List.reverseRecOn generalizing b with
  | nil =>
    constructor
    · exact fun h => nomatch h
    · rintro ⟨before, rows, later, a, hops, -⟩
      cases before <;> cases hops
  | append_singleton ops op ih =>
    have hearlier : ∀ op' ∈ ops, op'.Keeps key stamp :=
      fun op' hop' => hops op' (List.mem_append_left _ hop')
    have hop : op.Keeps key stamp := hops op (List.mem_append_right _ List.mem_cons_self)
    rw [runOps_append_singleton, lookup_apply hop (nodup_runOps hearlier)]
    constructor
    · rintro (⟨rows, rfl, hlatest⟩ | ⟨a, ha, hcarry⟩)
      · exact ⟨ops, rows, [], b, rfl, hlatest, rfl⟩
      · obtain ⟨before, rows, later, c, rfl, hlatest, hlater⟩ := (ih hearlier).mp ha
        refine ⟨before, rows, later ++ [op], c, by simp, hlatest, ?_⟩
        rw [carryAll_append_singleton, hlater]
        exact hcarry
    · rintro ⟨before, rows, later, a, hsplit, hlatest, hlater⟩
      rcases List.eq_nil_or_concat later with rfl | ⟨later, last, rfl⟩
      · obtain ⟨rfl, hlast⟩ := List.append_inj' hsplit rfl
        obtain rfl := (List.cons.inj hlast).1
        exact .inl ⟨rows, rfl, hlatest.trans hlater⟩
      · rw [List.concat_eq_append, ← List.cons_append, ← List.append_assoc] at hsplit
        obtain ⟨rfl, hlast⟩ := List.append_inj' hsplit rfl
        obtain rfl := (List.cons.inj hlast).1
        rw [List.concat_eq_append, carryAll_append_singleton] at hlater
        obtain ⟨c, hc, hcarry⟩ := Option.bind_eq_some_iff.mp hlater
        exact .inr ⟨c, (ih hearlier).mpr ⟨before, rows, later, a, rfl, hlatest, hc⟩, hcarry⟩

/-! ## Expiries -/

/-- The run without its expiries. -/
def unexpired (ops : List (Op α τ)) : List (Op α τ) := ops.filter (!·.isExpire)

omit [DecidableEq κ] [LinearOrder τ] in
theorem keeps_unexpired (hops : ∀ op ∈ ops, op.Keeps key stamp) :
    ∀ op ∈ unexpired ops, op.Keeps key stamp :=
  fun op hop => hops op (List.mem_of_mem_filter hop)

/-- An edit commutes with an expiry. -/
theorem bind_filter_fresh {f : α → Option α} {cutoff : τ} {x : Option α}
    (hf : ∀ a b, f a = some b → stamp b = stamp a) :
    (x.bind f).filter (fresh stamp cutoff) = (x.filter (fresh stamp cutoff)).bind f := by
  cases x with
  | none => rfl
  | some a =>
    rw [Option.bind_some]
    cases hfa : f a with
    | none => by_cases h : fresh stamp cutoff a <;> simp [Option.filter, h, hfa]
    | some b =>
      have hsame : fresh stamp cutoff b = fresh stamp cutoff a := by
        rw [fresh, fresh, hf a b hfa]
      by_cases h : fresh stamp cutoff a <;> simp [Option.filter, hsame, h, hfa]

/-- An expiry that is no later than another adds nothing to it. -/
theorem filter_fresh_of_le {c cutoff : τ} (hle : c ≤ cutoff) (x : Option α) :
    (x.filter (fresh stamp c)).filter (fresh stamp cutoff) = x.filter (fresh stamp cutoff) := by
  cases x with
  | none => rfl
  | some a =>
    by_cases h : fresh stamp cutoff a
    · have hc : fresh stamp c a := decide_eq_true (hle.trans (of_decide_eq_true h))
      simp [Option.filter, hc]
    · by_cases hc : fresh stamp c a <;> simp [Option.filter, h, hc]

/-- **Of expiries only the last matters**, where their cutoffs do not go back: it leaves, of what
the run without expiries has, what is not before its cutoff. -/
theorem lookup_expire {cutoff : τ} (hops : ∀ op ∈ ops, op.Keeps key stamp)
    (hcutoffs : ∀ c, .expire c ∈ ops → c ≤ cutoff) :
    Table.lookup key (runOps key stamp (ops ++ [.expire cutoff])) k
      = (Table.lookup key (runOps key stamp (unexpired ops)) k).filter (fresh stamp cutoff) := by
  rw [runOps_append_singleton, apply, lookup_expireRows (nodup_runOps hops)]
  induction ops using List.reverseRecOn with
  | nil => rfl
  | append_singleton ops op ih =>
    have hearlier : ∀ op' ∈ ops, op'.Keeps key stamp :=
      fun op' hop' => hops op' (List.mem_append_left _ hop')
    have hop : op.Keeps key stamp := hops op (List.mem_append_right _ List.mem_cons_self)
    have ih := ih hearlier fun c hc => hcutoffs c (List.mem_append_left _ hc)
    rw [runOps_append_singleton, unexpired, List.filter_append]
    cases op with
    | put rows =>
      refine Eq.trans ?_ (congrArg (fun t => (Table.lookup key t k).filter (fresh stamp cutoff))
        (runOps_append_singleton (unexpired ops) (.put rows)).symm)
      rw [apply, apply, Table.lookup_foldl_store, Table.lookup_foldl_store]
      cases Table.lookup key rows.reverse k with
      | none => exact ih
      | some a => rfl
    | edit f =>
      have hf : ∀ a b, f a = some b → key b = key a := fun a b hab => (hop a b hab).1
      refine Eq.trans ?_ (congrArg (fun t => (Table.lookup key t k).filter (fresh stamp cutoff))
        (runOps_append_singleton (unexpired ops) (.edit f)).symm)
      rw [apply, apply, lookup_filterMap hf (nodup_runOps hearlier),
        lookup_filterMap hf (nodup_runOps (keeps_unexpired hearlier)),
        bind_filter_fresh fun a b hab => (hop a b hab).2,
        bind_filter_fresh fun a b hab => (hop a b hab).2, ih]
    | expire c =>
      have hnone : [Op.expire c].filter (fun op : Op α τ => !op.isExpire) = [] := rfl
      rw [hnone, List.append_nil, apply, lookup_expireRows (nodup_runOps hearlier),
        filter_fresh_of_le (hcutoffs c (List.mem_append_right _ List.mem_cons_self))]
      exact ih

/-! ## Systems that have such a table

Of each event of a system it is known which operation it is on the table, if it is one. -/

section System

variable {σ ε : Type*} {step : σ → ε → σ} {opOf : ε → Option (Op α τ)}
  {s₀ : σ} {events : List ε}

/-- What an event does to the table. -/
def applyEvent (key : α → κ) (stamp : α → τ) (opOf : ε → Option (Op α τ)) (t : List α) (e : ε) :
    List α :=
  match opOf e with
  | some op => apply key stamp t op
  | none => t

/-- What an event leaves of one row. -/
def carryEvent (key : α → κ) (stamp : α → τ) (opOf : ε → Option (Op α τ)) (a : α) (e : ε) :
    Option α :=
  match opOf e with
  | some op => carry key stamp a op
  | none => some a

theorem carryAll_filterMap_cons (e : ε) (a : α) :
    carryAll key stamp ((e :: events).filterMap opOf) a
      = (carryEvent key stamp opOf a e).bind (carryAll key stamp (events.filterMap opOf)) := by
  unfold carryEvent
  cases hop : opOf e with
  | none => rw [List.filterMap_cons_none hop, Option.bind_some]
  | some op => rw [List.filterMap_cons_some hop, carryAll]

/-- **What a run of events leaves of a row**, where whether an event leaves it is told by what no
event changes. -/
theorem carryAll_filterMap_iff {spares : ε → α → Prop} {change : ε → α → α}
    (hcarry : ∀ e a b, carryEvent key stamp opOf a e = some b ↔ spares e a ∧ b = change e a)
    (hspares : ∀ e e' a, spares e (change e' a) ↔ spares e a) :
    carryAll key stamp (events.filterMap opOf) a = some b ↔
      (∀ e ∈ events, spares e a) ∧ b = events.foldl (fun a e => change e a) a := by
  induction events generalizing a with
  | nil =>
    rw [List.filterMap_nil, carryAll, Option.some_inj, List.foldl_nil]
    exact ⟨fun h => ⟨fun _ he => (List.not_mem_nil he).elim, h.symm⟩, fun h => h.2.symm⟩
  | cons e events ih =>
    rw [carryAll_filterMap_cons, Option.bind_eq_some_iff, List.forall_mem_cons, List.foldl_cons]
    constructor
    · rintro ⟨c, hc, hrest⟩
      obtain ⟨he, rfl⟩ := (hcarry e a c).mp hc
      obtain ⟨hevents, hb⟩ := ih.mp hrest
      exact ⟨⟨he, fun e' he' => (hspares e' e a).mp (hevents e' he')⟩, hb⟩
    · rintro ⟨⟨he, hevents⟩, hb⟩
      refine ⟨change e a, (hcarry e a _).mpr ⟨he, rfl⟩, ih.mpr ⟨fun e' he' => ?_, hb⟩⟩
      exact (hspares e' e a).mpr (hevents e' he')

/-- The table of a system is the run of its operations. -/
theorem view_eq_runOps (view : σ → List α)
    (hstep : ∀ s e, view (step s e) = applyEvent key stamp opOf (view s) e)
    (hs₀ : view s₀ = []) (events : List ε) :
    view (events.foldl step s₀) = runOps key stamp (events.filterMap opOf) := by
  induction events using List.reverseRecOn with
  | nil => exact hs₀
  | append_singleton events e ih =>
    rw [List.foldl_append, List.foldl_cons, List.foldl_nil, hstep, ih, List.filterMap_append,
      applyEvent]
    cases hop : opOf e with
    | none => rw [List.filterMap_cons_none hop, List.filterMap_nil, List.append_nil]
    | some op =>
      rw [List.filterMap_cons_some hop, List.filterMap_nil, runOps_append_singleton]

/-- **What is found in the table of a system.** -/
theorem lookup_view_iff (view : σ → List α)
    (hstep : ∀ s e, view (step s e) = applyEvent key stamp opOf (view s) e)
    (hs₀ : view s₀ = []) (hkeeps : ∀ e, ∀ op ∈ opOf e, op.Keeps key stamp) :
    Table.lookup key (view (events.foldl step s₀)) k = some b ↔
      ∃ before e rows later a, events = before ++ e :: later ∧ opOf e = some (.put rows) ∧
        latest key k rows = some a ∧ carryAll key stamp (later.filterMap opOf) a = some b := by
  have hall : ∀ op ∈ events.filterMap opOf, op.Keeps key stamp := fun op hop => by
    obtain ⟨e, -, he⟩ := List.mem_filterMap.mp hop
    exact hkeeps e op he
  rw [view_eq_runOps view hstep hs₀, lookup_runOps_iff hall]
  constructor
  · rintro ⟨before, rows, later, a, hsplit, hlatest, hlater⟩
    obtain ⟨l₁, l₂, rfl, -, hl₂⟩ := List.filterMap_eq_append_iff.mp hsplit
    obtain ⟨skipped, e, rest, rfl, -, he, rfl⟩ := List.filterMap_eq_cons_iff.mp hl₂
    exact ⟨l₁ ++ skipped, e, rows, rest, a, (List.append_assoc _ _ _).symm, he, hlatest, hlater⟩
  · rintro ⟨before, e, rows, later, a, rfl, he, hlatest, hlater⟩
    refine ⟨before.filterMap opOf, rows, later.filterMap opOf, a, ?_, hlatest, hlater⟩
    rw [List.filterMap_append, List.filterMap_cons_some he]

end System

end Upserts

end Machinery
