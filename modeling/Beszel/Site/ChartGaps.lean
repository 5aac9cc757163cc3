import Beszel.Machinery.Run
import Mathlib.Data.List.Chain
import Mathlib.Data.Int.Notation

/-!
# Site/ChartGaps — the points of a chart, and the gaps between them

    stats ──▸ cache ++ addEmptyValues cache stats ──▸ shown
    realtime ──▸ addEmptyValues shown (last 59 of shown ++ sample) ──▸ shown

`addEmptyValues` of `internal/site/src/components/routes/system.tsx`, and the two places that use
it: the answer to the request for a chart's statistics, which extends the cache, and the handler of
the realtime subscription, which scans the points of the chart again with each sample.  A point
without a time is a gap.  The gaps of a chart are marked once exactly as long as there is none to
mark.
-/

namespace Beszel

open Machinery

namespace ChartGaps

variable {α : Type*}

/-! ## Points -/

/-- A point of a chart, its `created` as `addEmptyValues` leaves it: a time in milliseconds. -/
structure Point (α : Type*) where
  created : Option ℤ
  stats : Option α
  deriving DecidableEq, Repr

/-- `{ created: null, stats: null }`. -/
def gap : Point α := ⟨none, none⟩

/-- What the hub sends. -/
structure Sample (α : Type*) where
  created : ℤ
  stats : α
  deriving DecidableEq, Repr

/-- The point of a sample. -/
def Sample.point (x : Sample α) : Point α := ⟨some x.created, some x.stats⟩

/-- `interval > expectedInterval / 2 + expectedInterval`, with both sides doubled. -/
def TooLarge (expectedInterval interval : ℤ) : Prop :=
  expectedInterval + 2 * expectedInterval < 2 * interval

instance (expectedInterval interval : ℤ) : Decidable (TooLarge expectedInterval interval) := by
  unfold TooLarge
  infer_instance

/-- The loop of `addEmptyValues`, from a `prevTime` on. -/
def addLoop (expectedInterval : ℤ) : ℤ → List (Point α) → List (Point α)
  | _, [] => []
  | prevTime, record :: newRecords =>
    match record.created with
    | none => record :: addLoop expectedInterval prevTime newRecords
    | some created =>
      -- a time of zero counts as none
      (if prevTime ≠ 0 ∧ TooLarge expectedInterval (created - prevTime) then [gap] else [])
        ++ record :: addLoop expectedInterval created newRecords

/-- `addEmptyValues`. -/
def addEmptyValues (prevRecords newRecords : List (Point α)) (expectedInterval : ℤ) :
    List (Point α) :=
  addLoop expectedInterval ((prevRecords.getLast?.bind (·.created)).getD 0) newRecords

/-- `slice(-n)`. -/
def sliceLast {β : Type*} (n : ℕ) (l : List β) : List β := l.drop (l.length - n)

/-! ## A chart -/

/-- The points in the cache and on the page, and, as the observer has them, the samples that belong
there: what the cache and the page would have if gaps took no room.  `interval` is the interval that
the page's points were last scanned with. -/
structure Chart (α : Type*) where
  cache : List (Point α)
  shown : List (Point α)
  cached : List (Sample α)
  window : List (Sample α)
  interval : ℤ

/-- A chart before anything has arrived. -/
def Chart.init : Chart α := ⟨[], [], [], [], 0⟩

/-- The cache keeps a hundred entries once it has more than a hundred and twenty. -/
def trim {β : Type*} (l : List β) : List β := if l.length > 120 then sliceLast 100 l else l

/-- The answer to a request for statistics, or a sample of the realtime subscription. -/
inductive Event (α : Type*)
  | stats (samples : List (Sample α))
  | realtime (sample : Sample α)

/-- One event, for a chart time with its `expectedInterval`. -/
def step (expectedInterval : ℤ) (c : Chart α) : Event α → Option (Chart α)
  | .stats samples =>
    let cache :=
      if samples.length ≠ 0 then
        trim (c.cache ++ addEmptyValues c.cache (samples.map Sample.point) expectedInterval)
      else c.cache
    let cached := trim (c.cached ++ samples)
    some
      { cache := cache
        shown := cache
        cached := cached
        window := cached
        interval := expectedInterval }
  | .realtime sample =>
    some
      { c with
        shown := addEmptyValues c.shown (sliceLast 59 c.shown ++ [sample.point]) 1000
        window := sliceLast 59 c.window ++ [sample]
        interval := 1000 }

/-- The samples among the points. -/
def samples (l : List (Point α)) : List (Sample α) :=
  l.filterMap fun p => p.created.bind fun created => p.stats.map fun stats => ⟨created, stats⟩

/-- **The points on the page**: the samples that belong there, one gap between two of them if they
are too far apart and none otherwise, and nothing that another scan would change. -/
structure Processed (c : Chart α) : Prop where
  samples_eq : samples c.shown = c.window
  gaps : ∀ before x n y after,
    c.shown = before ++ Sample.point x :: (List.replicate n gap ++ Sample.point y :: after) →
      n = if TooLarge c.interval (y.created - x.created) then 1 else 0
  fixed : addEmptyValues [] c.shown c.interval = c.shown

/-- No sample is too far from the one before it. -/
def NoGaps (interval : ℤ) (l : List (Sample α)) : Prop :=
  l.IsChain fun x y => ¬ TooLarge interval (y.created - x.created)

/-- **Nothing to mark**: among the samples that belong on the page after the event none is too far
from the one before it. -/
def Steady (expectedInterval : ℤ) (c : Chart α) : Event α → Prop
  | .stats samples => NoGaps expectedInterval (trim (c.cached ++ samples))
  | .realtime sample => NoGaps 1000 (sliceLast 59 c.window ++ [sample])

/-! ## Scanning -/

section Scan

variable {expectedInterval : ℤ}

/-- The points of samples. -/
def points (w : List (Sample α)) : List (Point α) := w.map Sample.point

theorem points_append (w w' : List (Sample α)) : points (w ++ w') = points w ++ points w' :=
  List.map_append

theorem length_points (w : List (Sample α)) : (points w).length = w.length := List.length_map _

theorem points_drop (w : List (Sample α)) (n : ℕ) : points (w.drop n) = (points w).drop n :=
  List.map_drop

/-- The `prevTime` after some points. -/
def lastTime (prevTime : ℤ) (l : List (Point α)) : ℤ :=
  l.foldl (fun prevTime record => record.created.getD prevTime) prevTime

/-- The gap that may be put before a sample. -/
def gapBefore (expectedInterval prevTime created : ℤ) : List (Point α) :=
  if prevTime ≠ 0 ∧ TooLarge expectedInterval (created - prevTime) then [gap] else []

theorem addLoop_cons (prevTime : ℤ) (record : Point α) (l : List (Point α)) :
    addLoop expectedInterval prevTime (record :: l)
      = record.created.elim [] (gapBefore expectedInterval prevTime)
        ++ record :: addLoop expectedInterval (record.created.getD prevTime) l := by
  obtain ⟨created, stats⟩ := record
  cases created <;> rfl

theorem addLoop_append (prevTime : ℤ) (l l' : List (Point α)) :
    addLoop expectedInterval prevTime (l ++ l') =
      addLoop expectedInterval prevTime l
        ++ addLoop expectedInterval (lastTime prevTime l) l' := by
  induction l generalizing prevTime with
  | nil => rfl
  | cons record l ih =>
    rw [List.cons_append, addLoop_cons, addLoop_cons, ih, List.append_assoc, List.cons_append]
    rfl

/-- Gaps are passed over. -/
theorem addLoop_gaps (prevTime : ℤ) (n : ℕ) (l : List (Point α)) :
    addLoop expectedInterval prevTime (List.replicate n gap ++ l)
      = List.replicate n gap ++ addLoop expectedInterval prevTime l := by
  induction n with
  | zero => rfl
  | succ n ih => exact congrArg (gap :: ·) ih

theorem addLoop_point (expectedInterval prevTime : ℤ) (x : Sample α) (l : List (Point α)) :
    addLoop expectedInterval prevTime (x.point :: l)
      = gapBefore expectedInterval prevTime x.created
        ++ x.point :: addLoop expectedInterval x.created l := rfl

/-- **Nothing is put between samples that are near each other.** -/
theorem addLoop_points {x : Sample α} {w : List (Sample α)} (prevTime : ℤ)
    (h : NoGaps expectedInterval (x :: w)) :
    addLoop expectedInterval prevTime (points (x :: w))
      = gapBefore expectedInterval prevTime x.created ++ points (x :: w) := by
  induction w generalizing x prevTime with
  | nil => rfl
  | cons y w ih =>
    obtain ⟨hxy, hw⟩ := List.isChain_cons_cons.mp h
    have hnone : gapBefore (α := α) expectedInterval x.created y.created = [] :=
      if_neg fun hgap => hxy hgap.2
    rw [points, List.map_cons, addLoop_point]
    change _ ++ x.point :: addLoop _ _ (points (y :: w)) = _
    rw [ih _ hw, hnone]
    rfl

/-- From a time of zero on nothing is put before the first sample either. -/
theorem addLoop_zero_points {w : List (Sample α)} (h : NoGaps expectedInterval w) :
    addLoop expectedInterval 0 (points w) = points w := by
  cases w with
  | nil => rfl
  | cons x w =>
    rw [addLoop_points 0 h, gapBefore, if_neg fun hgap => hgap.1 rfl]
    rfl

/-- What a scan leaves has the points it was given. -/
theorem sublist_addLoop (prevTime : ℤ) (l : List (Point α)) :
    l.Sublist (addLoop expectedInterval prevTime l) := by
  induction l generalizing prevTime with
  | nil => exact List.nil_sublist _
  | cons record l ih =>
    rw [addLoop_cons]
    exact ((ih _).cons_cons record).trans (List.sublist_append_right _ _)

theorem length_le_addLoop (prevTime : ℤ) (l : List (Point α)) :
    l.length ≤ (addLoop expectedInterval prevTime l).length :=
  (sublist_addLoop prevTime l).length_le

/-- Samples that are trimmed are trimmed with their gaps. -/
theorem long_scan {w : List (Sample α)} (h : w.length > 120) :
    (addLoop expectedInterval 0 (points w)).length > 120 := by
  have hle := @length_le_addLoop α expectedInterval 0 (points w)
  rw [length_points] at hle
  omega

theorem samples_append (l l' : List (Point α)) : samples (l ++ l') = samples l ++ samples l' :=
  List.filterMap_append

theorem samples_points (w : List (Sample α)) : samples (points w) = w := by
  rw [samples, points, List.filterMap_map]
  exact List.filterMap_some

theorem samples_gaps (n : ℕ) : samples (List.replicate n (gap : Point α)) = [] :=
  List.filterMap_replicate_of_none rfl

/-- **A scan loses no sample and adds none.** -/
theorem samples_addLoop (prevTime : ℤ) (l : List (Point α)) :
    samples (addLoop expectedInterval prevTime l) = samples l := by
  induction l generalizing prevTime with
  | nil => rfl
  | cons record l ih =>
    have hgap : samples (record.created.elim [] (gapBefore (α := α) expectedInterval prevTime))
        = [] := by
      cases record.created with
      | none => rfl
      | some created =>
        simp only [Option.elim_some, gapBefore]
        split_ifs <;> rfl
    rw [addLoop_cons, samples_append, hgap, List.nil_append, ← List.singleton_append,
      samples_append, ih, ← samples_append, List.singleton_append]

end Scan

/-! ## Steady charts -/

/-- What stands behind a sample, where gaps stand in front of the samples only. -/
theorem points_of_append {k : ℕ} {w : List (Sample α)} {before after : List (Point α)}
    {x : Sample α}
    (h : List.replicate k gap ++ points w = before ++ x.point :: after) :
    ∃ w₁ w₂, w = w₁ ++ x :: w₂ ∧ after = points w₂ := by
  induction k generalizing before with
  | zero =>
    obtain ⟨w₁, w', rfl, -, hrest⟩ := List.map_eq_append_iff.mp h
    obtain ⟨y, w₂, rfl, hy, hafter⟩ := List.map_eq_cons_iff.mp hrest
    obtain ⟨created, stats⟩ := x
    obtain ⟨created', stats'⟩ := y
    cases hy
    exact ⟨w₁, w₂, rfl, hafter.symm⟩
  | succ k ih =>
    cases before with
    | nil => cases h
    | cons p before => exact ih (List.cons.inj h).2

/-- **Near samples behind any gaps are processed points.** -/
theorem processed_of_noGaps {c : Chart α} {k : ℕ}
    (hshown : c.shown = List.replicate k gap ++ points c.window)
    (hnear : NoGaps c.interval c.window) : Processed c where
  samples_eq := by
    rw [hshown, samples_append, samples_gaps, samples_points]
    rfl
  gaps before x n y after h := by
    obtain ⟨w₁, w₂, hw, hrest⟩ := points_of_append (hshown.symm.trans h)
    cases n with
    | zero =>
      cases w₂ with
      | nil => cases hrest
      | cons z w₂ =>
        obtain ⟨created, stats⟩ := y
        obtain ⟨created', stats'⟩ := z
        cases hrest
        have hxy := List.isChain_iff_forall_rel_of_append_cons_cons.mp hnear hw
        rw [if_neg hxy]
    | succ n =>
      -- a gap is no sample
      cases w₂ <;> cases hrest
  fixed := by
    rw [hshown]
    change addLoop c.interval 0 (List.replicate k gap ++ points c.window) = _
    rw [addLoop_gaps, addLoop_zero_points hnear]

/-- **The invariant**: the cache has near samples and no gap, the page has near samples behind the
gaps that a clock which went back may have left. -/
structure Near (expectedInterval : ℤ) (c : Chart α) : Prop where
  cache_eq : c.cache = points c.cached
  cached_near : NoGaps expectedInterval c.cached
  cached_length : c.cached.length ≤ 120
  shown_eq : ∃ k, c.shown = List.replicate k gap ++ points c.window
  window_near : NoGaps c.interval c.window

variable {expectedInterval : ℤ} {c : Chart α}

theorem Near.processed (h : Near expectedInterval c) : Processed c := by
  obtain ⟨k, hk⟩ := h.shown_eq
  exact processed_of_noGaps hk h.window_near

theorem length_trim_le {β : Type*} (l : List β) : (trim l).length ≤ 120 := by
  unfold trim sliceLast
  split_ifs with hlong
  · rw [List.length_drop]
    omega
  · omega

/-- The last points of samples behind gaps are again the last samples behind gaps. -/
theorem sliceLast_gaps (n k : ℕ) (w : List (Sample α)) :
    ∃ k', sliceLast n (List.replicate k gap ++ points w)
      = List.replicate k' gap ++ points (sliceLast n w) := by
  refine ⟨k - (k + w.length - n), ?_⟩
  have hdrop : k + w.length - n - k = w.length - n := by omega
  unfold sliceLast
  rw [List.drop_append, List.length_append, List.length_replicate, length_points,
    List.drop_replicate, points_drop, hdrop]

/-- A scan of near samples behind gaps puts at most one more gap in front of them. -/
theorem addLoop_gaps_points {interval : ℤ} (prevTime : ℤ) (k : ℕ) {w : List (Sample α)}
    (h : NoGaps interval w) :
    ∃ k', addLoop interval prevTime (List.replicate k gap ++ points w)
      = List.replicate k' gap ++ points w := by
  cases w with
  | nil => exact ⟨k, addLoop_gaps prevTime k []⟩
  | cons x w =>
    rw [addLoop_gaps, addLoop_points prevTime h, gapBefore]
    split_ifs
    · refine ⟨k + 1, ?_⟩
      rw [List.replicate_succ', List.append_assoc]
    · exact ⟨k, rfl⟩

/-- What the handler of the realtime subscription scans. -/
theorem Near.scanned (h : Near expectedInterval c) (x : Sample α) :
    ∃ k, sliceLast 59 c.shown ++ [x.point]
      = List.replicate k gap ++ points (sliceLast 59 c.window ++ [x]) := by
  obtain ⟨k, hk⟩ := h.shown_eq
  obtain ⟨k', hk'⟩ := sliceLast_gaps 59 k c.window
  refine ⟨k', ?_⟩
  rw [hk, hk', points_append, List.append_assoc]
  rfl

theorem Near.realtime (h : Near expectedInterval c) {x : Sample α}
    (hx : NoGaps 1000 (sliceLast 59 c.window ++ [x])) :
    ∃ k, addEmptyValues c.shown (sliceLast 59 c.shown ++ [x.point]) 1000
      = List.replicate k gap ++ points (sliceLast 59 c.window ++ [x]) := by
  obtain ⟨k, hk⟩ := h.scanned x
  rw [hk]
  exact addLoop_gaps_points _ k hx

/-- The seed of a scan that goes on behind samples. -/
theorem seed_points (w : List (Sample α)) :
    ((points w).getLast?.bind (·.created)).getD 0 = lastTime 0 (points w) := by
  induction w using List.reverseRecOn with
  | nil => rfl
  | append_singleton w x ih =>
    rw [points_append, lastTime, List.foldl_append]
    simp [points, Sample.point]

/-- The cache before it is trimmed is one scan over all samples. -/
theorem cache_append (h : Near expectedInterval c) (samples : List (Sample α)) :
    c.cache ++ addEmptyValues c.cache (points samples) expectedInterval
      = addLoop expectedInterval 0 (points (c.cached ++ samples)) := by
  rw [h.cache_eq, addEmptyValues, seed_points, points_append, addLoop_append,
    addLoop_zero_points h.cached_near]

theorem sliceLast_append {β : Type*} {l l' : List β} {n : ℕ} (h : l'.length = n) :
    sliceLast n (l ++ l') = l' := by
  have hdrop : (l ++ l').length - n = l.length := by
    rw [List.length_append, h]
    omega
  rw [sliceLast, hdrop, List.drop_left]

theorem length_sliceLast {β : Type*} {l : List β} {n : ℕ} (h : n ≤ l.length) :
    (sliceLast n l).length = n := by
  rw [sliceLast, List.length_drop]
  omega

/-- **Trimming the points trims the samples**, where those that are kept are near each other. -/
theorem trim_addLoop {interval : ℤ} {w : List (Sample α)} (h : NoGaps interval (trim w)) :
    trim (addLoop interval 0 (points w)) = points (trim w) := by
  by_cases hlong : w.length > 120
  · rw [trim, if_pos hlong] at h
    rw [trim, if_pos (long_scan hlong), trim, if_pos hlong]
    have hlength : (sliceLast 100 w).length = 100 := length_sliceLast (by omega)
    obtain ⟨earlier, hsplit⟩ : ∃ earlier, w = earlier ++ sliceLast 100 w :=
      ⟨w.take (w.length - 100), (List.take_append_drop _ w).symm⟩
    set kept := sliceLast 100 w
    obtain ⟨x, rest, hkept⟩ : ∃ x rest, kept = x :: rest := by
      refine List.exists_cons_of_ne_nil fun hnil => ?_
      rw [hnil] at hlength
      cases hlength
    rw [hsplit, points_append, addLoop_append, hkept, addLoop_points _ (hkept ▸ h),
      ← List.append_assoc, ← hkept]
    exact sliceLast_append ((length_points kept).trans hlength)
  · have hshort : ¬ (points w).length > 120 := by rwa [length_points]
    rw [trim, if_neg hlong] at h
    rw [addLoop_zero_points h, trim, if_neg hshort, trim, if_neg hlong]

/-- The cache after the answer to a request. -/
theorem cache_stats (h : Near expectedInterval c) (ps : List (Sample α)) :
    (if ps.length ≠ 0 then
        trim (c.cache ++ addEmptyValues c.cache (ps.map Sample.point) expectedInterval)
      else c.cache)
      = trim (addLoop expectedInterval 0 (points (c.cached ++ ps))) := by
  split_ifs with hlength
  · exact congrArg trim (cache_append h ps)
  · have hshort : ¬ (points c.cached).length > 120 := by
      rw [length_points]
      exact Nat.not_lt.mpr h.cached_length
    rw [List.length_eq_zero_iff.mp (not_not.mp hlength), List.append_nil,
      addLoop_zero_points h.cached_near, trim, if_neg hshort, h.cache_eq]

/-- **A steady event keeps the invariant.** -/
theorem Near.keep (h : Near expectedInterval c) {e : Event α} (he : Steady expectedInterval c e)
    {c' : Chart α} (hstep : step expectedInterval c e = some c') : Near expectedInterval c' := by
  cases e with
  | stats ps =>
    cases hstep
    have hcache := (cache_stats h ps).trans (trim_addLoop he)
    exact
      { cache_eq := hcache
        cached_near := he
        cached_length := length_trim_le _
        shown_eq := ⟨0, hcache⟩
        window_near := he }
  | realtime x =>
    cases hstep
    exact
      { h with
        shown_eq := h.realtime he
        window_near := he }

/-- Another scan marks a gap again that is marked. -/
theorem length_lt_rescan {interval : ℤ} {x y : Sample α} (hx : x.created ≠ 0)
    (hgap : TooLarge interval (y.created - x.created)) (before after : List (Point α)) :
    (before ++ x.point :: gap :: y.point :: after).length
      < (addEmptyValues [] (before ++ x.point :: gap :: y.point :: after) interval).length := by
  have hagain : addLoop interval x.created (gap :: y.point :: after)
      = gap :: gap :: y.point :: addLoop interval y.created after := by
    have hone : gapBefore (α := α) interval x.created y.created = [gap] := if_pos ⟨hx, hgap⟩
    have hpoint := addLoop_point interval x.created y after
    rw [hone] at hpoint
    exact (addLoop_gaps x.created 1 (y.point :: after)).trans (congrArg (gap :: ·) hpoint)
  have hbefore : before.length ≤ (addLoop interval 0 before).length := length_le_addLoop 0 before
  have hafter : after.length ≤ (addLoop interval y.created after).length :=
    length_le_addLoop y.created after
  change _ < (addLoop interval 0 _).length
  rw [addLoop_append, addLoop_point, hagain]
  simp only [List.length_append, List.length_cons]
  omega

/-- **Where a scan has met a gap**, it has marked it, and marks it again when it comes back; or it
cannot mark it, behind a time of zero. -/
theorem not_processed_of_gap {c : Chart α} {prevTime : ℤ} {l l' : List (Point α)}
    {x y : Sample α}
    (hshown : c.shown = addLoop c.interval prevTime (l ++ x.point :: y.point :: l'))
    (hgap : TooLarge c.interval (y.created - x.created)) : ¬ Processed c := by
  intro hprocessed
  rw [addLoop_append, addLoop_point, addLoop_point] at hshown
  by_cases hzero : x.created = 0
  · have hnone : gapBefore (α := α) c.interval x.created y.created = [] :=
      if_neg fun h => h.1 hzero
    rw [hnone, ← List.append_assoc] at hshown
    have hcount := hprocessed.gaps _ x 0 y _ hshown
    rw [if_pos hgap] at hcount
    cases hcount
  · have hone : gapBefore (α := α) c.interval x.created y.created = [gap] :=
      if_pos ⟨hzero, hgap⟩
    rw [hone, ← List.append_assoc, List.singleton_append] at hshown
    have hlonger := length_lt_rescan hzero hgap
      (addLoop c.interval prevTime l ++ gapBefore c.interval (lastTime prevTime l) x.created)
      (addLoop c.interval y.created l')
    rw [← hshown, hprocessed.fixed] at hlonger
    exact Nat.lt_irrefl _ hlonger

theorem exists_gap {interval : ℤ} {w : List (Sample α)} (h : ¬ NoGaps interval w) :
    ∃ x y w₁ w₂, w = w₁ ++ x :: y :: w₂ ∧ TooLarge interval (y.created - x.created) := by
  rw [NoGaps, List.isChain_iff_forall_rel_of_append_cons_cons] at h
  simpa only [not_forall, not_not, exists_prop] using h

/-- A scan of samples that has met a gap leaves no processed points. -/
theorem not_processed_of_scan {c : Chart α} {prevTime : ℤ} {k : ℕ} {w : List (Sample α)}
    (hshown : c.shown = addLoop c.interval prevTime (List.replicate k gap ++ points w))
    (h : ¬ NoGaps c.interval w) : ¬ Processed c := by
  obtain ⟨x, y, w₁, w₂, rfl, hgap⟩ := exists_gap h
  rw [points_append, ← List.append_assoc] at hshown
  exact not_processed_of_gap hshown hgap

/-- Points that are all samples have no room for a gap. -/
theorem eq_points_of_length {l : List (Point α)} (h : (samples l).length = l.length) :
    l = points (samples l) := by
  induction l with
  | nil => rfl
  | cons p l ih =>
    obtain ⟨created, stats⟩ := p
    have hle : (samples l).length ≤ l.length := List.length_filterMap_le ..
    cases created with
    | none =>
      change (samples l).length = l.length + 1 at h
      omega
    | some created =>
      cases stats with
      | none =>
        change (samples l).length = l.length + 1 at h
        omega
      | some stats => exact congrArg (_ :: ·) (ih (Nat.succ.inj h))

/-- As many points as samples: there is no room for the gap that is to be marked. -/
theorem not_processed_of_full {c : Chart α} (hfull : c.shown.length = c.window.length)
    (h : ¬ NoGaps c.interval c.window) : ¬ Processed c := by
  intro hprocessed
  have hsamples := hprocessed.samples_eq
  have hpoints := eq_points_of_length ((congrArg List.length hsamples).trans hfull.symm)
  obtain ⟨x, y, w₁, w₂, hw, hgap⟩ := exists_gap h
  rw [hsamples, hw, points_append] at hpoints
  have hcount := hprocessed.gaps _ x 0 y _ hpoints
  rw [if_pos hgap] at hcount
  cases hcount

/-- Gaps that have made the first sample go, although there is room for all. -/
theorem samples_trim_scan_ne {interval : ℤ} {w : List (Sample α)}
    (hscan : (addLoop interval 0 (points w)).length > 120) :
    samples (trim (addLoop interval 0 (points w))) ≠ w := by
  intro hsamples
  rw [trim, if_pos hscan, sliceLast] at hsamples
  cases w with
  | nil => cases hscan
  | cons x w =>
    have hfirst : addLoop interval 0 (points (x :: w))
        = x.point :: addLoop interval x.created (points w) := by
      rw [points, List.map_cons, addLoop_point, gapBefore, if_neg fun h => h.1 rfl]
      rfl
    have hall : samples (addLoop interval 0 (points (x :: w))) = x :: w := by
      rw [samples_addLoop, samples_points]
    obtain ⟨n, hn⟩ : ∃ n, (addLoop interval 0 (points (x :: w))).length - 100 = n + 1 :=
      ⟨(addLoop interval 0 (points (x :: w))).length - 101, by omega⟩
    have hsplit : samples ((addLoop interval 0 (points (x :: w))).take (n + 1))
        ++ samples ((addLoop interval 0 (points (x :: w))).drop (n + 1)) = x :: w := by
      rw [← samples_append, List.take_append_drop, hall]
    rw [hn] at hsamples
    rw [hsamples] at hsplit
    have hlost := List.append_left_eq_self.mp hsplit
    rw [hfirst] at hlost
    cases hlost

/-- **A cache with a gap in it** is not processed, or has lost a sample too early. -/
theorem not_processed_trim {c : Chart α} {w : List (Sample α)}
    (hshown : c.shown = trim (addLoop c.interval 0 (points w))) (hwindow : c.window = trim w)
    (h : ¬ NoGaps c.interval (trim w)) : ¬ Processed c := by
  by_cases hlong : w.length > 120
  · refine not_processed_of_full ?_ (hwindow ▸ h)
    have hscan : (addLoop c.interval 0 (points w)).length > 120 := long_scan hlong
    rw [hshown, hwindow, trim, if_pos hscan, trim, if_pos hlong, length_sliceLast (by omega),
      length_sliceLast (by omega)]
  · rw [trim, if_neg hlong] at h hwindow
    by_cases hscan : (addLoop c.interval 0 (points w)).length > 120
    · intro hprocessed
      have hsamples := hprocessed.samples_eq
      rw [hshown, hwindow] at hsamples
      exact samples_trim_scan_ne hscan hsamples
    · rw [trim, if_neg hscan] at hshown
      exact not_processed_of_scan (k := 0) hshown h

/-- **An event that is not steady ends it.** -/
theorem Near.not_processed (h : Near expectedInterval c) {e : Event α}
    (he : ¬ Steady expectedInterval c e) :
    ∃ c', step expectedInterval c e = some c' ∧ ¬ Processed c' := by
  cases e with
  | stats ps =>
    refine ⟨_, rfl, ?_⟩
    exact not_processed_trim (cache_stats h ps) rfl he
  | realtime x =>
    refine ⟨_, rfl, ?_⟩
    obtain ⟨k, hk⟩ := h.scanned x
    exact not_processed_of_scan (congrArg (addLoop 1000 _) hk) he

/-- **When the points of a chart are processed**: in every state that a run of answers and realtime
samples passes through, if and only if no event leaves, among the samples that then belong on the
page, one that is too far from the one before it. -/
theorem processed_iff_along (expectedInterval : ℤ) (es : List (Event α)) :
    (∀ earlier, earlier <+: es →
        ∀ c ∈ run (step expectedInterval) Chart.init earlier, Processed c) ↔
      Along (step expectedInterval) (Steady expectedInterval) Chart.init es := by
  refine forall_prefix_iff_along Near.processed (fun h he hstep => h.keep he hstep)
    (fun h he => h.not_processed he) ?_
  exact
    { cache_eq := rfl
      cached_near := List.isChain_nil
      cached_length := Nat.zero_le _
      shown_eq := ⟨0, rfl⟩
      window_near := List.isChain_nil }

/-- Two samples two seconds apart, and a third one: the gap is marked twice. -/
theorem processed_fails :
    ¬ ∀ (expectedInterval : ℤ) (es : List (Event Unit)),
      ∀ c ∈ run (step expectedInterval) Chart.init es, Processed c := by
  intro hall
  have h := hall 60000 [.realtime ⟨10000, ()⟩, .realtime ⟨12000, ()⟩, .realtime ⟨13000, ()⟩] _ rfl
  have hcount := h.gaps [] ⟨10000, ()⟩ 2 ⟨12000, ()⟩ [⟨some 13000, some ()⟩] (by decide)
  revert hcount
  decide

end ChartGaps

end Beszel
