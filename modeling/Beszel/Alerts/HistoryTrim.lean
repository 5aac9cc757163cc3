import Beszel.Alerts.History
import Mathlib.Data.List.Dedup
import Mathlib.Data.List.Sort

/-!
# Alerts/HistoryTrim — the newest history records of each user

    SELECT … GROUP BY user HAVING count > 250 ──▸ for each user: DELETE … NOT IN (… LIMIT 200)

The statements of `deleteOldAlertsHistory` in `internal/records/records.go`, one after the other.
Which of two records of the same time comes first in an `ORDER BY` is up to the engine, and it may
decide differently each time.  The loop is the one pass over the records that the machine of
`Alerts/History` takes for it.
-/

namespace Beszel

namespace AlertsHistory

/-! ## The statements -/

/-- What `alerts_history` can hold: records with an id each. -/
structure Contents where
  rows : List AlertHistory
  nodup : (rows.map (·.id)).Nodup

/-- How `ORDER BY created DESC` is carried out. -/
structure Engine where
  orderBy : List AlertHistory → List AlertHistory
  perm : ∀ l, (orderBy l).Perm l
  newestFirst : ∀ l, (orderBy l).Pairwise fun h h' => h'.created ≤ h.created

/-- `WHERE user = {:user}`. -/
def rowsOf (rows : List AlertHistory) (user : String) : List AlertHistory :=
  rows.filter (·.user = user)

/-- `SELECT user, COUNT(*) … GROUP BY user HAVING count > {:countBeforeDeletion}`. -/
def usersAbove (rows : List AlertHistory) (countBeforeDeletion : ℤ) : List String :=
  (rows.map (·.user)).dedup.filter fun user => countBeforeDeletion < (rowsOf rows user).length

/-- `DELETE … WHERE user = {:user} AND id NOT IN (SELECT id … LIMIT {:countToKeep})`. -/
def deleteBeyond (engine : Engine) (countToKeep : ℤ) (rows : List AlertHistory) (user : String) :
    List AlertHistory :=
  let newest := limit countToKeep (engine.orderBy (rowsOf rows user))
  rows.filter fun h => h.user ≠ user || newest.any (·.id = h.id)

/-- `deleteOldAlertsHistory`, with the engine that carries out each user's statement. -/
def deleteOldRows (engines : String → Engine) (countToKeep countBeforeDeletion : ℤ)
    (rows : List AlertHistory) : List AlertHistory :=
  (usersAbove rows countBeforeDeletion).foldl
    (fun rows user => deleteBeyond (engines user) countToKeep rows user) rows

/-! ## The loop is one pass -/

variable {engines : String → Engine} {countToKeep countBeforeDeletion : ℤ}
  {rows : List AlertHistory}

theorem filter_deleteBeyond (engine : Engine) (user : String) (p : AlertHistory → Bool) :
    (deleteBeyond engine countToKeep rows user).filter p = rows.filter fun h =>
      p h && (h.user ≠ user ||
        (limit countToKeep (engine.orderBy (rowsOf rows user))).any (·.id = h.id)) :=
  List.filter_filter

/-- A statement leaves the records of other users. -/
theorem rowsOf_deleteBeyond {engine : Engine} {user user' : String} (h : user' ≠ user) :
    rowsOf (deleteBeyond engine countToKeep rows user) user' = rowsOf rows user' := by
  rw [rowsOf, filter_deleteBeyond]
  refine List.filter_congr fun r _ => ?_
  by_cases hr : r.user = user'
  · simp [hr, h]
  · simp [hr]

/-- **The loop over users is one pass over the records**: a record stays if its user is not visited,
or if it is among the newest of its user. -/
theorem foldl_deleteBeyond {users : List String} (husers : users.Nodup) :
    users.foldl (fun rows user => deleteBeyond (engines user) countToKeep rows user) rows
      = rows.filter fun h => h.user ∉ users ||
          (limit countToKeep ((engines h.user).orderBy (rowsOf rows h.user))).any
            (·.id = h.id) := by
  induction users generalizing rows with
  | nil => simp
  | cons user users ih =>
    obtain ⟨hfresh, husers⟩ := List.nodup_cons.mp husers
    rw [List.foldl_cons, ih husers, filter_deleteBeyond]
    refine List.filter_congr fun h _ => ?_
    by_cases huser : h.user = user
    · subst huser
      simp [hfresh]
    · rw [rowsOf_deleteBeyond huser]
      simp [huser]

theorem nodup_usersAbove : (usersAbove rows countBeforeDeletion).Nodup :=
  (List.nodup_dedup _).filter _

/-- The users that are visited are those of a record who have more than the threshold. -/
theorem mem_usersAbove {user : String} :
    user ∈ usersAbove rows countBeforeDeletion ↔
      rowsOf rows user ≠ [] ∧ countBeforeDeletion < (rowsOf rows user).length := by
  unfold usersAbove
  rw [List.mem_filter, List.mem_dedup, decide_eq_true_iff]
  refine and_congr_left fun _ => ?_
  rw [rowsOf, Ne, List.filter_eq_nil_iff]
  simp

/-- **The loop is the trimming of the one machine**, for an order of all records that orders each
user's like the engine does. -/
theorem deleteOldRows_eq (db : Db) {order : List AlertHistory}
    (horder : ∀ user, (engines user).orderBy (rowsOf db.history user) = rowsOf order user) :
    deleteOldRows engines countToKeep countBeforeDeletion db.history
      = (deleteOldAlertsHistory db countToKeep countBeforeDeletion order).history := by
  rw [deleteOldRows, foldl_deleteBeyond nodup_usersAbove]
  refine List.filter_congr fun h hh => ?_
  have hsome : rowsOf db.history h.user ≠ [] :=
    List.ne_nil_of_mem (List.mem_filter.mpr ⟨hh, decide_eq_true rfl⟩)
  have hcount : db.history.countP (·.user = h.user) = (rowsOf db.history h.user).length :=
    List.countP_eq_length_filter
  rw [horder, hcount]
  congr 1
  rw [decide_eq_decide, mem_usersAbove, not_and]
  simp [hsome]

/-! ## What is left -/

/-- The records that one user keeps. -/
def keepNewest (engine : Engine) (countToKeep : ℤ) (l : List AlertHistory) : List AlertHistory :=
  l.filter fun h => (limit countToKeep (engine.orderBy l)).any (·.id = h.id)

/-- **What a user is left with.** -/
theorem rowsOf_deleteOldRows (user : String) :
    rowsOf (deleteOldRows engines countToKeep countBeforeDeletion rows) user =
      if countBeforeDeletion < (rowsOf rows user).length then
        keepNewest (engines user) countToKeep (rowsOf rows user)
      else rowsOf rows user := by
  rw [deleteOldRows, foldl_deleteBeyond nodup_usersAbove, rowsOf, List.filter_filter]
  split_ifs with hcount
  · have hkeep : keepNewest (engines user) countToKeep (rowsOf rows user) = rows.filter fun h =>
        (limit countToKeep ((engines user).orderBy (rowsOf rows user))).any (·.id = h.id)
          && h.user = user := List.filter_filter
    rw [hkeep]
    refine List.filter_congr fun h hh => ?_
    by_cases huser : h.user = user
    · subst huser
      have hvisited : h.user ∈ usersAbove rows countBeforeDeletion :=
        mem_usersAbove.mpr
          ⟨List.ne_nil_of_mem (List.mem_filter.mpr ⟨hh, decide_eq_true rfl⟩), hcount⟩
      simp [hvisited]
    · simp [huser]
  · conv_rhs => rw [rowsOf]
    refine List.filter_congr fun h _ => ?_
    by_cases huser : h.user = user
    · subst huser
      have hskipped : h.user ∉ usersAbove rows countBeforeDeletion :=
        fun hvisited => hcount (mem_usersAbove.mp hvisited).2
      simp [hskipped]
    · simp [huser]

theorem limit_sublist (n : ℤ) (l : List AlertHistory) : (limit n l).Sublist l := by
  unfold limit
  split_ifs
  · exact List.Sublist.refl l
  · exact List.take_sublist _ l

/-- **The records that are kept are those the subquery found**: ids are unique. -/
theorem keepNewest_perm (engine : Engine) {l : List AlertHistory} (h : (l.map (·.id)).Nodup) :
    (keepNewest engine countToKeep l).Perm (limit countToKeep (engine.orderBy l)) := by
  have hnodup : (limit countToKeep (engine.orderBy l)).Nodup :=
    ((engine.perm l).nodup_iff.mpr h.of_map).sublist (limit_sublist _ _)
  refine (List.perm_ext_iff_of_nodup (h.of_map.filter _) hnodup).mpr fun r => ?_
  have hmem : ∀ {r}, r ∈ limit countToKeep (engine.orderBy l) → r ∈ l := fun hr =>
    (engine.perm l).mem_iff.mp ((limit_sublist _ _).subset hr)
  rw [List.mem_filter, List.any_eq_true]
  constructor
  · rintro ⟨hr, r', hr', hid⟩
    rwa [← List.inj_on_of_nodup_map h (hmem hr') hr (of_decide_eq_true hid)]
  · exact fun hr => ⟨hmem hr, r, hr, decide_eq_true rfl⟩

/-- What is kept of a user's records is newer than what is not, or as new. -/
structure Newest (kept all : List AlertHistory) : Prop where
  sublist : kept.Sublist all
  newest : ∀ h ∈ kept, ∀ h' ∈ all, h' ∉ kept → h'.created ≤ h.created

theorem newest_keepNewest (engine : Engine) {l : List AlertHistory} (h : (l.map (·.id)).Nodup) :
    Newest (keepNewest engine countToKeep l) l where
  sublist := List.filter_sublist
  newest r hr r' hr' hlost := by
    rw [(keepNewest_perm engine h).mem_iff] at hr hlost
    unfold limit at hr hlost
    split_ifs at hr hlost with hall
    · exact absurd ((engine.perm l).mem_iff.mpr hr') hlost
    · -- a record that is lost stands behind those that are found
      have hordered := engine.newestFirst l
      have hmem := (engine.perm l).mem_iff.mpr hr'
      rw [← List.take_append_drop countToKeep.toNat (engine.orderBy l)] at hordered hmem
      have hbehind := (List.mem_append.mp hmem).resolve_left hlost
      exact (List.pairwise_append.mp hordered).2.2 r hr r' hbehind

/-- A user with more records than are kept is left with as many as are kept. -/
theorem length_keepNewest (engine : Engine) {l : List AlertHistory} (h : (l.map (·.id)).Nodup)
    (hkeep : 0 ≤ countToKeep) (hmore : countToKeep < l.length) :
    ((keepNewest engine countToKeep l).length : ℤ) = countToKeep := by
  have hnotall : ¬ countToKeep < 0 := by omega
  rw [(keepNewest_perm engine h).length_eq, limit, if_neg hnotall, List.length_take,
    (engine.perm l).length_eq]
  omega

/-- Without a limit nothing is deleted. -/
theorem deleteBeyond_of_neg (engine : Engine) (user : String) (hkeep : countToKeep < 0) :
    deleteBeyond engine countToKeep rows user = rows := by
  refine List.filter_eq_self.mpr fun h hh => ?_
  by_cases huser : h.user = user
  · have hmem : h ∈ engine.orderBy (rowsOf rows user) :=
      (engine.perm _).mem_iff.mpr (List.mem_filter.mpr ⟨hh, decide_eq_true huser⟩)
    rw [limit, if_pos hkeep, List.any_eq_true.mpr ⟨h, hmem, decide_eq_true rfl⟩, Bool.or_true]
  · simp [huser]

/-- Where no user is above the threshold, or nothing is ever deleted, the records stay. -/
theorem deleteOldRows_eq_self
    (h : countToKeep < 0 ∨ ∀ user, ((rowsOf rows user).length : ℤ) ≤ countBeforeDeletion) :
    deleteOldRows engines countToKeep countBeforeDeletion rows = rows := by
  unfold deleteOldRows
  rcases h with hkeep | hfew
  · induction usersAbove rows countBeforeDeletion with
    | nil => rfl
    | cons user users ih => rw [List.foldl_cons, deleteBeyond_of_neg _ _ hkeep, ih]
  · have hnone : usersAbove rows countBeforeDeletion = [] := by
      refine List.eq_nil_iff_forall_not_mem.mpr fun user hvisited => ?_
      exact absurd (mem_usersAbove.mp hvisited).2 (Int.not_lt.mpr (hfew user))
    rw [hnone]
    rfl

/-- **History trimming**: only users with more than the threshold lose records, each of them is left
with the newest, as many as are kept, and a second run, with whatever order of equal times, deletes
nothing.  (A negative number of records to keep is no limit.) -/
theorem deleteOldRows_trims (contents : Contents) (engines engines' : String → Engine)
    (countToKeep countBeforeDeletion : ℤ) (hkeep : countToKeep ≤ countBeforeDeletion) :
    let after := deleteOldRows engines countToKeep countBeforeDeletion contents.rows
    (∀ user, ((rowsOf contents.rows user).length : ℤ) ≤ countBeforeDeletion →
        rowsOf after user = rowsOf contents.rows user) ∧
      (∀ user, countBeforeDeletion < (rowsOf contents.rows user).length →
        Newest (rowsOf after user) (rowsOf contents.rows user) ∧
          (0 ≤ countToKeep → ((rowsOf after user).length : ℤ) = countToKeep)) ∧
      deleteOldRows engines' countToKeep countBeforeDeletion after = after := by
  intro after
  have hids : ∀ user, ((rowsOf contents.rows user).map (·.id)).Nodup := fun user =>
    contents.nodup.sublist (List.filter_sublist.map _)
  have hleft : ∀ user, countBeforeDeletion < (rowsOf contents.rows user).length →
      rowsOf after user = keepNewest (engines user) countToKeep (rowsOf contents.rows user) :=
    fun user hmore => (rowsOf_deleteOldRows user).trans (if_pos hmore)
  have hstay : ∀ user, ¬ countBeforeDeletion < (rowsOf contents.rows user).length →
      rowsOf after user = rowsOf contents.rows user :=
    fun user hfew => (rowsOf_deleteOldRows user).trans (if_neg hfew)
  have hcount : 0 ≤ countToKeep → ∀ user,
      countBeforeDeletion < (rowsOf contents.rows user).length →
        ((rowsOf after user).length : ℤ) = countToKeep := by
    intro hnonneg user hmore
    rw [hleft user hmore]
    exact length_keepNewest _ (hids user) hnonneg (by omega)
  refine ⟨fun user hfew => hstay user (Int.not_lt.mpr hfew), fun user hmore => ⟨?_, ?_⟩, ?_⟩
  · rw [hleft user hmore]
    exact newest_keepNewest _ (hids user)
  · exact fun hnonneg => hcount hnonneg user hmore
  · refine deleteOldRows_eq_self ?_
    by_cases hnonneg : 0 ≤ countToKeep
    · refine .inr fun user => ?_
      by_cases hmore : countBeforeDeletion < (rowsOf contents.rows user).length
      · rw [hcount hnonneg user hmore]
        exact hkeep
      · rw [hstay user hmore]
        exact Int.not_lt.mp hmore
    · exact .inl (by omega)

/-- An engine that sorts by insertion. -/
def insertionEngine : Engine where
  orderBy := List.insertionSort fun h h' : AlertHistory => h'.created ≤ h.created
  perm := List.perm_insertionSort _
  newestFirst l :=
    have : Std.Total fun h h' : AlertHistory => h'.created ≤ h.created :=
      ⟨fun h h' => Nat.le_total h'.created h.created⟩
    have : IsTrans AlertHistory fun h h' => h'.created ≤ h.created :=
      ⟨fun _ _ _ h h' => Nat.le_trans h' h⟩
    List.pairwise_insertionSort _ l

/-- Of three records the newest one is kept. -/
theorem deleteOldRows_trims_three :
    let rows : List AlertHistory :=
      [⟨1, "a", "u", "s", "CPU", 0, 10, none⟩, ⟨2, "a", "u", "s", "CPU", 0, 30, none⟩,
        ⟨3, "a", "u", "s", "CPU", 0, 20, none⟩]
    let after := deleteOldRows (fun _ => insertionEngine) 1 2 rows
    ((rowsOf after "u").length : ℤ) = 1 ∧
      deleteOldRows (fun _ => insertionEngine) 1 2 after = after := by
  intro rows after
  have htrims := deleteOldRows_trims ⟨rows, by decide⟩ (fun _ => insertionEngine)
    (fun _ => insertionEngine) 1 2 (by decide)
  exact ⟨(htrims.2.1 "u" (by decide)).2 (by decide), htrims.2.2⟩

end AlertsHistory

end Beszel
