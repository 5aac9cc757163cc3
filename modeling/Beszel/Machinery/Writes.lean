import Beszel.Machinery.Table
import Mathlib.Data.List.Induction
import Mathlib.Logic.Function.Basic

/-!
# Machinery/Writes — a store that is written cell by cell

    s ──w₁──▸ s[cell w₁ := value w₁] ──w₂──▸ ⋯

A store is a function from cells to contents, a write sets one cell.  What a list of writes leaves
in a cell is what its last write there has put into it (`writes_apply`), so writes to different
cells may be reordered (`writes_perm`), and of the writes to one cell all but the last may be
dropped (`writes_coalesce`).
-/

namespace Machinery

namespace Writes

variable {κ κ' β ω : Type*} [DecidableEq κ] [DecidableEq κ']
variable (cell : ω → κ) (value : ω → β)

/-- The store with one cell set. -/
def write (s : κ → β) (w : ω) : κ → β := Function.update s (cell w) (value w)

/-- The store after a list of writes, the oldest first. -/
def writes (s : κ → β) (ws : List ω) : κ → β := ws.foldl (write cell value) s

variable {cell value} {s : κ → β} {ws ws' : List ω}

theorem writes_append : writes cell value s (ws ++ ws')
    = writes cell value (writes cell value s ws) ws' := List.foldl_append

/-- **What a cell holds** — what the last write there has put into it. -/
theorem writes_apply (c : κ) :
    writes cell value s ws c = (Table.lookup cell ws.reverse c).elim (s c) value := by
  induction ws using List.reverseRecOn with
  | nil => rfl
  | append_singleton ws w ih =>
    rw [writes_append, List.reverse_append]
    change Function.update (writes cell value s ws) (cell w) (value w) c = _
    by_cases hc : c = cell w
    · rw [hc, Function.update_self]
      exact congrArg (Option.elim · _ value) (List.find?_cons_of_pos (by simp)).symm
    · rw [Function.update_of_ne hc, ih]
      refine congrArg (Option.elim · _ value) (List.find?_cons_of_neg ?_).symm
      simpa using Ne.symm hc

/-- A cell that nothing writes to keeps its contents. -/
theorem writes_of_forall_ne {c : κ} (h : ∀ w ∈ ws, cell w ≠ c) :
    writes cell value s ws c = s c := by
  have hnone : Table.lookup cell ws.reverse c = none := by simpa [Table.lookup] using h
  rw [writes_apply, hnone]
  rfl

/-- **Writes to different cells may come in any order.** -/
theorem writes_perm (hcells : (ws.map cell).Nodup) (h : ws.Perm ws') :
    writes cell value s ws = writes cell value s ws' := by
  funext c
  have hreverse : ws.reverse.Perm ws'.reverse :=
    ws.reverse_perm.trans (h.trans ws'.reverse_perm.symm)
  have hcells' : (ws.reverse.map cell).Nodup := by
    rwa [List.map_reverse, List.nodup_reverse]
  rw [writes_apply, writes_apply, Table.lookup_perm hcells' hreverse]

/-- **Of the writes to one cell all but the last may be dropped**, under any key that tells the
cells apart. -/
theorem writes_coalesce {key : ω → κ'}
    (hkey : ∀ w ∈ ws, ∀ w' ∈ ws, key w = key w' ↔ cell w = cell w') :
    ((ws.foldl (Table.put key) []).map cell).Nodup ∧
      writes cell value s (ws.foldl (Table.put key) []) = writes cell value s ws := by
  set kept := ws.foldl (Table.put key) [] with hkept
  have hmem : ∀ w ∈ kept, w ∈ ws := by
    intro w hw
    exact (Table.mem_foldl_put hw).resolve_right List.not_mem_nil
  have hkeys : (kept.map key).Nodup := Table.nodup_foldl_put (t := []) List.nodup_nil ws
  have hcells : (kept.map cell).Nodup := by
    rw [List.Nodup, List.pairwise_map] at *
    refine hkeys.imp_of_mem fun {w w'} hw hw' hne hcell => hne ?_
    exact (hkey w (hmem w hw) w' (hmem w' hw')).mpr hcell
  refine ⟨hcells, funext fun c => ?_⟩
  by_cases hwritten : ∃ w ∈ ws, cell w = c
  · obtain ⟨w, hw, rfl⟩ := hwritten
    -- the key of the cell finds the same write in both lists
    have hfind : ∀ l : List ω, (∀ w ∈ l, w ∈ ws) →
        Table.lookup cell l (cell w) = Table.lookup key l (key w) := by
      intro l hl
      exact Table.lookup_congr fun w' hw' => (hkey w' (hl w' hw') w hw).symm
    have hreverse : Table.lookup cell kept.reverse (cell w) = Table.lookup cell kept (cell w) :=
      (Table.lookup_perm hcells kept.reverse_perm.symm).symm
    have hlast : Table.lookup key kept (key w) = Table.lookup key ws.reverse (key w) := by
      rw [hkept, Table.lookup_foldl_put]
      exact Option.or_none
    rw [writes_apply, writes_apply, hreverse, hfind kept hmem, hlast,
      hfind ws.reverse fun w hw => List.mem_reverse.mp hw]
  · simp only [not_exists, not_and] at hwritten
    rw [writes_of_forall_ne hwritten, writes_of_forall_ne fun w hw => hwritten w (hmem w hw)]

end Writes

end Machinery
