import Mathlib.Data.List.Nodup
import WindowQuery.Column.Write

/-!
# What scattering writes

Copying to target rows and laying results out by slot are both a series of writes to an array
(`writeAll`). When every row is written once, a row holds the value written to it, and a row that
is not written keeps its own. For columns of one kind this makes `Column.scatter` exact
(`Column.exists_scatter`): it succeeds, row `k` of the segment arrives at the `k`-th target, and
every other row stays.
-/

namespace WindowQuery

/-! ### Writes to an array -/

section

variable {α : Type} {values : Array α} {writes : List (Nat × α)} {row : Nat} {a : α}

/-- Writes to an array, in order. A write past the end is lost. -/
def writeAll (values : Array α) (writes : List (Nat × α)) : Array α :=
  writes.foldl (fun out w => out.setIfInBounds w.1 w.2) values

@[simp] theorem size_writeAll (values : Array α) (writes : List (Nat × α)) :
    (writeAll values writes).size = values.size := by
  induction writes generalizing values with
  | nil => rfl
  | cons w rest ih => exact (ih _).trans Array.size_setIfInBounds

/-- A row that is not written keeps its value. -/
theorem getElem?_writeAll_of_not_mem (h : row ∉ writes.map Prod.fst) :
    (writeAll values writes)[row]? = values[row]? := by
  induction writes generalizing values with
  | nil => rfl
  | cons w rest ih =>
    rw [List.map_cons, List.mem_cons, not_or] at h
    exact (ih h.2).trans (Array.getElem?_setIfInBounds_ne (Ne.symm h.1))

/-- A row that is written once holds the value written to it. -/
theorem getElem?_writeAll_of_mem (once : (writes.map Prod.fst).Nodup) (hw : (row, a) ∈ writes)
    (hrow : row < values.size) : (writeAll values writes)[row]? = some a := by
  induction writes generalizing values with
  | nil => cases hw
  | cons w rest ih =>
    rw [List.map_cons, List.nodup_cons] at once
    rcases List.mem_cons.mp hw with rfl | hrest
    · exact (getElem?_writeAll_of_not_mem once.1).trans
        (by rw [Array.getElem?_setIfInBounds_self, if_pos hrow])
    · exact ih once.2 hrest (by simpa using hrow)

/-- Pairs of targets and values, one value for each target. -/
theorem mem_zip_of_getElem? {targets : List Nat} {source : List α} {k : Nat}
    (ht : targets[k]? = some row) (hs : source[k]? = some a) : (row, a) ∈ targets.zip source :=
  List.mem_of_getElem? (List.getElem?_zip_eq_some.mpr ⟨ht, hs⟩)

end

/-! ### Copying storage -/

namespace Storage

variable {α : Type} {values source : Array (Option α)} {targets : List Nat} {row k : Nat}

theorem copyTo_eq (values source : Array (Option α)) (targets : List Nat) :
    copyTo values source targets = writeAll values (targets.zip source.toList) := rfl

theorem value?_copyTo_of_not_mem (h : row ∉ targets) :
    value? (copyTo values source targets) row = value? values row := by
  have unwritten : row ∉ (targets.zip source.toList).map Prod.fst := fun hmem => by
    obtain ⟨w, hw, rfl⟩ := List.mem_map.mp hmem
    exact h (List.of_mem_zip hw).1
  rw [value?, copyTo_eq, getElem?_writeAll_of_not_mem unwritten, value?]

/-- Among targets that are all different each gets the value at its place. -/
theorem value?_copyTo (once : targets.Nodup) (hsize : source.size = targets.length)
    (ht : targets[k]? = some row) (hrow : row < values.size) :
    value? (copyTo values source targets) row = value? source k := by
  have hk : k < source.size := by
    rw [hsize]
    exact (List.getElem?_eq_some_iff.mp ht).1
  have firsts : (targets.zip source.toList).map Prod.fst = targets :=
    List.map_fst_zip (by simpa using Nat.le_of_eq hsize.symm)
  have written : (row, source[k]) ∈ targets.zip source.toList :=
    mem_zip_of_getElem? ht (by simp [hk])
  rw [value?, copyTo_eq, getElem?_writeAll_of_mem (by rwa [firsts]) written hrow, value?]
  simp [hk]

theorem kind_copy (s source : Storage) (targets : List Nat) :
    (s.copy source targets).kind = s.kind := by
  cases s <;> cases source <;> rfl

theorem size_copy (s source : Storage) (targets : List Nat) :
    (s.copy source targets).size = s.size := by
  cases s <;> cases source <;> first | rfl | simp [copy, size, copyTo_eq]

theorem cell_copy_of_not_mem (s source : Storage) (h : row ∉ targets) :
    (s.copy source targets).cell row = s.cell row := by
  cases s <;> cases source <;> simp [copy, cell, value?_copyTo_of_not_mem h]

theorem cell_copy {s source : Storage} (hkind : source.kind = s.kind) (once : targets.Nodup)
    (hsize : source.size = targets.length) (ht : targets[k]? = some row) (hrow : row < s.size) :
    (s.copy source targets).cell row = source.cell k := by
  cases s <;> cases source <;> cases hkind <;>
    simp [copy, cell, value?_copyTo once hsize ht hrow]

end Storage

/-! ### Scattering columns -/

namespace Column

variable {c segment : Column} {targets : List Nat}

/-- What scattering a segment of the same kind gives. -/
theorem scatter_eq (hkind : segment.kind = c.kind) (hsize : segment.size = targets.length)
    (htargets : ∀ row ∈ targets, row < c.size) :
    c.scatter segment targets = (⟨c.name, c.storage.copy segment.storage targets⟩, .ok ()) := by
  -- no target lies outside of the column, so nothing is refused
  have inside : targets.find? (fun target => decide (c.size ≤ target)) = none := by
    simpa [List.find?_eq_none] using htargets
  rw [scatter, if_neg (not_not.mpr hsize), inside]
  simp [hkind]

/-- **Scattering a segment of the same kind is exact** when no target occurs twice. -/
theorem exists_scatter (hkind : segment.kind = c.kind) (hsize : segment.size = targets.length)
    (htargets : ∀ row ∈ targets, row < c.size) (once : targets.Nodup) :
    ∃ d : Column, c.scatter segment targets = (d, .ok ()) ∧
      d.name = c.name ∧ d.kind = c.kind ∧ d.size = c.size ∧
      (∀ k row, targets[k]? = some row → d.cell row = segment.cell k) ∧
      ∀ row, row ∉ targets → d.cell row = c.cell row := by
  refine ⟨_, scatter_eq hkind hsize htargets, rfl, Storage.kind_copy _ _ _,
    Storage.size_copy _ _ _, fun k row ht => ?_, fun row h => Storage.cell_copy_of_not_mem _ _ h⟩
  exact Storage.cell_copy hkind once hsize ht (htargets row (List.mem_of_getElem? ht))

end Column

end WindowQuery
