import WindowQuery.Function.Compute
import WindowQuery.Proofs.Column.Scatter
import WindowQuery.Proofs.Steps
import WindowQuery.Proofs.View.Complete

/-!
# Segments

What a function computes over a view is a **segment** of the result: a column with one cell for
every slot, stored as the kind that the function declares for its input. This holds for every
function that computes at all (`Function.isSegment_compute`), so a result column made for the
declared kind takes every segment without looking at its cells.

Over a complete view the value laid out for a position stands at the slot of that position
(`View.value?_layout`).
-/

namespace WindowQuery

/-- The kind of storage that keeps cells of a kind. -/
def Kind.stored (kind : Kind) : Kind := (Storage.nulls kind 0).kind

theorem Storage.kind_nulls (kind : Kind) (rows : Nat) : (nulls kind rows).kind = kind.stored := by
  cases kind <;> rfl

/-- Storage has a kind of its own. -/
theorem Column.stored_kind (c : Column) : c.kind.stored = c.kind := by
  obtain ⟨name, storage⟩ := c
  cases storage <;> rfl

/-- The kind of the input column of a function, NULL for a function without one. -/
def Function.inputKind (fn : Function) (t : Table) : Except QueryError Kind :=
  match fn.inputColumn? with
  | some name => (t.column name).map Source.kind
  | none => .ok .null

namespace View

variable {v : View}

/-! ### Results by slot -/

theorem layout_eq {α : Type} (v : View) (values : List α) :
    v.layout values =
      writeAll (Array.replicate v.size none) (v.slots.toList.zip (values.map some)) := by
  rw [layout, writeAll, List.zip_map_right, List.foldl_map]
  rfl

@[simp] theorem size_layout {α : Type} (v : View) (values : List α) :
    (v.layout values).size = v.size := by
  rw [layout_eq, size_writeAll, Array.size_replicate]

/-- **The value of a position stands at its slot.** -/
theorem value?_layout {α : Type} (h : v.Complete) {values : List α} {p : Nat} {a : α}
    (ha : values[p]? = some a) (hlength : values.length = v.size) :
    Storage.value? (v.layout values) (v.slotAt p) = some a := by
  have hp : p < v.size := by
    rw [← hlength]
    exact (List.getElem?_eq_some_iff.mp ha).1
  have slot : v.slots.toList[p]? = some (v.slotAt p) := by
    rw [Array.getElem?_toList]
    exact getElem?_slots hp
  -- every slot is written once, by the position that it belongs to
  have firsts : (v.slots.toList.zip (values.map some)).map Prod.fst = v.slots.toList := by
    refine List.map_fst_zip (Nat.le_of_eq ?_)
    rw [List.length_map, hlength, Array.length_toList, size]
  have written : (v.slotAt p, some a) ∈ v.slots.toList.zip (values.map some) :=
    mem_zip_of_getElem? slot (by simp [ha])
  have inside : v.slotAt p < (Array.replicate v.size (none : Option α)).size := by
    rw [Array.size_replicate, h.size_eq]
    exact h.slotAt_lt hp
  rw [Storage.value?, layout_eq,
    getElem?_writeAll_of_mem (by rw [firsts]; exact h.nodup_slots) written inside]
  rfl

theorem getElem?_map_positions {α : Type} {v : View} {p : Nat} (hp : p < v.size) (g : Nat → α) :
    (v.positions.map g)[p]? = some (g p) := by
  simp [positions, hp]

/-! ### Segments of a view -/

/-- A column with one cell for every slot, stored as a kind is. -/
structure IsSegment (v : View) (kind : Kind) (c : Column) : Prop where
  kind_eq : c.kind = kind.stored
  size_eq : c.size = v.size

/-- A filled column has a row for every slot and the kind it was begun with. -/
theorem isSegment_fill {name : String} {kind : Kind}
    {cellFor : Nat → Except QueryError (Option Cell)} {c : Column}
    (h : v.fill name kind cellFor = .ok c) : v.IsSegment kind c := by
  have nulls : v.IsSegment kind (Column.nulls name kind v.size) :=
    ⟨Storage.kind_nulls kind v.size, Column.size_nulls name kind v.size⟩
  refine foldlM_invariant (fun out p c hout hc => ?_) nulls h
  obtain ⟨cell, -, hc⟩ := bind_eq_ok.mp hc
  cases cell with
  | none =>
    cases hc
    exact hout
  | some cell =>
    exact ⟨(Column.kind_set hc).trans hout.kind_eq, (Column.size_set hc).trans hout.size_eq⟩

end View

theorem Aggregate.isSegment_computeOver {a : Aggregate} {α : Type} [Numeric α] {source : Source}
    {v : View} {f : Frame} {c : Column} {kind : Kind}
    (hstorage : ∀ values : Array (Option α), (Numeric.storage values).kind = kind ∧
      (Numeric.storage values).size = values.size)
    (hkind : kind.stored = kind) (h : a.computeOver α source v f = .ok c) :
    v.IsSegment (a.resultKind kind) c := by
  obtain ⟨spans, -, hc⟩ := bind_eq_ok.mp h
  cases hc
  cases a with
  | avg => exact ⟨rfl, View.size_layout _ _⟩
  | sum | min | max => exact ⟨(hstorage _).1.trans hkind.symm, (hstorage _).2.trans (View.size_layout _ _)⟩

/-- An aggregate that computes anything computes a segment over a column that is there. -/
theorem Aggregate.isSegment_compute {a : Aggregate} {column : String} {v : View} {f : Frame}
    {c : Column} (h : a.compute column v f = .ok c) :
    ∃ source, v.partition.table.column column = .ok source ∧
      v.IsSegment (a.resultKind source.kind) c := by
  obtain ⟨source, hsource, h⟩ := bind_eq_ok.mp h
  refine ⟨source, hsource, ?_⟩
  split at h
  case h_1 hkind =>
    rw [hkind]
    exact isSegment_computeOver (fun _ => ⟨rfl, rfl⟩) rfl h
  case h_2 hkind =>
    rw [hkind]
    exact isSegment_computeOver (fun _ => ⟨rfl, rfl⟩) rfl h
  case h_3 hkind =>
    rw [hkind]
    exact isSegment_computeOver (fun _ => ⟨rfl, rfl⟩) rfl h
  case h_4 => cases h

/-- **Every function computes a segment of the kind it declares.** -/
theorem Function.isSegment_compute {fn : Function} {v : View} {f : Frame} {c : Column}
    (h : fn.compute v f = .ok c) :
    ∃ kind, fn.inputKind v.partition.table = .ok kind ∧ v.IsSegment (fn.resultKind kind) c := by
  cases fn with
  | aggregate a column =>
    obtain ⟨source, hsource, hc⟩ := Aggregate.isSegment_compute h
    exact ⟨source.kind, map_eq_ok.mpr ⟨source, hsource, rfl⟩, hc⟩
  | count column =>
    obtain ⟨source, hsource, h⟩ := bind_eq_ok.mp h
    obtain ⟨spans, -, hc⟩ := bind_eq_ok.mp h
    cases hc
    exact ⟨source.kind, map_eq_ok.mpr ⟨source, hsource, rfl⟩, rfl, View.size_layout _ _⟩
  | countRows =>
    obtain ⟨spans, -, hc⟩ := bind_eq_ok.mp h
    cases hc
    exact ⟨.null, rfl, rfl, View.size_layout _ _⟩
  -- whatever is filled in, a column that was filled is a segment
  | lag column offset default | lead column offset default =>
    obtain ⟨source, hsource, h⟩ := bind_eq_ok.mp h
    exact ⟨source.kind, map_eq_ok.mpr ⟨source, hsource, rfl⟩, View.isSegment_fill h⟩
  | firstValue column | lastValue column =>
    obtain ⟨source, hsource, h⟩ := bind_eq_ok.mp h
    exact ⟨source.kind, map_eq_ok.mpr ⟨source, hsource, rfl⟩, View.isSegment_fill h⟩
  | nthValue column place =>
    obtain ⟨-, -, h⟩ := bind_eq_ok.mp h
    obtain ⟨source, hsource, h⟩ := bind_eq_ok.mp h
    exact ⟨source.kind, map_eq_ok.mpr ⟨source, hsource, rfl⟩, View.isSegment_fill h⟩
  | rowNumber =>
    cases h
    exact ⟨.null, rfl, rfl, View.size_layout _ _⟩
  | ranking r =>
    cases h
    refine ⟨.null, rfl, ?_, ?_⟩
    · cases r <;> rfl
    · cases r <;> exact View.size_layout _ _
  | ntile buckets =>
    obtain ⟨-, -, hc⟩ := bind_eq_ok.mp h
    cases hc
    exact ⟨.null, rfl, rfl, View.size_layout _ _⟩

end WindowQuery
