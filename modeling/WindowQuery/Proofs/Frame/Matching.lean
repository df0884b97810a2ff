import WindowQuery.Proofs.Frame.Covers
import WindowQuery.Proofs.Function.Totals
import WindowQuery.Proofs.View.Matching

/-!
# Views with matching frames

Two views **match** along a rearrangement of their positions when the frames of positions that
correspond resolve together and cover positions that correspond (`View.FramesMatch`). Functions
that tally rows cannot tell such views apart: they have the same value at positions that correspond
(`View.FramesMatch.exists_compute`).

RANGE and GROUPS frames go by value, so sorted views match as soon as they hold the same order
values in the same direction (`View.SortedBy.framesMatch`).
-/

namespace WindowQuery

/-! ### Computing over resolved frames -/

theorem View.resolves_of_frames {v : View} {f : Frame} {spans : List Span}
    (h : v.frames f = .ok spans) : ∀ i < v.size, v.Resolves f i :=
  fun i hi => exists_of_mapM h i (List.mem_range.mpr hi)

/-- A tally that is computed has all frames resolved. -/
theorem Function.Tallies.resolves {v : View} {fn : Function} {value : List Nat → Int64}
    (hfn : fn.Tallies v.partition.table value) {f : Frame} {c : Column}
    (h : fn.compute v f = .ok c) : ∀ i < v.size, v.Resolves f i := by
  cases hfn with
  | countRows =>
    obtain ⟨spans, hspans, -⟩ := bind_eq_ok.mp h
    exact View.resolves_of_frames hspans
  | count hs =>
    obtain ⟨s, -, h⟩ := bind_eq_ok.mp h
    obtain ⟨spans, hspans, -⟩ := bind_eq_ok.mp h
    exact View.resolves_of_frames hspans
  | aggregate hs hbits ha =>
    obtain ⟨s, -, h⟩ := bind_eq_ok.mp h
    split at h
    case h_4 => cases h
    all_goals
      obtain ⟨spans, hspans, -⟩ := bind_eq_ok.mp h
      exact View.resolves_of_frames hspans

namespace View

/-- The frames of two views **match** along a rearrangement of positions, which leads from the
positions of the second view to those of the first. -/
structure FramesMatch (v v' : View) (f f' : Frame) (π : Nat → Nat) : Prop where
  size : v'.size = v.size
  rearranges : Rearranges v.size π
  resolves : ∀ i < v.size, v'.Resolves f' i ↔ v.Resolves f (π i)
  covers : ∀ i < v.size, ∀ q < v.size, v'.Covers f' i q ↔ v.Covers f (π i) (π q)

namespace FramesMatch

variable {v v' : View} {f f' : Frame} {π : Nat → Nat} (h : v.FramesMatch v' f f' π)
include h

/-- Frames of positions that correspond hold positions that correspond. -/
theorem positions_perm {i : Nat} {span span' : Span} (hi : i < v.size)
    (hspan : v.frameAt (π i) f = .ok span) (hspan' : v'.frameAt i f' = .ok span') :
    (span'.positions.map π).Perm span.positions := by
  refine h.rearranges.map_perm List.nodup_range' List.nodup_range' ?_ ?_ fun q hq => ?_
  · intro q hq
    rw [← h.size]
    exact lt_of_mem_frameAt hspan' (Span.mem_positions.mp hq)
  · exact fun q hq => lt_of_mem_frameAt hspan (Span.mem_positions.mp hq)
  · rw [Span.mem_positions, Span.mem_positions, mem_iff_covers hspan, mem_iff_covers hspan',
      h.covers i hi q hq]

/-- Where positions that correspond share their slot, so do their frames. -/
theorem exists_slotAt_iff (slots : ∀ q < v.size, v.slotAt (π q) = v'.slotAt q) {i : Nat}
    {span span' : Span} (hi : i < v.size) (hspan : v.frameAt (π i) f = .ok span)
    (hspan' : v'.frameAt i f' = .ok span') (slot : Nat) :
    (∃ q ∈ span, v.slotAt q = slot) ↔ ∃ q ∈ span', v'.slotAt q = slot := by
  have perm := h.positions_perm hi hspan hspan'
  have inside {q : Nat} (hq : q ∈ span') : q < v.size := h.size ▸ lt_of_mem_frameAt hspan' hq
  constructor
  · rintro ⟨q, hq, rfl⟩
    obtain ⟨q', hq', rfl⟩ := List.mem_map.mp (perm.mem_iff.mpr (Span.mem_positions.mpr hq))
    have member := Span.mem_positions.mp hq'
    exact ⟨q', member, (slots q' (inside member)).symm⟩
  · rintro ⟨q', hq', rfl⟩
    have member := perm.mem_iff.mp (List.mem_map_of_mem (Span.mem_positions.mpr hq'))
    exact ⟨π q', Span.mem_positions.mp member, slots q' (inside hq')⟩

/-- **Tallies agree** over views with matching frames, where they agree on rows at positions that
correspond. -/
theorem exists_compute (hv : v.Complete) (hv' : v'.Complete) {fn : Function}
    {value value' : List Nat → Int64} (hfn : fn.Tallies v.partition.table value)
    (hfn' : fn.Tallies v'.partition.table value')
    (hvalue : ∀ qs' qs : List Nat, (∀ q ∈ qs', q < v.size) → (qs'.map π).Perm qs →
      value' (qs'.map v'.rowAt) = value (qs.map v.rowAt))
    (resolves : ∀ i < v.size, v.Resolves f i) :
    ∃ c c', fn.compute v f = .ok c ∧ fn.compute v' f' = .ok c' ∧
      ∀ i < v.size, c'.cell (v'.slotAt i) = c.cell (v.slotAt (π i)) := by
  have resolves' : ∀ i < v'.size, v'.Resolves f' i := by
    intro i hi
    rw [h.size] at hi
    exact (h.resolves i hi).mpr (resolves _ (h.rearranges.lt i hi))
  obtain ⟨span, hspan⟩ := exists_spans resolves
  obtain ⟨span', hspan'⟩ := exists_spans resolves'
  obtain ⟨c, hc, cells⟩ := hfn.exists_compute hv hspan
  obtain ⟨c', hc', cells'⟩ := hfn'.exists_compute hv' hspan'
  refine ⟨c, c', hc, hc', fun i hi => ?_⟩
  have hi' : i < v'.size := by rwa [h.size]
  have hπi := h.rearranges.lt i hi
  have inside : ∀ q ∈ (span' i).positions, q < v.size := fun q hq =>
    h.size ▸ lt_of_mem_frameAt (hspan' i hi') (Span.mem_positions.mp hq)
  have perm := h.positions_perm hi (hspan _ hπi) (hspan' i hi')
  rw [cells' i hi', cells _ hπi, rowsIn, rowsIn, hvalue _ _ inside perm]

/-- Over views of one partition tallies agree slot by slot. -/
theorem exists_compute_of_slots (hv : v.Complete) (hv' : v'.Complete)
    (hpartition : v'.partition = v.partition)
    (slots : ∀ q < v.size, v.slotAt (π q) = v'.slotAt q) {fn : Function} {value : List Nat → Int64}
    (hfn : fn.Tallies v.partition.table value) (resolves : ∀ i < v.size, v.Resolves f i) :
    ∃ c c', fn.compute v f = .ok c ∧ fn.compute v' f' = .ok c' ∧
      ∀ slot < v.partition.size, c.cell slot = c'.cell slot := by
  have rows {q : Nat} (hq : q < v.size) : v'.rowAt q = v.rowAt (π q) := by
    rw [rowAt, rowAt, slots q hq, hpartition]
  have agree : ∀ qs' qs : List Nat, (∀ q ∈ qs', q < v.size) → (qs'.map π).Perm qs →
      value (qs'.map v'.rowAt) = value (qs.map v.rowAt) := by
    intro qs' qs inside perm
    have carried : qs'.map v'.rowAt = (qs'.map π).map v.rowAt := by
      rw [List.map_map]
      exact List.map_congr_left fun q hq => rows (inside q hq)
    rw [carried]
    exact hfn.perm (perm.map _)
  have hfn' : fn.Tallies v'.partition.table value := by rwa [hpartition]
  obtain ⟨c, c', hc, hc', cells⟩ := h.exists_compute hv hv' hfn hfn' agree resolves
  refine ⟨c, c', hc, hc', fun slot hslot => ?_⟩
  rw [← hpartition] at hslot
  obtain ⟨j, hj, rfl⟩ := hv'.exists_slotAt_eq hslot
  rw [h.size] at hj
  rw [cells j hj, slots j hj]

end FramesMatch

/-! ### Frames by value -/

/-- Without order frames cover everything or nothing. -/
theorem framesMatch_unordered {v v' : View} {π : Nat → Nat} (hsize : v'.size = v.size)
    (hπ : Rearranges v.size π) (hordered : v.isOrdered = false) (hordered' : v'.isOrdered = false)
    {f : Frame} (hunit : f.unit ≠ .rows) : v.FramesMatch v' f f π := by
  have resolves {w : View} (hw : w.isOrdered = false) {i : Nat} (hi : i < w.size) :
      w.Resolves f i := (resolves_iff_raw hi).mpr ⟨_, rawFrameAt_unordered hw hunit⟩
  have covers {w : View} (hw : w.isOrdered = false) {i q : Nat} (hi : i < w.size)
      (hq : q < w.size) : w.Covers f i q ↔ f.Proper := by
    rw [covers_iff_raw hi, rawFrameAt_unordered hw hunit]
    simp [Span.mem_iff, hq]
  refine ⟨hsize, hπ, fun i hi => ?_, fun i hi q hq => ?_⟩
  · exact iff_of_true (resolves hordered' (hsize ▸ hi)) (resolves hordered (hπ.lt i hi))
  · rw [covers hordered' (hsize ▸ hi) (hsize ▸ hq), covers hordered (hπ.lt i hi) (hπ.lt q hq)]

section

variable {v v' : View} {sources sources' : List Source} {kind : Kind} (hv : v.SortedBy sources)
  (hv' : v'.SortedBy sources')
  (hcells : ∀ q, q < v.size → (v.orderValueAt q).hasKind kind = true) {π : Nat → Nat}
  (h : v.ValuesMatch v' π)
include hv hv' hcells h

/-- Frames match where they say the same of order values and of groups of peers. -/
theorem ValuesMatch.framesMatch {f f' : Frame} (hunit : f.unit ≠ .rows) (hunit' : f'.unit = f.unit)
    (hoffsets : ∀ o ∈ f.offsets, ∃ n, o = .int n) (hoffsets' : ∀ o ∈ f'.offsets, ∃ n, o = .int n)
    (proper : f'.Proper ↔ f.Proper) (bounded : ∀ x, v'.Bounded f' x ↔ v.Bounded f x)
    (inRange : ∀ x y, v'.InRange f' x y ↔ v.InRange f x y)
    (grouped : ∀ i < v.size, f'.Grouped v'.peers.count (v'.peers.indexOf i) ↔
      f.Grouped v.peers.count (v.peers.indexOf (π i)))
    (inGroups : ∀ i < v.size, ∀ q < v.size,
      f'.InGroups v'.peers.count (v'.peers.indexOf i) (v'.peers.indexOf q) ↔
        f.InGroups v.peers.count (v.peers.indexOf (π i)) (v.peers.indexOf (π q))) :
    v.FramesMatch v' f f' π := by
  have hπ := h.rearranges
  have inside {i : Nat} (hi : i < v.size) : i < v'.size := by rwa [h.size]
  -- ROWS frames count positions and do not go by value; the other two units do
  cases hf : f.unit with
  | rows => exact absurd hf hunit
  | range =>
    have hf' := hunit'.trans hf
    refine ⟨h.size, hπ, fun i hi => ?_, fun i hi q hq => ?_⟩
    · rw [hv'.resolves_range_iff (inside hi) hf', hv.resolves_range_iff (hπ.lt i hi) hf,
        h.orderValueAt i hi, bounded]
    · rw [hv'.covers_range_iff (h.hasKind hcells) (inside hi) hf' hoffsets' (inside hq),
        hv.covers_range_iff hcells (hπ.lt i hi) hf hoffsets (hπ.lt q hq), h.orderValueAt i hi,
        h.orderValueAt q hq, inRange, proper]
  | groups =>
    have hf' := hunit'.trans hf
    refine ⟨h.size, hπ, fun i hi => ?_, fun i hi q hq => ?_⟩
    · rw [hv'.resolves_groups_iff (inside hi) hf', hv.resolves_groups_iff (hπ.lt i hi) hf,
        grouped i hi]
    · rw [hv'.covers_groups_iff (inside hi) hf' (inside hq),
        hv.covers_groups_iff (hπ.lt i hi) hf (hπ.lt q hq), inGroups i hi q hq, proper]

/-- **Frames go by value**: views in one direction match where they hold the same order values. -/
theorem SortedBy.framesMatch (hdirection : v'.isAscending = v.isAscending) {f : Frame}
    (hunit : f.unit ≠ .rows) (hoffsets : ∀ o ∈ f.offsets, ∃ n, o = .int n) :
    v.FramesMatch v' f f π := by
  have order (a b : Cell) : v'.order a b = v.order a b := by
    rw [View.order, View.order, hdirection]
  have boundary (x : Cell) (b : Bound) : v'.boundary x b = v.boundary x b := by
    cases b <;> simp only [View.boundary, stepBack, stepForward, hdirection]
  have inOrder := hv'.inOrder_of_hasKind (h.hasKind hcells)
  rw [h.size] at inOrder
  obtain ⟨groups, count⟩ := (hv.inOrder_of_hasKind hcells).indexOf_rearranged inOrder h.rearranges
    fun i hi j hj => by
      rw [peerOrder, peerOrder, order, h.orderValueAt i hi, h.orderValueAt j hj]
  rw [← hv.peers_eq, ← h.size, ← hv'.peers_eq] at groups count
  rw [h.size] at groups
  refine ValuesMatch.framesMatch hv hv' hcells h hunit rfl hoffsets hoffsets Iff.rfl ?_ ?_ ?_ ?_
  · intro x
    simp only [Bounded, boundary]
  · intro x y
    simp only [InRange, boundary, order]
  · intro i hi
    rw [groups i hi, count]
  · intro i hi q hq
    rw [groups i hi, groups q hq, count]

end

end View

end WindowQuery
