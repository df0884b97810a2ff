import WindowQuery.Proofs.Frame.Groups
import WindowQuery.Proofs.Frame.Matching

/-!
# Frames in a mirror

A frame read from the other end of the order is its **mirror**: start and end change places, and
what precedes follows (`Frame.mirror`). Everything that RANGE and GROUPS frames are made of commutes
with it: boundaries, the order of values and the numbers of groups.

Over a descending view the mirrored frame therefore covers the rows that the frame itself covers
over the ascending view, and counts, sums and extremes of integers agree row by row
(`Partition.compute_mirror`).
-/

namespace WindowQuery

/-! ### Mirrored frames -/

/-- The bound seen from the other end of the order. -/
def Bound.mirror : Bound → Bound
  | unboundedPreceding => unboundedFollowing
  | preceding o => following o
  | currentRow => currentRow
  | following o => preceding o
  | unboundedFollowing => unboundedPreceding

@[simp] theorem Bound.mirror_mirror (b : Bound) : b.mirror.mirror = b := by cases b <;> rfl

@[simp] theorem Bound.offset?_mirror (b : Bound) : b.mirror.offset? = b.offset? := by
  cases b <;> rfl

namespace Frame

/-- The frame seen from the other end of the order. -/
def mirror (f : Frame) : Frame := ⟨f.unit, f.stop.mirror, f.start.mirror⟩

@[simp] theorem mirror_mirror (f : Frame) : f.mirror.mirror = f := by simp [mirror]

theorem mem_offsets_mirror {f : Frame} {o : Offset} : o ∈ f.mirror.offsets ↔ o ∈ f.offsets := by
  simp [offsets, mirror, or_comm]

theorem Proper.mirror {f : Frame} (h : f.Proper) : f.mirror.Proper := by
  obtain ⟨start, stop⟩ := h
  constructor
  · cases hstop : f.stop <;> simp_all [Frame.mirror, Bound.mirror]
  · cases hstart : f.start <;> simp_all [Frame.mirror, Bound.mirror]

theorem proper_mirror_iff {f : Frame} : f.mirror.Proper ↔ f.Proper :=
  ⟨fun h => f.mirror_mirror ▸ h.mirror, Proper.mirror⟩

end Frame

/-! ### RANGE -/

namespace View

section

variable {v v' : View} (h : v'.isAscending = !v.isAscending)
include h

/-- What precedes in one direction follows in the other, at the same value. -/
theorem boundary_mirror (x : Cell) (b : Bound) : v'.boundary x b.mirror = v.boundary x b := by
  cases b with
  | unboundedPreceding | currentRow | unboundedFollowing => rfl
  | preceding o | following o =>
    simp only [Bound.mirror, boundary, stepBack, stepForward, h]
    cases v.isAscending <;> rfl

theorem order_mirror (a b : Cell) : v'.order a b = v.order b a := by
  rw [← v.order_swap a b, order, order, h]
  cases v.isAscending <;> simp [Cell.orderAlong]

/-- Mirrored boundaries trade places, so what lies between them stays. -/
theorem inRange_mirror {f : Frame} {x y : Cell} : v'.InRange f.mirror x y ↔ v.InRange f x y := by
  have lower (t : Cell) : v.order t y ≠ .lt ↔ v.order y t ≠ .gt := by
    rw [order_ne_lt_iff, order_ne_gt_iff]
  have upper (t : Cell) : v.order t y ≠ .gt ↔ v.order y t ≠ .lt := by
    rw [order_ne_lt_iff, order_ne_gt_iff]
  simp only [InRange, Frame.mirror, boundary_mirror h, order_mirror h, lower, upper]
  constructor
  · rintro ⟨high, low, hhigh, hlow, above, below⟩
    exact ⟨low, high, hlow, hhigh, below, above⟩
  · rintro ⟨low, high, hlow, hhigh, below, above⟩
    exact ⟨high, low, hhigh, hlow, above, below⟩

end

end View

/-! ### GROUPS -/

/-- Groups that are counted from the other end are pointed at from there. Neither end is passed. -/
theorem Bound.group_mirror (b : Bound) {count g : Nat} (hg : g < count) :
    b.mirror.group count (count - 1 - g) = (b.group count g).map fun n => count - 1 - n := by
  cases b with
  | unboundedPreceding => rfl
  | currentRow => rfl
  | unboundedFollowing => simp [mirror, group, Except.map]
  | preceding o =>
    simp only [mirror, group]
    cases o.count with
    | error e => rfl
    | ok n =>
      refine congrArg Except.ok ?_
      dsimp only
      omega
  | following o =>
    simp only [mirror, group]
    cases o.count with
    | error e => rfl
    | ok n =>
      refine congrArg Except.ok ?_
      dsimp only
      omega

theorem Frame.InGroups.mirror {f : Frame} {count g g' : Nat} (h : f.InGroups count g g')
    (hg : g < count) : f.mirror.InGroups count (count - 1 - g) (count - 1 - g') := by
  obtain ⟨first, last, hfirst, hlast, low, high⟩ := h
  refine ⟨count - 1 - last, count - 1 - first, ?_, ?_, by omega, by omega⟩
  · exact (f.stop.group_mirror hg).trans (by rw [hlast]; rfl)
  · exact (f.start.group_mirror hg).trans (by rw [hfirst]; rfl)

/-- Groups between mirrored bounds are those between the bounds, counted from the other end. -/
theorem Frame.inGroups_mirror_iff {f : Frame} {count g g' : Nat} (hg : g < count)
    (hg' : g' < count) :
    f.mirror.InGroups count (count - 1 - g) (count - 1 - g') ↔ f.InGroups count g g' := by
  have back {n : Nat} (hn : n < count) : count - 1 - (count - 1 - n) = n := by omega
  constructor
  · intro h
    have h' := h.mirror (by omega)
    rwa [mirror_mirror, back hg, back hg'] at h'
  · intro h
    exact h.mirror hg

/-! ### Views in opposite directions -/

namespace View.SortedBy

variable {up down : View} {sources sources' : List Source} {kind : Kind} (hup : up.SortedBy sources)
  (hdown : down.SortedBy sources')
  (hcells : ∀ q, q < up.size → (up.orderValueAt q).hasKind kind = true) {π : Nat → Nat}
  (h : up.ValuesMatch down π) (hdirection : down.isAscending = !up.isAscending)
include hup hdown hcells h hdirection

/-- **Mirrored frames match** over views in opposite directions. -/
theorem framesMatch_mirror {f : Frame} (hunit : f.unit ≠ .rows)
    (hoffsets : ∀ o ∈ f.offsets, ∃ n, o = .int n) : up.FramesMatch down f f.mirror π := by
  have inOrder := hdown.inOrder_of_hasKind (h.hasKind hcells)
  rw [h.size] at inOrder
  -- groups of peers are counted from the other end
  obtain ⟨groups, count⟩ := (hup.inOrder_of_hasKind hcells).indexOf_reversed inOrder h.rearranges
    fun i hi j hj => by
      rw [peerOrder, peerOrder, order_mirror hdirection, h.orderValueAt i hi, h.orderValueAt j hj]
  have group_lt {i : Nat} (hi : i < up.size) := hup.indexOf_lt_count (h.rearranges.lt i hi)
  rw [← hup.peers_eq] at groups count
  rw [← h.size, ← hdown.peers_eq] at groups count
  rw [h.size] at groups
  refine ValuesMatch.framesMatch hup hdown hcells h hunit rfl hoffsets ?_ Frame.proper_mirror_iff
    ?_ ?_ ?_ ?_
  · exact fun o ho => hoffsets o (Frame.mem_offsets_mirror.mp ho)
  · intro x
    simp only [Bounded, Frame.mirror, boundary_mirror hdirection]
    exact and_comm
  · exact fun x y => inRange_mirror hdirection
  · intro i hi
    rw [groups i hi, count]
    simp only [Frame.Grouped, Frame.mirror, Bound.group_mirror _ (group_lt hi), exists_map_ok]
    exact and_comm
  · intro i hi q hq
    rw [groups i hi, groups q hq, count]
    exact Frame.inGroups_mirror_iff (group_lt hi) (group_lt hq)

end View.SortedBy

/-! ### Both directions of a partition -/

/-- Over integers every frame with counts for its offsets resolves. -/
theorem View.SortedBy.resolves_of_int {v : View} {sources : List Source} (h : v.SortedBy sources)
    (hints : ∀ q < v.size, v.orderValueAt q = .null ∨ ∃ x, v.orderValueAt q = .int x) {f : Frame}
    (hunit : f.unit ≠ .rows) (hf : f.Counted) : ∀ i < v.size, v.Resolves f i := by
  intro i hi
  cases hf' : f.unit with
  | rows => exact absurd hf' hunit
  | range =>
    refine (h.resolves_range_iff hi hf').mpr ((hints i hi).imp_right ?_)
    rintro ⟨x, hx⟩
    rw [hx]
    obtain ⟨low, hlow, -⟩ := v.boundary_int x hf.start.int
    obtain ⟨high, hhigh, -⟩ := v.boundary_int x hf.stop.int
    exact ⟨⟨low, hlow⟩, high, hhigh⟩
  | groups =>
    obtain ⟨first, last, hraw, -⟩ := h.exists_rawFrameAt_groups hf' hf hi
    exact ⟨_, frameAt_eq_ok hi hraw⟩

/-- **What a frame covers in ascending order, its mirror covers in descending order.** With
integers or NULL for order values and non-negative integers for offsets, the frames of a row cover
the same slots of the partition in both orders, so counts, sums and extremes of integers agree. -/
theorem Partition.compute_mirror {p : Partition} {column : String} {s : Source}
    (hs : p.table.column column = .ok s)
    (hcells : ∀ row ∈ p.rows.toList, s.cell row = .null ∨ ∃ x, s.cell row = .int x) {f : Frame}
    (hunit : f.unit ≠ .rows) (hoffsets : ∀ o ∈ f.offsets, ∃ n : Int64, o = .int n ∧ 0 ≤ n.toInt)
    (threshold threshold' : Nat) :
    ∃ up down, p.sort [⟨column, true⟩] threshold = .ok up ∧
      p.sort [⟨column, false⟩] threshold' = .ok down ∧
      (∀ slot < p.size, (∃ i < p.size, up.slotAt i = slot) ∧ ∃ j < p.size, down.slotAt j = slot) ∧
      (∀ i < p.size, ∀ j < p.size, up.slotAt i = down.slotAt j →
        ∃ span span', up.frameAt i f = .ok span ∧ down.frameAt j f.mirror = .ok span' ∧
          ∀ slot, (∃ q ∈ span, up.slotAt q = slot) ↔ ∃ q ∈ span', down.slotAt q = slot) ∧
      ∀ (fn : Function) (value : List Nat → Int64), fn.Tallies p.table value →
        ∃ c c', fn.compute up f = .ok c ∧ fn.compute down f.mirror = .ok c' ∧
          ∀ slot < p.size, c.cell slot = c'.cell slot := by
  have columns (ascending : Bool) :
      p.table.columnsOf ([⟨column, ascending⟩].map SortKey.column) = .ok [s] :=
    mapM_cons_ok.mpr ⟨s, [], hs, rfl, rfl⟩
  obtain ⟨up, hup, partition, keys, sorted⟩ :=
    p.exists_sort (List.cons_ne_nil _ _) (columns true) threshold
  obtain ⟨down, hdown, partition', keys', sorted'⟩ :=
    p.exists_sort (List.cons_ne_nil _ _) (columns false) threshold'
  have size : up.size = p.size := by rw [sorted.complete.size_eq, partition]
  have size' : down.size = p.size := by rw [sorted'.complete.size_eq, partition']
  have hdirection : down.isAscending = !up.isAscending := by
    rw [View.isAscending, View.isAscending, keys, keys']
    rfl
  -- positions correspond through their slots
  have hpartition : down.partition = up.partition := partition'.trans partition.symm
  obtain ⟨π, hπ, slots⟩ := sorted.complete.exists_rearranges sorted'.complete hpartition
  have hmatch : up.ValuesMatch down π := by
    refine ⟨size'.trans size.symm, hπ, fun q hq => ?_⟩
    rw [sorted.orderValueAt_eq rfl (hπ.lt q hq), sorted'.orderValueAt_eq rfl (by omega),
      View.rowAt, View.rowAt, slots q hq, hpartition]
  have hints : ∀ q < up.size, up.orderValueAt q = .null ∨ ∃ x, up.orderValueAt q = .int x := by
    intro q hq
    rw [sorted.orderValueAt_eq rfl hq]
    refine hcells _ ?_
    rw [← partition]
    exact sorted.complete.rowAt_mem hq
  have hframes := sorted.framesMatch_mirror sorted'
    (fun q hq => Cell.hasKind_int64_iff.mpr (hints q hq)) hmatch hdirection hunit
    fun o ho => (hoffsets o ho).imp fun n hn => hn.1
  have resolves := sorted.resolves_of_int hints hunit hoffsets
  refine ⟨up, down, hup, hdown, fun slot hslot => ⟨?_, ?_⟩, fun i hi j hj heq => ?_,
    fun fn value hfn => ?_⟩
  · rw [← size]
    exact sorted.complete.exists_slotAt_eq (by rwa [partition])
  · rw [← size']
    exact sorted'.complete.exists_slotAt_eq (by rwa [partition'])
  · rw [← size] at hi hj
    obtain rfl : i = π j := sorted.complete.slotAt_inj hi (hπ.lt j hj) (heq.trans (slots j hj).symm)
    obtain ⟨span, hspan⟩ := resolves _ hi
    obtain ⟨span', hspan'⟩ := (hframes.resolves j hj).mpr ⟨span, hspan⟩
    exact ⟨span, span', hspan, hspan', hframes.exists_slotAt_iff slots hj hspan hspan'⟩
  · rw [← partition]
    rw [← partition] at hfn
    exact hframes.exists_compute_of_slots sorted.complete sorted'.complete hpartition slots hfn
      resolves

namespace Partition

/-- Hours, one of them missing. -/
private def hours : Column := ⟨"hour", .int64 #[some 5, none, some 3, some 9]⟩

/-- Readings by hour. -/
private def readings : Table :=
  ⟨[.typed hours, .typed ⟨"reading", .int32 #[some 1, some 10, some 100, some 1000]⟩],
    [("reading", 1), ("hour", 0)]⟩

theorem compute_mirror_readings :
    ∃ up down c c', sort ⟨readings, #[0, 1, 2, 3]⟩ [⟨"hour", true⟩] 2 = .ok up ∧
      sort ⟨readings, #[0, 1, 2, 3]⟩ [⟨"hour", false⟩] 8 = .ok down ∧
      (Function.aggregate .sum "reading").compute up ⟨.range, .preceding (.int 2), .currentRow⟩ =
        .ok c ∧
      (Function.aggregate .sum "reading").compute down ⟨.range, .currentRow, .following (.int 2)⟩ =
        .ok c' ∧
      (∀ slot < 4, c.cell slot = c'.cell slot) ∧ c.cell 0 = .int 101 ∧ c.cell 1 = .int 10 := by
  have hs : (Partition.mk readings #[0, 1, 2, 3]).table.column "hour" = .ok (.typed hours) := rfl
  have hints : ∀ row ∈ [0, 1, 2, 3], (Source.typed hours).cell row = .null ∨
      ∃ x, (Source.typed hours).cell row = .int x := by
    simp [hours, Source.cell, Column.cell, Storage.cell, Storage.value?]
  obtain ⟨up, down, hup, hdown, -, -, agree⟩ := compute_mirror hs hints
    (f := ⟨.range, .preceding (.int 2), .currentRow⟩) (by simp)
    (by simp [Frame.offsets, Bound.offset?]) 2 8
  obtain ⟨c, c', hc, hc', cells⟩ := agree (.aggregate .sum "reading") _ (.aggregate rfl rfl .sum)
  refine ⟨up, down, c, c', hup, hdown, hc, hc', cells, ?_⟩
  have computed : ((sort ⟨readings, #[0, 1, 2, 3]⟩ [⟨"hour", true⟩] 2).bind fun up =>
      (Function.aggregate .sum "reading").compute up ⟨.range, .preceding (.int 2), .currentRow⟩) =
        .ok ⟨"sum", .int32 #[some 101, some 10, some 100, some 1000]⟩ := by
    cbv
  rw [hup] at computed
  cases hc.symm.trans computed
  exact ⟨rfl, rfl⟩

end Partition

end WindowQuery
