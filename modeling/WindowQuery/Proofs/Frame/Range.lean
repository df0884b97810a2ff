import Mathlib
import WindowQuery.Proofs.Frame.Clamp
import WindowQuery.Proofs.View.Search

/-!
# Membership in RANGE frames

A bound of a RANGE frame points at an order value, its **boundary** (`View.boundary`): the value
of the current row, moved by the offset of the bound. A frame is found by searching the two
boundaries in the order values of a sorted view, or by looking up the peers of the current row.
Either way it holds exactly the positions whose order value lies between the boundaries, as
`View.SortedBy.rangeStart_eq` and `rangeStop_eq` say for its two ends and `frameAt_range` for the
frame. A row without an order value sees the rows without one.
-/

namespace WindowQuery

namespace Frame

variable {f : Frame} {o : Offset}

theorem mem_offsets_start (h : o ∈ f.start.offset?) : o ∈ f.offsets :=
  List.mem_append_left _ (Option.mem_toList.mpr h)

theorem mem_offsets_stop (h : o ∈ f.stop.offset?) : o ∈ f.offsets :=
  List.mem_append_right _ (Option.mem_toList.mpr h)

end Frame

namespace View

/-! ### Boundaries -/

/-- The order value that a bound points at from a value, none for a bound at an end of the
partition. -/
def boundary (v : View) (value : Cell) : Bound → Except QueryError (Option Cell)
  | .preceding o => (v.stepBack value o).map some
  | .currentRow => .ok (some value)
  | .following o => (v.stepForward value o).map some
  | .unboundedPreceding | .unboundedFollowing => .ok none

/-- Integers move by integers, in either direction. -/
theorem step_int (v : View) (x n : Int64) :
    (∃ y, v.stepBack (.int x) (.int n) = .ok (.int y)) ∧
      ∃ y, v.stepForward (.int x) (.int n) = .ok (.int y) := by
  unfold stepBack stepForward
  cases v.isAscending <;> exact ⟨⟨_, rfl⟩, ⟨_, rfl⟩⟩

/-- From an integer a bound with an integer offset points at an integer. -/
theorem boundary_int (v : View) (x : Int64) {b : Bound} (hb : ∀ o ∈ b.offset?, ∃ n, o = .int n) :
    ∃ target, v.boundary (.int x) b = .ok target ∧ ∀ t ∈ target, ∃ y, t = .int y := by
  cases b with
  | unboundedPreceding | unboundedFollowing => exact ⟨none, rfl, by simp⟩
  | currentRow => exact ⟨some (.int x), rfl, by simp⟩
  | preceding o =>
    obtain ⟨n, rfl⟩ := hb o rfl
    obtain ⟨y, hy⟩ := (v.step_int x n).1
    exact ⟨some (.int y), by rw [boundary, hy]; rfl, by simp⟩
  | following o =>
    obtain ⟨n, rfl⟩ := hb o rfl
    obtain ⟨y, hy⟩ := (v.step_int x n).2
    exact ⟨some (.int y), by rw [boundary, hy]; rfl, by simp⟩

/-- Only the ends of the partition have no boundary. -/
theorem unbounded_of_boundary_none {v : View} {value : Cell} {b : Bound}
    (h : v.boundary value b = .ok none) : b = .unboundedPreceding ∨ b = .unboundedFollowing := by
  cases b with
  | unboundedPreceding => exact .inl rfl
  | unboundedFollowing => exact .inr rfl
  | currentRow => cases h
  | preceding o | following o =>
    obtain ⟨t, -, ht⟩ := map_eq_ok.mp h
    cases ht

/-! ### Order values -/

/-- Only NULL is level with NULL. -/
theorem order_null_eq_iff (v : View) (c : Cell) : v.order c .null = .eq ↔ c = .null := by
  cases direction : v.isAscending <;> cases c <;>
    simp [order, direction, Cell.orderAlong, Cell.order]

/-- A row without an order value stands before every integer in ascending order and after every
integer in descending order. -/
theorem order_null_int (v : View) (y : Int64) :
    v.order .null (.int y) = if v.isAscending then .lt else .gt := by
  cases direction : v.isAscending <;> simp [order, direction, Cell.orderAlong, Cell.order]

/-- A bound that keeps rows without an order value inside, on the side where they stand, is an
unbounded one. -/
theorem unbounded_of_null {v : View} {value : Cell} {b : Bound} {target : Option Cell}
    (h : v.boundary value b = .ok target) (hint : ∀ t ∈ target, ∃ y, t = .int y)
    (inside : ∀ t ∈ target, v.order .null t ≠ if v.isAscending then .lt else .gt) :
    b = .unboundedPreceding ∨ b = .unboundedFollowing := by
  cases target with
  | none => exact unbounded_of_boundary_none h
  | some t =>
    obtain ⟨y, rfl⟩ := hint t rfl
    exact absurd (v.order_null_int y) (inside _ rfl)

/-- Cells of one kind are totally preordered along the direction of a view. -/
theorem order_isLE_trans (v : View) {kind : Kind} {a b c : Cell} (ha : a.hasKind kind = true)
    (hb : b.hasKind kind = true) (hc : c.hasKind kind = true) (hab : (v.order a b).isLE = true)
    (hbc : (v.order b c).isLE = true) : (v.order a c).isLE = true :=
  Cell.orderAlong_isLE_trans v.isAscending (Cell.order_isLE_trans_of_hasKind ha hb hc)
    (Cell.order_isLE_trans_of_hasKind hc hb ha) hab hbc

/-- Comparison is a total preorder of order values and a target of one kind. -/
theorem preordered_of_hasKind {v : View} {kind : Kind}
    (hcells : ∀ q, q < v.size → (v.orderValueAt q).hasKind kind = true) {target : Cell}
    (htarget : target.hasKind kind = true) : Cell.Preordered (target :: v.orderValues) := by
  refine Cell.preordered_of_hasKind (List.forall_mem_cons.mpr ⟨htarget, fun c hc => ?_⟩)
  obtain ⟨q, hq, rfl⟩ := List.mem_map.mp hc
  exact hcells q (List.mem_range.mp hq)

namespace SortedBy

variable {v : View} {sources : List Source} {kind : Kind} (h : v.SortedBy sources)
  (hcells : ∀ q, q < v.size → (v.orderValueAt q).hasKind kind = true)
include h hcells

theorem inOrder_of_hasKind : Runs.InOrder v.size v.peerOrder :=
  h.inOrder_peerOrder (ordersPeers_of_hasKind hcells)

/-- **The start of a RANGE frame** is the first position whose order value does not come before
the boundary. -/
theorem rangeStart_eq {i : Nat} (hi : i < v.size) {b : Bound} (hb : b ≠ .unboundedFollowing)
    {target : Option Cell} (htarget : v.boundary (v.orderValueAt i) b = .ok target)
    (hkind : ∀ t ∈ target, t.hasKind kind = true) :
    ∃ start, v.rangeStart i b = .ok start ∧ ∀ q, q < v.size →
      (start ≤ q ↔ ∀ t ∈ target, v.order (v.orderValueAt q) t ≠ .lt) := by
  cases b with
  | unboundedPreceding =>
    cases htarget
    exact ⟨0, rfl, by simp⟩
  | unboundedFollowing => exact absurd rfl hb
  | currentRow =>
    cases htarget
    refine ⟨_, rfl, ?_⟩
    intro q hq
    -- the peers start at the first position that is not before the current one
    rw [h.peers_eq, (h.inOrder_of_hasKind hcells).start_spanAt_le_iff hi hq]
    simp [order_ne_lt_iff, peerOrder]
  | preceding o =>
    obtain ⟨t, ht, rfl⟩ := map_eq_ok.mp htarget
    refine ⟨v.firstAtOrAfter t, by rw [rangeStart, ht]; rfl, ?_⟩
    intro q hq
    rw [firstAtOrAfter_le_iff (preordered_of_hasKind hcells (hkind t rfl))
      (h.inOrder_of_hasKind hcells) hq]
    simp
  | following o =>
    obtain ⟨t, ht, rfl⟩ := map_eq_ok.mp htarget
    refine ⟨v.firstAtOrAfter t, by rw [rangeStart, ht]; rfl, ?_⟩
    intro q hq
    rw [firstAtOrAfter_le_iff (preordered_of_hasKind hcells (hkind t rfl))
      (h.inOrder_of_hasKind hcells) hq]
    simp

/-- **The end of a RANGE frame** comes after the last position whose order value does not come
after the boundary. -/
theorem rangeStop_eq {i : Nat} (hi : i < v.size) {b : Bound} (hb : b ≠ .unboundedPreceding)
    {target : Option Cell} (htarget : v.boundary (v.orderValueAt i) b = .ok target)
    (hkind : ∀ t ∈ target, t.hasKind kind = true) :
    ∃ stop, v.rangeStop i b = .ok stop ∧ ∀ q, q < v.size →
      (q < stop ↔ ∀ t ∈ target, v.order (v.orderValueAt q) t ≠ .gt) := by
  cases b with
  | unboundedPreceding => exact absurd rfl hb
  | unboundedFollowing =>
    cases htarget
    exact ⟨v.size, rfl, fun q hq => by simp [hq]⟩
  | currentRow =>
    cases htarget
    refine ⟨_, rfl, ?_⟩
    intro q hq
    -- the peers stop behind the last position that is not after the current one
    rw [h.peers_eq, (h.inOrder_of_hasKind hcells).lt_stop_spanAt_iff hi hq]
    simp [order_ne_gt_iff, peerOrder]
  | preceding o =>
    obtain ⟨t, ht, rfl⟩ := map_eq_ok.mp htarget
    refine ⟨v.firstAfter t, by rw [rangeStop, ht]; rfl, ?_⟩
    intro q hq
    rw [lt_firstAfter_iff (preordered_of_hasKind hcells (hkind t rfl))
      (h.inOrder_of_hasKind hcells) hq]
    simp
  | following o =>
    obtain ⟨t, ht, rfl⟩ := map_eq_ok.mp htarget
    refine ⟨v.firstAfter t, by rw [rangeStop, ht]; rfl, ?_⟩
    intro q hq
    rw [lt_firstAfter_iff (preordered_of_hasKind hcells (hkind t rfl))
      (h.inOrder_of_hasKind hcells) hq]
    simp

omit hcells in
theorem isOrdered_eq : v.isOrdered = true := by
  obtain ⟨key, keys, -, -, hkeys, -⟩ := h.exists_first
  simp [isOrdered, hkeys]

omit hcells in
/-- Without an order value the peers, else what the bounds come to. -/
theorem rawFrameAt_range {f : Frame} (hunit : f.unit = .range) (i : Nat) : v.rawFrameAt i f =
    if (v.orderValueAt i).isNull then .ok (v.peers.spanAt i)
    else ends (v.rangeStart i f.start) (v.rangeStop i f.stop) := by
  simp [rawFrameAt, hunit, h.isOrdered_eq]

section

variable {f : Frame} {i : Nat} (hi : i < v.size) (hunit : f.unit = .range)
  (hstart : f.start ≠ .unboundedFollowing) (hstop : f.stop ≠ .unboundedPreceding)
include hi hunit hstart hstop

/-- A row without an order value sees the rows without one, whatever the bounds are. -/
theorem frameAt_range_null (hnull : v.orderValueAt i = .null) :
    ∃ span, v.frameAt i f = .ok span ∧
      ∀ q, q ∈ span ↔ q < v.size ∧ v.orderValueAt q = .null := by
  have raw : v.rawFrameAt i f = .ok (v.peers.spanAt i) := by
    rw [h.rawFrameAt_range hunit, hnull]
    rfl
  refine ⟨v.clampFrame f (v.peers.spanAt i), frameAt_eq_ok hi raw, fun q => ?_⟩
  rw [mem_clampFrame hstart hstop, h.peers_eq]
  refine and_congr_right ?_
  intro hq
  rw [(h.inOrder_of_hasKind hcells).mem_spanAt_iff hi hq, peerOrder, hnull]
  exact v.order_null_eq_iff _

/-- **A row with an order value sees the rows between its two boundaries.** -/
theorem frameAt_range (hvalue : v.orderValueAt i ≠ .null) {low high : Option Cell}
    (hlow : v.boundary (v.orderValueAt i) f.start = .ok low)
    (hhigh : v.boundary (v.orderValueAt i) f.stop = .ok high)
    (lowKind : ∀ t ∈ low, t.hasKind kind = true) (highKind : ∀ t ∈ high, t.hasKind kind = true) :
    ∃ span, v.frameAt i f = .ok span ∧ ∀ q, q ∈ span ↔ q < v.size ∧
      (∀ t ∈ low, v.order (v.orderValueAt q) t ≠ .lt) ∧
        ∀ t ∈ high, v.order (v.orderValueAt q) t ≠ .gt := by
  obtain ⟨start, hstart', starts⟩ := h.rangeStart_eq hcells hi hstart hlow lowKind
  obtain ⟨stop, hstop', stops⟩ := h.rangeStop_eq hcells hi hstop hhigh highKind
  have notNull : (v.orderValueAt i).isNull = false := by
    rw [← Bool.not_eq_true, Cell.isNull_iff]
    exact hvalue
  have raw : v.rawFrameAt i f = .ok ⟨start, stop⟩ := by
    rw [h.rawFrameAt_range hunit, notNull, hstart', hstop']
    rfl
  refine ⟨v.clampFrame f ⟨start, stop⟩, frameAt_eq_ok hi raw, fun q => ?_⟩
  rw [mem_clampFrame hstart hstop]
  refine and_congr_right ?_
  intro hq
  rw [Span.mem_iff, ← starts q hq, ← stops q hq]

end

end SortedBy

/-! ### Frames over integers -/

/-- **RANGE frames by membership.** Over integer order values and with integer offsets every
frame resolves. It holds the rows without an order value when the current row has none, and else
the rows whose order value lies between the boundaries; rows without an order value are then in
it only through an unbounded end on their side. -/
theorem mem_frameAt_range {p : Partition} {sortKeys : List SortKey} {threshold : Nat} {v : View}
    (hsort : p.sort sortKeys threshold = .ok v) (hkeys : sortKeys ≠ [])
    (hcells : ∀ q, q < v.size → v.orderValueAt q = .null ∨ ∃ x, v.orderValueAt q = .int x)
    {f : Frame} (hunit : f.unit = .range) (hoffsets : ∀ o ∈ f.offsets, ∃ n, o = .int n)
    (hstart : f.start ≠ .unboundedFollowing) (hstop : f.stop ≠ .unboundedPreceding) {i : Nat}
    (hi : i < v.size) :
    ∃ span, v.frameAt i f = .ok span ∧
      (v.orderValueAt i = .null → ∀ q, q ∈ span ↔ q < v.size ∧ v.orderValueAt q = .null) ∧
      (v.orderValueAt i ≠ .null → ∃ low high,
        v.boundary (v.orderValueAt i) f.start = .ok low ∧
        v.boundary (v.orderValueAt i) f.stop = .ok high ∧
        (∀ q, q ∈ span ↔ q < v.size ∧ (∀ t ∈ low, v.order (v.orderValueAt q) t ≠ .lt) ∧
          ∀ t ∈ high, v.order (v.orderValueAt q) t ≠ .gt) ∧
        ∀ q ∈ span, v.orderValueAt q = .null →
          if v.isAscending then f.start = .unboundedPreceding
          else f.stop = .unboundedFollowing) := by
  obtain ⟨-, hv, ⟨rfl, -⟩ | ⟨sources, h⟩⟩ := Partition.sort_eq_ok hsort
  · exact absurd rfl hkeys
  -- NULL and integers stand in columns of one kind
  have hkind : ∀ q, q < v.size → (v.orderValueAt q).hasKind .int64 = true :=
    fun q hq => Cell.hasKind_int64_iff.mpr (hcells q hq)
  have startOffsets : ∀ o ∈ f.start.offset?, ∃ n, o = .int n :=
    fun o ho => hoffsets o (List.mem_append_left _ (Option.mem_toList.mpr ho))
  have stopOffsets : ∀ o ∈ f.stop.offset?, ∃ n, o = .int n :=
    fun o ho => hoffsets o (List.mem_append_right _ (Option.mem_toList.mpr ho))
  rcases hcells i hi with hnull | ⟨x, hx⟩
  · obtain ⟨span, hspan, members⟩ := h.frameAt_range_null hkind hi hunit hstart hstop hnull
    exact ⟨span, hspan, fun _ => members, fun hvalue => absurd hnull hvalue⟩
  · obtain ⟨low, hlow, lowInt⟩ := v.boundary_int x startOffsets
    obtain ⟨high, hhigh, highInt⟩ := v.boundary_int x stopOffsets
    have intKind {t : Cell} : (∃ y, t = .int y) → t.hasKind .int64 = true := by
      rintro ⟨y, rfl⟩
      rfl
    rw [← hx] at hlow hhigh
    have hvalue : v.orderValueAt i ≠ .null := by simp [hx]
    obtain ⟨span, hspan, members⟩ := h.frameAt_range hkind hi hunit hstart hstop hvalue hlow hhigh
      (fun t ht => intKind (lowInt t ht)) fun t ht => intKind (highInt t ht)
    refine ⟨span, hspan, fun hnull => absurd hnull hvalue, fun _ => ⟨low, high, hlow, hhigh,
      members, fun q hq hnull => ?_⟩⟩
    obtain ⟨-, aboveLow, belowHigh⟩ := (members q).mp hq
    rw [hnull] at aboveLow belowHigh
    -- an integer boundary on the side of the rows without a value would shut them out
    split
    case isTrue hascending =>
      have unbounded := unbounded_of_null hlow lowInt fun t ht => by
        simpa [hascending] using aboveLow t ht
      exact unbounded.resolve_right hstart
    case isFalse hdescending =>
      have unbounded := unbounded_of_null hhigh highInt fun t ht => by
        simpa [hdescending] using belowHigh t ht
      exact unbounded.resolve_left hstop

/-- A frame between two boundaries, among four positions, is looked up position by position. -/
private theorem mem_iff_of_between {v : View} {span : Span} {low high : Cell} {inside : Nat → Prop}
    (four : v.size = 4)
    (members : ∀ q, q ∈ span ↔ q < v.size ∧
      (∀ t ∈ some low, v.order (v.orderValueAt q) t ≠ .lt) ∧
        ∀ t ∈ some high, v.order (v.orderValueAt q) t ≠ .gt)
    (below : ∀ q, inside q → q < 4)
    (between : ∀ q ∈ [0, 1, 2, 3], (v.order (v.orderValueAt q) low ≠ .lt ∧
      v.order (v.orderValueAt q) high ≠ .gt) ↔ inside q) (q : Nat) :
    q ∈ span ↔ inside q := by
  have position (hq : q < 4) : q ∈ [0, 1, 2, 3] := List.mem_range.mpr hq
  simp only [members, four, Option.mem_def, Option.some.injEq, forall_eq']
  exact ⟨fun ⟨hq, h⟩ => (between q (position hq)).mp h,
    fun h => ⟨below q h, (between q (position (below q h))).mpr h⟩⟩

/-- Readings of a gauge, one of them missing. -/
private def gauge : Column := ⟨"k", .int64 #[some 5, none, some 3, some 5]⟩

/-- The readings from the highest to the lowest, the missing one last. -/
private def gaugeView : View :=
  Partition.viewBy ⟨⟨[.typed gauge], [("k", 0)]⟩, #[0, 1, 2, 3]⟩ [⟨"k", false⟩] [.typed gauge] 2

private theorem gaugeView_values :
    gaugeView.size = 4 ∧
      gaugeView.orderValueAt 0 = .int 5 ∧ gaugeView.orderValueAt 1 = .int 5 ∧
      gaugeView.orderValueAt 2 = .int 3 ∧ gaugeView.orderValueAt 3 = .null := by
  cbv

private theorem gaugeView_cells (q : Nat) (hq : q < gaugeView.size) :
    gaugeView.orderValueAt q = .null ∨ ∃ x, gaugeView.orderValueAt q = .int x := by
  obtain ⟨hsize, v0, v1, v2, v3⟩ := gaugeView_values
  rw [hsize] at hq
  match q, hq with
  | 0, _ => exact .inr ⟨5, v0⟩
  | 1, _ => exact .inr ⟨5, v1⟩
  | 2, _ => exact .inr ⟨3, v2⟩
  | 3, _ => exact .inl v3

/-- Levels of a tank, one of them missing and one as high as 64 bits allow. -/
private def levels : Column := ⟨"k", .int64 #[some 5, none, some Int64.maxValue, some 3]⟩

/-- The levels from the lowest to the highest, the missing one first. -/
private def levelsView : View :=
  Partition.viewBy ⟨⟨[.typed levels], [("k", 0)]⟩, #[0, 1, 2, 3]⟩ [⟨"k", true⟩] [.typed levels] 2

private theorem levelsView_values :
    levelsView.size = 4 ∧
      levelsView.orderValueAt 0 = .null ∧ levelsView.orderValueAt 1 = .int 3 ∧
      levelsView.orderValueAt 2 = .int 5 ∧ levelsView.orderValueAt 3 = .int Int64.maxValue := by
  cbv

private theorem levelsView_cells (q : Nat) (hq : q < levelsView.size) :
    levelsView.orderValueAt q = .null ∨ ∃ x, levelsView.orderValueAt q = .int x := by
  obtain ⟨hsize, v0, v1, v2, v3⟩ := levelsView_values
  rw [hsize] at hq
  match q, hq with
  | 0, _ => exact .inl v0
  | 1, _ => exact .inr ⟨3, v1⟩
  | 2, _ => exact .inr ⟨5, v2⟩
  | 3, _ => exact .inr ⟨Int64.maxValue, v3⟩

/-- Bounds of both kinds along both directions. The last frame would end beyond the greatest integer
and ends at it, so it holds the level that is as high. -/
theorem mem_frameAt_range_gauge :
    (Partition.sort ⟨⟨[.typed gauge], [("k", 0)]⟩, #[0, 1, 2, 3]⟩ [⟨"k", false⟩] 2 = .ok gaugeView ∧
      (∃ span, gaugeView.frameAt 2 ⟨.range, .preceding (.int 2), .currentRow⟩ = .ok span ∧
        ∀ q, q ∈ span ↔ q < 3) ∧
      ∃ span, gaugeView.frameAt 0 ⟨.range, .following (.int 1), .following (.int 2)⟩ = .ok span ∧
        ∀ q, q ∈ span ↔ q = 2) ∧
    Partition.sort ⟨⟨[.typed levels], [("k", 0)]⟩, #[0, 1, 2, 3]⟩ [⟨"k", true⟩] 2 =
        .ok levelsView ∧
      (∃ span, levelsView.frameAt 1 ⟨.range, .preceding (.int 4), .following (.int 2)⟩ = .ok span ∧
        ∀ q, q ∈ span ↔ 1 ≤ q ∧ q < 3) ∧
      ∃ span, levelsView.frameAt 2 ⟨.range, .following (.int 2), .following (.int Int64.maxValue)⟩ =
          .ok span ∧
        ∀ q, q ∈ span ↔ q = 3 := by
  constructor
  · have hsort : Partition.sort ⟨⟨[.typed gauge], [("k", 0)]⟩, #[0, 1, 2, 3]⟩ [⟨"k", false⟩] 2 =
        .ok gaugeView := rfl
    have descending : gaugeView.isAscending = false := rfl
    obtain ⟨hsize, v0, v1, v2, v3⟩ := gaugeView_values
    refine ⟨hsort, ?back, ?forward⟩
    case back =>
      obtain ⟨span, hspan, -, members⟩ := mem_frameAt_range hsort (List.cons_ne_nil _ _)
        gaugeView_cells (f := ⟨.range, .preceding (.int 2), .currentRow⟩) rfl
        (by simp [Frame.offsets, Bound.offset?]) (by simp) (by simp) (i := 2)
        (by rw [hsize]; decide)
      obtain ⟨low, high, hlow, hhigh, members, -⟩ := members (by rw [v2]; simp)
      rw [v2] at hlow hhigh
      have low5 : gaugeView.boundary (.int 3) (.preceding (.int 2)) = .ok (some (.int 5)) := by cbv
      cases low5.symm.trans hlow
      cases hhigh
      refine ⟨span, hspan, mem_iff_of_between hsize members (fun q hq => by omega) ?_⟩
      simp [v0, v1, v2, v3, order, descending, Cell.orderAlong, Cell.order]
      decide
    case forward =>
      obtain ⟨span, hspan, -, members⟩ := mem_frameAt_range hsort (List.cons_ne_nil _ _)
        gaugeView_cells (f := ⟨.range, .following (.int 1), .following (.int 2)⟩) rfl
        (by simp [Frame.offsets, Bound.offset?]) (by simp) (by simp) (i := 0)
        (by rw [hsize]; decide)
      obtain ⟨low, high, hlow, hhigh, members, -⟩ := members (by rw [v0]; simp)
      rw [v0] at hlow hhigh
      have low4 : gaugeView.boundary (.int 5) (.following (.int 1)) = .ok (some (.int 4)) := by cbv
      have high3 : gaugeView.boundary (.int 5) (.following (.int 2)) = .ok (some (.int 3)) := by cbv
      cases low4.symm.trans hlow
      cases high3.symm.trans hhigh
      refine ⟨span, hspan, mem_iff_of_between hsize members (fun q hq => by omega) ?_⟩
      simp [v0, v1, v2, v3, order, descending, Cell.orderAlong, Cell.order]
      decide
  · have hsort : Partition.sort ⟨⟨[.typed levels], [("k", 0)]⟩, #[0, 1, 2, 3]⟩ [⟨"k", true⟩] 2 =
        .ok levelsView := rfl
    have ascending : levelsView.isAscending = true := rfl
    obtain ⟨hsize, v0, v1, v2, v3⟩ := levelsView_values
    refine ⟨hsort, ?both, ?beyond⟩
    case both =>
      obtain ⟨span, hspan, -, members⟩ := mem_frameAt_range hsort (List.cons_ne_nil _ _)
        levelsView_cells (f := ⟨.range, .preceding (.int 4), .following (.int 2)⟩) rfl
        (by simp [Frame.offsets, Bound.offset?]) (by simp) (by simp) (i := 1)
        (by rw [hsize]; decide)
      obtain ⟨low, high, hlow, hhigh, members, -⟩ := members (by rw [v1]; simp)
      rw [v1] at hlow hhigh
      have low1 : levelsView.boundary (.int 3) (.preceding (.int 4)) = .ok (some (.int (-1))) := by
        cbv
      have high5 : levelsView.boundary (.int 3) (.following (.int 2)) = .ok (some (.int 5)) := by
        cbv
      cases low1.symm.trans hlow
      cases high5.symm.trans hhigh
      refine ⟨span, hspan, mem_iff_of_between hsize members (fun q hq => by omega) ?_⟩
      simp [v0, v1, v2, v3, order, ascending, Cell.orderAlong, Cell.order]
      decide
    case beyond =>
      obtain ⟨span, hspan, -, members⟩ := mem_frameAt_range hsort (List.cons_ne_nil _ _)
        levelsView_cells (f := ⟨.range, .following (.int 2), .following (.int Int64.maxValue)⟩) rfl
        (by simp [Frame.offsets, Bound.offset?]) (by simp) (by simp) (i := 2)
        (by rw [hsize]; decide)
      obtain ⟨low, high, hlow, hhigh, members, -⟩ := members (by rw [v2]; simp)
      rw [v2] at hlow hhigh
      have low7 : levelsView.boundary (.int 5) (.following (.int 2)) = .ok (some (.int 7)) := by cbv
      -- the sum of 5 and the offset is saturated
      have highTop : levelsView.boundary (.int 5) (.following (.int Int64.maxValue)) =
          .ok (some (.int Int64.maxValue)) := by
        cbv
      cases low7.symm.trans hlow
      cases highTop.symm.trans hhigh
      refine ⟨span, hspan, mem_iff_of_between hsize members (fun q hq => by omega) ?_⟩
      simp [v0, v1, v2, v3, order, ascending, Cell.orderAlong, Cell.order]
      decide

end View

end WindowQuery
