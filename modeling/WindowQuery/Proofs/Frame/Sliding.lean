import WindowQuery.Proofs.Frame.Distance
import WindowQuery.Proofs.Frame.Groups

/-!
# Sliding frames

The frames of a view slide forward with the current row: neither end of the frame of a later row
comes before that of an earlier one (`View.frameAt_mono`). For ROWS and GROUPS the bounds lead from
later positions and groups to later ones. For RANGE they lead from later values to later
boundaries. The frame of a row without a value has nothing to do with its bounds: either of them
counts as CURRENT ROW there (`Bound.around`), so that NULL is the boundary, and NULL stands at one
end of the order.

Two frames are compared by the positions of the view in front of and behind their ends
(`View.Trails`), so it does not matter where an end lies beyond the view, and an end that the frame
clause puts there is not compared at all.
-/

namespace WindowQuery

/-! ### Frames that trail others -/

namespace View

/-- A raw frame **trails** another one with the same bounds: no position behind the start of the
other is in front of its own, and every position in front of its end is in front of the end of the
other. A start after everything and an end before everything are the same for both. -/
structure Trails (v : View) (f : Frame) (raw raw' : Span) : Prop where
  start : f.start ≠ .unboundedFollowing → ∀ q < v.size, raw'.start ≤ q → raw.start ≤ q
  stop : f.stop ≠ .unboundedPreceding → ∀ q < v.size, q < raw.stop → q < raw'.stop

/-- The frames of two positions can be resolved, and the first one trails the second. -/
def Slides (v : View) (f : Frame) (i i' : Nat) : Prop :=
  ∃ raw raw', v.rawFrameAt i f = .ok raw ∧ v.rawFrameAt i' f = .ok raw' ∧ v.Trails f raw raw'

variable {v : View} {f : Frame}

theorem trails_refl (v : View) (f : Frame) (raw : Span) : v.Trails f raw raw :=
  ⟨fun _ _ _ => id, fun _ _ _ => id⟩

/-- Numbers are in order up to a size when every position behind the one is behind the other. -/
private theorem min_le_min_of_forall_le {size a b : Nat} (h : ∀ q < size, b ≤ q → a ≤ q) :
    min a size ≤ min b size := by
  by_contra hlt
  have := h (min b size) (by omega)
  omega

/-- What trails before it is cut to the view trails after. -/
theorem Trails.clampFrame_le {raw raw' : Span} (h : v.Trails f raw raw') :
    (v.clampFrame f raw).start ≤ (v.clampFrame f raw').start ∧
      (v.clampFrame f raw).stop ≤ (v.clampFrame f raw').stop := by
  have start : (v.clampFrame f raw).start ≤ (v.clampFrame f raw').start := by
    rw [start_clampFrame, start_clampFrame]
    split
    case isTrue => exact Nat.le_refl _
    case isFalse hstart => exact min_le_min_of_forall_le (h.start hstart)
  have stop : (if f.stop = .unboundedPreceding then 0 else min raw.stop v.size) ≤
      if f.stop = .unboundedPreceding then 0 else min raw'.stop v.size := by
    split
    case isTrue => exact Nat.le_refl _
    case isFalse hstop =>
      refine min_le_min_of_forall_le fun q hq hle => ?_
      by_contra hlt
      have := h.stop hstop q hq (by omega)
      omega
  -- an inverted frame ends where it starts, so both ends count towards its end
  rw [stop_clampFrame, stop_clampFrame]
  exact ⟨start, max_le_max start stop⟩

theorem Slides.frameAt_le {i i' : Nat} (hi : i < v.size) (hi' : i' < v.size)
    (h : v.Slides f i i') : ∃ span span', v.frameAt i f = .ok span ∧ v.frameAt i' f = .ok span' ∧
      span.start ≤ span'.start ∧ span.stop ≤ span'.stop := by
  obtain ⟨raw, raw', hraw, hraw', trails⟩ := h
  exact ⟨_, _, frameAt_eq_ok hi hraw, frameAt_eq_ok hi' hraw', trails.clampFrame_le⟩

end View

/-! ### ROWS -/

namespace View

variable {v : View} {f : Frame} (hf : f.Counted) {i i' : Nat} (hii : i ≤ i')
include hf hii

/-- Bounds are displaced from a later position to a later one. -/
theorem slides_rows (hunit : f.unit = .rows) : v.Slides f i i' := by
  obtain ⟨start, hstart, starts⟩ := v.rowsStart_eq i hf.start
  obtain ⟨stop, hstop, stops⟩ := v.rowsStop_eq i hf.stop
  obtain ⟨start', hstart', starts'⟩ := v.rowsStart_eq i' hf.start
  obtain ⟨stop', hstop', stops'⟩ := v.rowsStop_eq i' hf.stop
  have displaced (d : ExtendedInt) : (i : ExtendedInt) + d ≤ i' + d :=
    add_le_add_left (by exact_mod_cast hii) d
  refine ⟨⟨start, stop⟩, ⟨start', stop'⟩, ?_, ?_, ?_, ?_⟩
  · rw [rawFrameAt, hunit]
    exact ends_eq_ok.mpr ⟨hstart, hstop⟩
  · rw [rawFrameAt, hunit]
    exact ends_eq_ok.mpr ⟨hstart', hstop'⟩
  · intro _ q hq hle
    exact (starts q hq).mpr ((displaced _).trans ((starts' q hq).mp hle))
  · intro _ q hq hlt
    exact (stops' q hq).mpr (((stops q hq).mp hlt).trans (displaced _))

end View

/-! ### GROUPS -/

/-- Bounds lead from later groups to later ones. -/
theorem Bound.targetGroup_mono (b : Bound) (count : Int) {g g' : Int} (h : g ≤ g') :
    b.targetGroup count g ≤ b.targetGroup count g' := by
  cases b <;> simp only [targetGroup] <;> omega

namespace View

/-- In a sorted view the groups of peers follow one another. -/
theorem SortedBy.slides_groups {v : View} {sources : List Source} (h : v.SortedBy sources)
    (hpeers : v.OrdersPeers) {f : Frame} (hf : f.Counted) {i i' : Nat} (hii : i ≤ i')
    (hi' : i' < v.size) (hunit : f.unit = .groups) : v.Slides f i i' := by
  have hi : i < v.size := Nat.lt_of_le_of_lt hii hi'
  have later : v.peers.indexOf i ≤ v.peers.indexOf i' := by
    rw [h.peers_eq, (h.inOrder_peerOrder hpeers).indexOf_le_iff hi hi']
    exact (h.inOrder_peerOrder hpeers).le i i' hii hi'
  obtain ⟨first, last, hraw, hfirst, hlast⟩ := h.exists_rawFrameAt_groups hunit hf hi
  obtain ⟨first', last', hraw', hfirst', hlast'⟩ := h.exists_rawFrameAt_groups hunit hf hi'
  have firstLater := f.start.targetGroup_mono v.peers.count (Int.ofNat_le.mpr later)
  have lastLater := f.stop.targetGroup_mono v.peers.count (Int.ofNat_le.mpr later)
  refine ⟨_, _, hraw, hraw', fun _ q hq hle => ?_, fun _ q hq hlt => ?_⟩
  · rw [h.start_groupsSpan_le_iff hq] at hle ⊢
    dsimp only at hle ⊢
    omega
  · rw [h.lt_stop_groupsSpan_iff hq] at hlt ⊢
    dsimp only at hlt ⊢
    omega

end View

/-! ### RANGE -/

/-- Around a row without a value **every bound counts as CURRENT ROW**. -/
def Bound.around (x : Cell) (b : Bound) : Bound := if x.isNull then .currentRow else b

theorem Bound.around_ne {b b' : Bound} (h : b ≠ b') (hcurrent : .currentRow ≠ b') (x : Cell) :
    b.around x ≠ b' := by
  unfold around
  split
  · exact hcurrent
  · exact h

theorem saturate_mono {a b : Int} (h : a ≤ b) : saturate a ≤ saturate b := by
  unfold saturate
  omega

namespace View

/-- The boundary that a RANGE frame has on one side around a row, with a value or without one: its
**edge**. -/
def edge (v : View) (x : Cell) (b : Bound) : Except QueryError (Option Cell) :=
  v.boundary x (b.around x)

/-- One edge lies **no later** than another one. Where only the later one is missing, the earlier one
comes first of all values; where only the earlier one is missing, the later one comes last. -/
structure Leads (v : View) (e e' : Option Cell) : Prop where
  le : ∀ t ∈ e, ∀ t' ∈ e', (v.order t t').isLE = true
  first : e' = none → ∀ t ∈ e, ∀ y, (v.order t y).isLE = true
  last : e = none → ∀ t' ∈ e', ∀ y, (v.order y t').isLE = true

section

variable {v : View} {e e' : Option Cell} (h : v.Leads e e') {kind : Kind}
  (he : ∀ t ∈ e, t.hasKind kind = true) (he' : ∀ t ∈ e', t.hasKind kind = true) {y : Cell}
  (hy : y.hasKind kind = true)
include h he he' hy

/-- What does not come before the later edge does not come before the earlier one. -/
theorem Leads.ne_lt (hle : ∀ t ∈ e', v.order y t ≠ .lt) : ∀ t ∈ e, v.order y t ≠ .lt := by
  intro t ht
  rw [order_ne_lt_iff]
  cases e' with
  | none => exact h.first rfl t ht y
  | some t' =>
    have above := (v.order_ne_lt_iff _ _).mp (hle t' rfl)
    exact v.order_isLE_trans (he t ht) (he' t' rfl) hy (h.le t ht t' rfl) above

/-- What does not come after the earlier edge does not come after the later one. -/
theorem Leads.ne_gt (hle : ∀ t ∈ e, v.order y t ≠ .gt) : ∀ t ∈ e', v.order y t ≠ .gt := by
  intro t' ht'
  rw [order_ne_gt_iff]
  cases e with
  | none => exact h.last rfl t' ht' y
  | some t =>
    have below := (v.order_ne_gt_iff _ _).mp (hle t rfl)
    exact v.order_isLE_trans hy (he t rfl) (he' t' ht') below (h.le t rfl t' ht')

end

theorem order_int_isLE_iff (v : View) (x y : Int64) : (v.order (.int x) (.int y)).isLE = true ↔
    if v.isAscending then x.toInt ≤ y.toInt else y.toInt ≤ x.toInt := by
  rw [order_int]
  split <;> exact Std.isLE_compare

theorem order_null_isLE {v : View} (h : v.isAscending = true) (y : Cell) :
    (v.order .null y).isLE = true := by
  cases y <;> simp [order, h, Cell.orderAlong, Cell.order]

theorem order_isLE_null {v : View} (h : v.isAscending = false) (y : Cell) :
    (v.order y .null).isLE = true := by
  cases y <;> simp [order, h, Cell.orderAlong, Cell.order]

section

variable {v : View} {b : Bound} (hb : ∀ o ∈ b.offset?, ∃ n, o = .int n)
include hb

/-- A bound moves integers to boundaries in the same order. -/
theorem boundary_mono {x x' : Int64} (hle : (v.order (.int x) (.int x')).isLE = true) {t t' : Cell}
    (ht : v.boundary (.int x) b = .ok (some t)) (ht' : v.boundary (.int x') b = .ok (some t')) :
    (v.order t t').isLE = true := by
  cases b with
  | unboundedPreceding | unboundedFollowing => cases ht
  | currentRow =>
    cases ht
    cases ht'
    exact hle
  | preceding o | following o =>
    obtain ⟨n, rfl⟩ := hb o rfl
    rw [order_int_isLE_iff] at hle
    simp only [boundary, stepBack, stepForward] at ht ht'
    cases direction : v.isAscending with
    | true | false =>
      rw [direction] at hle ht ht'
      cases ht
      cases ht'
      rw [order_int_isLE_iff, direction]
      simp only [if_true, Bool.false_eq_true, if_false, toInt_ofIntClamp] at hle ⊢
      exact saturate_mono (by omega)

/-- **Later values have later edges.** -/
theorem leads_edge {x x' : Cell} (hx : x = .null ∨ ∃ n, x = .int n)
    (hx' : x' = .null ∨ ∃ n, x' = .int n) (hle : (v.order x x').isLE = true) {e e' : Option Cell}
    (he : v.edge x b = .ok e) (he' : v.edge x' b = .ok e') : v.Leads e e' := by
  -- around every integer a bound has a boundary, or around none
  have unbounded {n n' : Int64} {t : Cell} (hn : v.boundary (.int n) b = .ok none) :
      v.boundary (.int n') b ≠ .ok (some t) := by
    rcases unbounded_of_boundary_none hn with rfl | rfl <;> exact fun h => by cases h
  rcases hx with rfl | ⟨n, rfl⟩ <;> rcases hx' with rfl | ⟨n', rfl⟩
  · cases he
    cases he'
    exact ⟨by simpa using hle, by simp, by simp⟩
  · -- a row without a value is the earlier one in ascending order alone
    cases he
    have ascending : v.isAscending = true := by
      by_contra hdescending
      simp [order_null_int, hdescending] at hle
    exact ⟨by simp [order_null_isLE ascending], by simp [order_null_isLE ascending], by simp⟩
  · cases he'
    have descending : v.isAscending = false := by
      by_contra hascending
      rw [← order_swap, order_null_int, if_pos (by simpa using hascending)] at hle
      cases hle
    exact ⟨by simp [order_isLE_null descending], by simp, by simp [order_isLE_null descending]⟩
  · refine ⟨?_, ?_, ?_⟩
    · rintro t rfl t' rfl
      exact boundary_mono hb hle he he'
    · rintro rfl t rfl
      exact absurd he (unbounded he')
    · rintro rfl t' rfl
      exact absurd he' (unbounded he)

/-- Integers and NULL have an edge, and it is one of them again. -/
theorem exists_edge {x : Cell} (hx : x = .null ∨ ∃ n, x = .int n) :
    ∃ e, v.edge x b = .ok e ∧ ∀ t ∈ e, t.hasKind .int64 = true := by
  rcases hx with rfl | ⟨n, rfl⟩
  · exact ⟨some .null, rfl, by simp [Cell.hasKind]⟩
  · obtain ⟨e, he, -⟩ := v.boundary_int n hb
    exact ⟨e, he, hasKind_boundary rfl hb he⟩

end

namespace SortedBy

variable {v : View} {sources : List Source} (h : v.SortedBy sources)
include h

/-- The frame of a row without a value is what CURRENT ROW makes of either bound. -/
theorem rawFrameAt_around {f : Frame} (hunit : f.unit = .range) (i : Nat) : v.rawFrameAt i f =
    ends (v.rangeStart i (f.start.around (v.orderValueAt i)))
      (v.rangeStop i (f.stop.around (v.orderValueAt i))) := by
  rw [h.rawFrameAt_range hunit]
  unfold Bound.around
  split <;> rfl

variable (hcells : ∀ q < v.size, v.orderValueAt q = .null ∨ ∃ x, v.orderValueAt q = .int x)
include hcells

section

variable {b : Bound} (hb : ∀ o ∈ b.offset?, ∃ n, o = .int n) {i i' : Nat} (hii : i ≤ i')
  (hi' : i' < v.size)
include hb hii hi'

/-- **The start of a RANGE frame slides forward**, unless it lies behind everything. -/
theorem exists_rangeStart_slides : ∃ start start',
    v.rangeStart i (b.around (v.orderValueAt i)) = .ok start ∧
      v.rangeStart i' (b.around (v.orderValueAt i')) = .ok start' ∧
      (b ≠ .unboundedFollowing → ∀ q < v.size, start' ≤ q → start ≤ q) := by
  have hi : i < v.size := Nat.lt_of_le_of_lt hii hi'
  have hkind : ∀ q < v.size, (v.orderValueAt q).hasKind .int64 = true :=
    fun q hq => Cell.hasKind_int64_iff.mpr (hcells q hq)
  obtain ⟨e, he, kinds⟩ := exists_edge (v := v) hb (hcells i hi)
  obtain ⟨e', he', kinds'⟩ := exists_edge (v := v) hb (hcells i' hi')
  obtain ⟨start, hstart⟩ := exists_rangeStart_iff.mpr ⟨e, he⟩
  obtain ⟨start', hstart'⟩ := exists_rangeStart_iff.mpr ⟨e', he'⟩
  refine ⟨start, start', hstart, hstart', fun hbound q hq hle => ?_⟩
  have bound (x : Cell) := Bound.around_ne hbound (by decide) x
  obtain ⟨_, same, starts⟩ := h.rangeStart_eq hkind hi (bound _) he kinds
  obtain ⟨_, same', starts'⟩ := h.rangeStart_eq hkind hi' (bound _) he' kinds'
  cases hstart.symm.trans same
  cases hstart'.symm.trans same'
  rw [starts q hq]
  have leads := leads_edge hb (hcells i hi) (hcells i' hi')
    ((h.inOrder_of_hasKind hkind).le i i' hii hi') he he'
  exact leads.ne_lt kinds kinds' (hkind q hq) ((starts' q hq).mp hle)

/-- **The end of a RANGE frame slides forward**, unless it lies before everything. -/
theorem exists_rangeStop_slides : ∃ stop stop',
    v.rangeStop i (b.around (v.orderValueAt i)) = .ok stop ∧
      v.rangeStop i' (b.around (v.orderValueAt i')) = .ok stop' ∧
      (b ≠ .unboundedPreceding → ∀ q < v.size, q < stop → q < stop') := by
  have hi : i < v.size := Nat.lt_of_le_of_lt hii hi'
  have hkind : ∀ q < v.size, (v.orderValueAt q).hasKind .int64 = true :=
    fun q hq => Cell.hasKind_int64_iff.mpr (hcells q hq)
  obtain ⟨e, he, kinds⟩ := exists_edge (v := v) hb (hcells i hi)
  obtain ⟨e', he', kinds'⟩ := exists_edge (v := v) hb (hcells i' hi')
  obtain ⟨stop, hstop⟩ := exists_rangeStop_iff.mpr ⟨e, he⟩
  obtain ⟨stop', hstop'⟩ := exists_rangeStop_iff.mpr ⟨e', he'⟩
  refine ⟨stop, stop', hstop, hstop', fun hbound q hq hlt => ?_⟩
  have bound (x : Cell) := Bound.around_ne hbound (by decide) x
  obtain ⟨_, same, stops⟩ := h.rangeStop_eq hkind hi (bound _) he kinds
  obtain ⟨_, same', stops'⟩ := h.rangeStop_eq hkind hi' (bound _) he' kinds'
  cases hstop.symm.trans same
  cases hstop'.symm.trans same'
  rw [stops' q hq]
  have leads := leads_edge hb (hcells i hi) (hcells i' hi')
    ((h.inOrder_of_hasKind hkind).le i i' hii hi') he he'
  exact leads.ne_gt kinds kinds' (hkind q hq) ((stops q hq).mp hlt)

end

/-- In a sorted view the edges of RANGE frames follow one another. -/
theorem slides_range {f : Frame} (hf : f.Counted) {i i' : Nat} (hii : i ≤ i') (hi' : i' < v.size)
    (hunit : f.unit = .range) : v.Slides f i i' := by
  obtain ⟨start, start', hstart, hstart', starts⟩ :=
    h.exists_rangeStart_slides hcells hf.start.int hii hi'
  obtain ⟨stop, stop', hstop, hstop', stops⟩ :=
    h.exists_rangeStop_slides hcells hf.stop.int hii hi'
  refine ⟨⟨start, stop⟩, ⟨start', stop'⟩, ?_, ?_, starts, stops⟩
  · rw [h.rawFrameAt_around hunit]
    exact ends_eq_ok.mpr ⟨hstart, hstop⟩
  · rw [h.rawFrameAt_around hunit]
    exact ends_eq_ok.mpr ⟨hstart', hstop'⟩

end SortedBy

/-! ### All frames -/

/-- **Frames slide forward.** In a view without order, or sorted on a first key of integers and
NULL in either direction, the frames of an earlier and of a later position can be resolved, whatever
the unit and the bounds are, and neither the start nor the end of the later one comes before that of
the earlier one. Without order all order values are NULL. -/
theorem frameAt_mono {p : Partition} {sortKeys : List SortKey} {threshold : Nat} {v : View}
    (hsort : p.sort sortKeys threshold = .ok v)
    (hcells : ∀ q < v.size, v.orderValueAt q = .null ∨ ∃ x, v.orderValueAt q = .int x) {f : Frame}
    (hf : f.Counted) {i i' : Nat} (hii : i ≤ i') (hi' : i' < v.size) :
    ∃ span span', v.frameAt i f = .ok span ∧ v.frameAt i' f = .ok span' ∧
      span.start ≤ span'.start ∧ span.stop ≤ span'.stop := by
  refine Slides.frameAt_le (Nat.lt_of_le_of_lt hii hi') hi' ?_
  by_cases hrows : f.unit = .rows
  · exact slides_rows hf hii hrows
  obtain ⟨-, -, ⟨-, rfl⟩ | ⟨sources, h⟩⟩ := Partition.sort_eq_ok hsort
  · have whole (q : Nat) : p.arrivalView.rawFrameAt q f = .ok ⟨0, p.arrivalView.size⟩ :=
      rawFrameAt_unordered rfl hrows
    exact ⟨_, _, whole i, whole i', trails_refl _ f _⟩
  · cases hunit : f.unit with
    | rows => exact absurd hunit hrows
    | range => exact h.slides_range hcells hf hii hi' hunit
    | groups =>
      have hpeers : v.OrdersPeers :=
        ordersPeers_of_hasKind fun q hq => Cell.hasKind_int64_iff.mpr (hcells q hq)
      exact h.slides_groups hpeers hf hii hi' hunit

/-- Depths, one of them missing. -/
private def depths : Column := ⟨"depth", .int64 #[some 3, none, some 5, some 5]⟩

private def depthsPartition : Partition := ⟨⟨[.typed depths], [("depth", 0)]⟩, #[0, 1, 2, 3]⟩

/-- The depths from the greatest to the least, the missing one last. -/
private def depthsView : View := depthsPartition.viewBy [⟨"depth", false⟩] [.typed depths] 2

private theorem depthsView_values :
    depthsView.size = 4 ∧
      depthsView.orderValueAt 0 = .int 5 ∧ depthsView.orderValueAt 1 = .int 5 ∧
      depthsView.orderValueAt 2 = .int 3 ∧ depthsView.orderValueAt 3 = .null := by
  cbv

/-- An inverted frame of a row with a value, and the frame of the row without one behind it. -/
theorem frameAt_mono_depths :
    depthsPartition.sort [⟨"depth", false⟩] 2 = .ok depthsView ∧
      ∃ span span',
        depthsView.frameAt 1 ⟨.range, .following (.int 1), .preceding (.int 2)⟩ = .ok span ∧
        depthsView.frameAt 3 ⟨.range, .following (.int 1), .preceding (.int 2)⟩ = .ok span' ∧
        span.start ≤ span'.start ∧ span.stop ≤ span'.stop := by
  have hsort : depthsPartition.sort [⟨"depth", false⟩] 2 = .ok depthsView := rfl
  obtain ⟨hsize, v0, v1, v2, v3⟩ := depthsView_values
  have hcells : ∀ q < depthsView.size,
      depthsView.orderValueAt q = .null ∨ ∃ x, depthsView.orderValueAt q = .int x := by
    intro q hq
    rw [hsize] at hq
    match q, hq with
    | 0, _ => exact .inr ⟨5, v0⟩
    | 1, _ => exact .inr ⟨5, v1⟩
    | 2, _ => exact .inr ⟨3, v2⟩
    | 3, _ => exact .inl v3
  exact ⟨hsort, frameAt_mono hsort hcells (by decide) (by decide) (by rw [hsize]; decide)⟩

end View

end WindowQuery
