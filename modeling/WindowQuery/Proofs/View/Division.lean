import WindowQuery.Proofs.View.Counting
import WindowQuery.Proofs.View.TieGroups

/-!
# Positions divided into classes

Peers and ties are found by comparing neighbours. On a view that sorts its partition this is enough
to **divide** the positions (`Runs.Divides`): the runs follow each other without a gap from the
first position to the last, and two positions are in one run exactly when their keys are level,
however far apart they are (`Partition.sort_divides`).

The argument is that of any sequence in order (`Runs.InOrder.divides`). A view in order of arrival
is one as well, with all positions level. That ties lie inside peers needs nothing of how either
was found (`Runs.Divides.exists_span`).
-/

namespace WindowQuery

namespace Runs

/-- The runs **divide** the positions below `size` into the classes of a relation. -/
structure Divides (r : Runs) (size : Nat) (alike : Nat → Nat → Prop) : Prop where
  /-- No run is empty. -/
  nonempty : ∀ run < r.count, (r.span run).start < (r.span run).stop
  /-- A run stops where the next one starts. -/
  consecutive : ∀ run, (r.span run).stop = (r.span (run + 1)).start
  /-- Run after run the positions are listed from the first to the last. -/
  covers : (List.range r.count).flatMap (fun run => (r.span run).positions) = List.range size
  /-- Behind the last run there is only the end. -/
  past : ∀ run, r.count ≤ run → r.span run = ⟨size, size⟩
  count_eq_zero_iff : r.count = 0 ↔ size = 0
  indexOf_lt : ∀ p < size, r.indexOf p < r.count
  /-- A position lies in the run that it names, and in no other. -/
  mem_span_iff : ∀ p < size, ∀ run, p ∈ r.span run ↔ r.indexOf p = run
  indexOf_mono : ∀ p q, p ≤ q → q < size → r.indexOf p ≤ r.indexOf q
  indexOf_eq_iff : ∀ p < size, ∀ q < size, r.indexOf p = r.indexOf q ↔ alike p q

namespace Divides

variable {r r' : Runs} {size : Nat} {alike alike' : Nat → Nat → Prop} (h : r.Divides size alike)
include h

/-- The positions of a run are positions. -/
theorem lt_of_mem_span {p run : Nat} (hrun : run < r.count) (hp : p ∈ r.span run) : p < size := by
  have listed : p ∈ (List.range r.count).flatMap fun run => (r.span run).positions :=
    List.mem_flatMap.mpr ⟨run, List.mem_range.mpr hrun, Span.mem_positions.mpr hp⟩
  rwa [h.covers, List.mem_range] at listed

/-- Runs of a narrower relation lie inside runs of a wider one. -/
theorem exists_span (h' : r'.Divides size alike')
    (wider : ∀ p < size, ∀ q < size, alike p q → alike' p q) {run : Nat} (hrun : run < r.count) :
    ∃ run' < r'.count, ∀ q ∈ r.span run, q ∈ r'.span run' := by
  have first : (r.span run).start ∈ r.span run := ⟨Nat.le_refl _, h.nonempty run hrun⟩
  have inside := h.lt_of_mem_span hrun first
  refine ⟨r'.indexOf (r.span run).start, h'.indexOf_lt _ inside, fun q hq => ?_⟩
  have hq' := h.lt_of_mem_span hrun hq
  have together : r.indexOf q = r.indexOf (r.span run).start := by
    rw [(h.mem_span_iff q hq' run).mp hq, (h.mem_span_iff _ inside run).mp first]
  rw [h'.mem_span_iff q hq', h'.indexOf_eq_iff q hq' _ inside]
  exact wider q hq' _ inside ((h.indexOf_eq_iff q hq' _ inside).mp together)

theorem congr (same : ∀ p < size, ∀ q < size, alike p q ↔ alike' p q) : r.Divides size alike' :=
  { h with indexOf_eq_iff := fun p hp q hq => (h.indexOf_eq_iff p hp q hq).trans (same p hp q hq) }

end Divides

/-- **Runs of a sequence in order divide it** into its classes of level positions. -/
theorem InOrder.divides {size : Nat} {order : Nat → Nat → Ordering} (h : InOrder size order) :
    (ofSame size (level order)).Divides size fun p q => order p q = .eq where
  nonempty run hrun := by
    obtain ⟨p, hp, hindex⟩ := (numbers_indexOf size (level order)).onto run hrun
    have inside := (Runs.mem_span_iff hp).mpr hindex
    exact Nat.lt_of_le_of_lt inside.1 inside.2
  consecutive run := stop_span _ run
  covers := by rw [flatMap_positions, startOf_count]
  past run hrun := by
    -- behind the last run everything starts at the end
    have none {run : Nat} (hrun : (ofSame size (level order)).count ≤ run) :
        (ofSame size (level order)).startOf run = size := by
      rw [startOf, Array.getElem?_eq_none hrun, Option.getD_none]
      rfl
    rw [span, none hrun, none (Nat.le_succ_of_le hrun)]
  count_eq_zero_iff := by
    constructor
    · intro hcount
      have last := startOf_count size (level order)
      rwa [hcount, startOf_zero, eq_comm] at last
    · rintro rfl
      rfl
  indexOf_lt p hp := (numbers_indexOf size (level order)).lt p hp
  mem_span_iff p hp run := Runs.mem_span_iff hp
  indexOf_mono p q hpq hq :=
    (h.indexOf_le_iff (Nat.lt_of_le_of_lt hpq hq) hq).mpr (h.le p q hpq hq)
  indexOf_eq_iff p hp q hq := h.indexOf_eq_iff hp hq

end Runs

/-! ### Sorted views -/

/-- A direction does not matter for what is level. -/
theorem Cell.orderAlong_eq_eq_iff (ascending : Bool) (a b : Cell) :
    orderAlong ascending a b = .eq ↔ order a b = .eq := by
  cases ascending
  · simp [orderAlong]
  · rfl

/-- Rows tie when their cells are level in the column of every key. -/
theorem Table.ties_iff {t : Table} {sortKeys : List SortKey} {r r' : Nat} :
    t.Ties sortKeys r r' ↔
      ∀ key ∈ sortKeys, Cell.order (t.cell key.column r) (t.cell key.column r') = .eq := by
  simp only [Ties, keyOrder, Cell.orderAlong_eq_eq_iff]

namespace View.SortedBy

variable {v : View} {sources : List Source} (h : v.SortedBy sources)
include h

/-- Where every source orders rows, the first one orders the first keys. -/
theorem ordersPeers (hsources : ∀ s ∈ sources, s.OrdersRows) : v.OrdersPeers := by
  obtain ⟨-, -, s, rest, -, hs⟩ := h.exists_first
  intro i j k hi hj hk
  rw [h.orderValueAt_eq hs hi, h.orderValueAt_eq hs hj, h.orderValueAt_eq hs hk]
  exact hsources s (hs ▸ List.mem_cons_self) _ _ _

theorem divides_peers (hpeers : v.OrdersPeers) : v.peers.Divides v.size fun i j =>
    Cell.order (v.orderValueAt i) (v.orderValueAt j) = .eq := by
  rw [h.peers_eq]
  exact (h.inOrder_peerOrder hpeers).divides.congr fun i _ j _ => Cell.orderAlong_eq_eq_iff _ _ _

theorem divides_ties (hsources : ∀ s ∈ sources, s.OrdersRows) : v.ties.Divides v.size fun i j =>
    v.partition.table.Ties v.sortKeys (v.rowAt i) (v.rowAt j) := by
  rw [h.ties_eq]
  refine (h.inOrder_tieOrder hsources).divides.congr fun i hi j hj => ?_
  rw [h.tieOrder_eq_rowOrder hi hj, Table.rowOrder_eq_eq_iff]

/-- Rows that tie agree on the first key. -/
theorem order_orderValueAt_eq {i j : Nat} (hi : i < v.size) (hj : j < v.size)
    (hties : v.partition.table.Ties v.sortKeys (v.rowAt i) (v.rowAt j)) :
    Cell.order (v.orderValueAt i) (v.orderValueAt j) = .eq := by
  obtain ⟨key, keys, -, -, hkeys, -⟩ := h.exists_first
  rw [h.orderValueAt_eq_cell hkeys hi, h.orderValueAt_eq_cell hkeys hj]
  exact Table.ties_iff.mp hties key (hkeys ▸ List.mem_cons_self)

end View.SortedBy

/-- In order of arrival all positions are level. -/
theorem View.divides_arrivalView (p : Partition) :
    (Runs.single p.size).Divides p.arrivalView.size fun _ _ => True := by
  have size : p.arrivalView.size = p.size := Array.size_range
  have level : Runs.InOrder p.size fun _ _ => .eq :=
    ⟨fun _ _ => rfl, fun _ _ _ _ _ _ _ _ => rfl, fun _ _ _ _ => rfl⟩
  rw [Runs.single_eq_ofSame, size]
  exact level.divides.congr fun _ _ _ _ => iff_of_true rfl trivial

/-- **Peers and ties divide the positions.** Peers are the positions whose first keys are level, and
ties those whose keys are all level, in a view by any keys whose columns order their cells and in a
view by none. All ties of a position are among its peers. -/
theorem Partition.sort_divides {p : Partition} {sortKeys : List SortKey}
    (h : p.table.Orders sortKeys) (threshold : Nat) :
    ∃ v : View, p.sort sortKeys threshold = .ok v ∧ v.size = p.size ∧
      (v.peers.Divides v.size fun i j =>
        Cell.order (v.orderValueAt i) (v.orderValueAt j) = .eq) ∧
      (v.ties.Divides v.size fun i j => ∀ key ∈ sortKeys,
        Cell.order (p.table.cell key.column (v.rowAt i))
          (p.table.cell key.column (v.rowAt j)) = .eq) ∧
      ∀ run < v.ties.count, ∃ run' < v.peers.count,
        ∀ q ∈ v.ties.span run, q ∈ v.peers.span run' := by
  by_cases hkeys : sortKeys = []
  · subst hkeys
    have level := View.divides_arrivalView p
    refine ⟨p.arrivalView, rfl, Array.size_range, level.congr fun i _ j _ => ?_,
      level.congr fun i _ j _ => by simp, fun run hrun => ⟨run, hrun, fun q hq => hq⟩⟩
    exact iff_of_true trivial (Cell.order_self .null)
  · obtain ⟨sources, hsources, orders⟩ := h.exists_columnsOf
    obtain ⟨v, hsort, rfl, rfl, hv⟩ := p.exists_sort hkeys hsources threshold
    have peers := hv.divides_peers (hv.ordersPeers orders)
    have ties := hv.divides_ties orders
    refine ⟨v, hsort, hv.complete.size_eq, peers, ties.congr fun _ _ _ _ => Table.ties_iff, ?_⟩
    exact fun run => ties.exists_span peers fun i hi j hj => hv.order_orderValueAt_eq hi hj

/-- Deliveries by zone and day, with one that has no zone yet. -/
private def deliveries : List Column :=
  [⟨"zone", .int64 #[some 2, none, some 2, some 1]⟩,
    ⟨"day", .text #[some "Tue", some "Mon", some "Mon", some "Mon"]⟩]

private def deliveryTable : Table := ⟨deliveries.map .typed, [("day", 1), ("zone", 0)]⟩

/-- Two deliveries of one zone tie on the same day only. A row may be listed twice. -/
theorem Partition.sort_divides_deliveries :
    deliveryTable.Orders [⟨"zone", false⟩, ⟨"day", true⟩] ∧
    ∃ v : View, sort ⟨deliveryTable, #[2, 0, 3, 2, 9]⟩ [⟨"zone", false⟩, ⟨"day", true⟩] 3 = .ok v ∧
      v.size = 5 ∧ ∀ i < 5, ∀ j < 5, v.rowAt i = 2 →
        (v.rowAt j = 2 → v.ties.indexOf i = v.ties.indexOf j) ∧
        (v.rowAt j = 0 → v.ties.indexOf i ≠ v.ties.indexOf j) := by
  have orders : deliveryTable.Orders [⟨"zone", false⟩, ⟨"day", true⟩] := by
    refine List.forall_mem_cons.mpr ⟨⟨_, rfl, Source.ordersCells_typed _⟩, ?_⟩
    exact List.forall_mem_cons.mpr ⟨⟨_, rfl, Source.ordersCells_typed _⟩, by simp⟩
  obtain ⟨v, hsort, hsize, -, ties, -⟩ :=
    sort_divides (p := ⟨deliveryTable, #[2, 0, 3, 2, 9]⟩) orders 3
  refine ⟨orders, v, hsort, hsize, fun i hi j hj hrow => ⟨fun hsame => ?_, fun hother htie => ?_⟩⟩
  · rw [ties.indexOf_eq_iff i (hsize ▸ hi) j (hsize ▸ hj), hrow, hsame]
    simp
  · rw [ties.indexOf_eq_iff i (hsize ▸ hi) j (hsize ▸ hj), hrow, hother] at htie
    exact absurd (htie ⟨"day", true⟩ (by simp)) (by decide)

end WindowQuery
