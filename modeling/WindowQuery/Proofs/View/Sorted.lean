import WindowQuery.Proofs.Cell.Preorder
import WindowQuery.Proofs.Sort.Stable
import WindowQuery.Proofs.Steps
import WindowQuery.Proofs.View.Complete
import WindowQuery.Proofs.View.Runs

/-!
# Ordered views

What `Partition.viewBy` puts into a view, said through rows: the slots are those of the partition
in another order, the keys are the tuples of the rows at their positions, and peers and ties are
the runs of positions that are level in the order of first keys and of all keys.

Two orders of positions are in play. `View.peerOrder` compares first keys. Positions are in that
order as soon as comparison is a total preorder of the first keys (`inOrder_peerOrder`), whatever
the other keys are. `View.tieOrder` compares all keys, and positions are in that order, with the
slots of level positions ascending, when every source orders rows (`precedes_slotAt`).
-/

namespace WindowQuery

/-! ### Orders of positions -/

namespace View

/-- The order of two positions by their first keys. -/
def peerOrder (v : View) (i j : Nat) : Ordering := v.order (v.orderValueAt i) (v.orderValueAt j)

/-- The order of two positions by all keys. -/
def tieOrder (v : View) (i j : Nat) : Ordering :=
  slotOrder (v.sortKeys.map SortKey.ascending) v.keys i j

/-- Comparison is a total preorder of the first keys in the view. -/
def OrdersPeers (v : View) : Prop :=
  ∀ i j k, i < v.size → j < v.size → k < v.size →
    (Cell.order (v.orderValueAt i) (v.orderValueAt j)).isLE = true →
    (Cell.order (v.orderValueAt j) (v.orderValueAt k)).isLE = true →
    (Cell.order (v.orderValueAt i) (v.orderValueAt k)).isLE = true

theorem ordersPeers_of_hasKind {v : View} {kind : Kind}
    (h : ∀ i, i < v.size → (v.orderValueAt i).hasKind kind = true) : v.OrdersPeers :=
  fun i j k hi hj hk => Cell.order_isLE_trans_of_hasKind (h i hi) (h j hj) (h k hk)

theorem order_swap (v : View) (a b : Cell) : (v.order a b).swap = v.order b a :=
  Cell.orderAlong_swap v.isAscending a b

theorem peerOrder_swap (v : View) (i j : Nat) : (v.peerOrder i j).swap = v.peerOrder j i :=
  v.order_swap _ _

/-- The first keys are totally preordered along either direction. -/
theorem OrdersPeers.trans {v : View} (h : v.OrdersPeers) {i j k : Nat} (hi : i < v.size)
    (hj : j < v.size) (hk : k < v.size) (hij : (v.peerOrder i j).isLE = true)
    (hjk : (v.peerOrder j k).isLE = true) : (v.peerOrder i k).isLE = true :=
  Cell.orderAlong_isLE_trans v.isAscending (h i j k hi hj hk) (h k j i hk hj hi) hij hjk

/-! ### Views built by sorting -/

/-- The view **sorts** its partition by the sources of its keys, of which there is at least one. -/
structure SortedBy (v : View) (sources : List Source) : Prop where
  columns : v.partition.table.columnsOf (v.sortKeys.map SortKey.column) = .ok sources
  keyed : v.sortKeys ≠ []
  built : ∃ threshold, v = v.partition.viewBy v.sortKeys sources threshold

end View

/-- A sort gives the view in order of arrival when there are no keys, and else a view that sorts
the partition by its keys. -/
theorem Partition.sort_eq_ok {p : Partition} {sortKeys : List SortKey} {threshold : Nat} {v : View}
    (h : p.sort sortKeys threshold = .ok v) :
    v.partition = p ∧ v.sortKeys = sortKeys ∧
      (sortKeys = [] ∧ v = p.arrivalView ∨ ∃ sources, v.SortedBy sources) := by
  unfold sort at h
  cases sortKeys with
  | nil =>
    cases h
    exact ⟨rfl, rfl, .inl ⟨rfl, rfl⟩⟩
  | cons key rest =>
    obtain ⟨sources, hs, hv⟩ := bind_eq_ok.mp h
    cases hv
    exact ⟨rfl, rfl, .inr ⟨sources, hs, List.cons_ne_nil _ _, threshold, rfl⟩⟩

section

variable (p : Partition) {sortKeys : List SortKey} (hkeys : sortKeys ≠ []) {sources : List Source}
  (hsources : p.table.columnsOf (sortKeys.map SortKey.column) = .ok sources) (threshold : Nat)
include hkeys hsources

theorem Partition.sort_eq_viewBy :
    p.sort sortKeys threshold = .ok (p.viewBy sortKeys sources threshold) := by
  rw [sort, if_neg (by simpa using hkeys)]
  exact bind_eq_ok.mpr ⟨sources, hsources, rfl⟩

theorem Partition.sortedBy_viewBy : (p.viewBy sortKeys sources threshold).SortedBy sources :=
  ⟨hsources, hkeys, threshold, rfl⟩

/-- A partition can be sorted by columns that exist. -/
theorem Partition.exists_sort :
    ∃ v, p.sort sortKeys threshold = .ok v ∧ v.partition = p ∧ v.sortKeys = sortKeys ∧
      v.SortedBy sources :=
  ⟨p.viewBy sortKeys sources threshold, p.sort_eq_viewBy hkeys hsources threshold, rfl, rfl,
    p.sortedBy_viewBy hkeys hsources threshold⟩

end

/-- The order of two slots is that of the tuples of their rows. -/
theorem View.slotOrder_eq (v : View) (sources : List Source) {a b : Nat} (ha : a < v.partition.size)
    (hb : b < v.partition.size) :
    slotOrder (v.sortKeys.map SortKey.ascending) (v.partition.keyTuples sources) a b =
      Cell.orderTuples (v.sortKeys.map SortKey.ascending)
        (Source.tuple sources (v.partition.rowOfSlot a))
        (Source.tuple sources (v.partition.rowOfSlot b)) := by
  have tuple {slot : Nat} (hslot : slot < v.partition.rows.size) :
      (v.partition.keyTuples sources)[slot]?.getD [] =
        Source.tuple sources (v.partition.rowOfSlot slot) := by
    simp [Partition.keyTuples, Partition.rowOfSlot, hslot]
  rw [slotOrder, tuple ha, tuple hb]

namespace View.SortedBy

variable {v : View} {sources : List Source} (h : v.SortedBy sources) {i j q : Nat}
include h

/-- The slots are sorted by the key tuples, under some threshold. -/
theorem slots_eq : ∃ threshold, v.slots.toList =
    sortedSlots (slotOrder (v.sortKeys.map SortKey.ascending) (v.partition.keyTuples sources))
      v.partition.size threshold := by
  obtain ⟨threshold, hv⟩ := h.built
  refine ⟨threshold, ?_⟩
  rw [congrArg View.slots hv]
  rfl

theorem complete : v.Complete := by
  obtain ⟨threshold, hslots⟩ := h.slots_eq
  rw [Complete, hslots]
  exact sortedSlots_perm _ _ _

/-- The key of a position is the tuple of its row. -/
theorem getElem?_keys (hq : q < v.size) :
    v.keys[q]? = some (Source.tuple sources (v.rowAt q)) := by
  obtain ⟨threshold, hv⟩ := h.built
  have hkeys : v.keys = v.slots.map fun slot => (v.partition.keyTuples sources)[slot]?.getD [] := by
    rw [congrArg View.keys hv, congrArg View.slots hv]
    rfl
  have hslot : v.slotAt q < v.partition.rows.size := h.complete.slotAt_lt hq
  rw [hkeys, Array.getElem?_map, getElem?_slots hq]
  simp [Partition.keyTuples, rowAt, Partition.rowOfSlot, hslot]

/-- There is a source for every key. -/
theorem length_sources : sources.length = v.sortKeys.length := by
  have length := (mapM_eq_ok.mp h.columns).length_eq
  rw [List.length_map] at length
  exact length.symm

/-- The first key and its source. -/
theorem exists_first : ∃ key keys s rest, v.sortKeys = key :: keys ∧ sources = s :: rest := by
  obtain ⟨key, keys, hkeys⟩ := List.exists_cons_of_ne_nil h.keyed
  have length := h.length_sources
  rw [hkeys] at length
  obtain ⟨s, rest, hsources⟩ := List.exists_cons_of_length_eq_add_one length
  exact ⟨key, keys, s, rest, hkeys, hsources⟩

/-- The order value of a position is the cell of its row in the first source. -/
theorem orderValueAt_eq {s : Source} {rest : List Source} (hs : sources = s :: rest)
    (hq : q < v.size) : v.orderValueAt q = s.cell (v.rowAt q) := by
  simp [orderValueAt, h.getElem?_keys hq, hs, Source.tuple]

/-- The order of two positions is that of the tuples of their rows. -/
theorem tieOrder_eq (hi : i < v.size) (hj : j < v.size) :
    v.tieOrder i j = Cell.orderTuples (v.sortKeys.map SortKey.ascending)
      (Source.tuple sources (v.rowAt i)) (Source.tuple sources (v.rowAt j)) := by
  simp [tieOrder, slotOrder, h.getElem?_keys hi, h.getElem?_keys hj]

/-- The first keys decide the order of slots unless they are level. -/
theorem slotOrder_eq_then {a b : Nat} (ha : a < v.partition.size) (hb : b < v.partition.size)
    {s : Source} {rest : List Source} (hs : sources = s :: rest) :
    ∃ o, slotOrder (v.sortKeys.map SortKey.ascending) (v.partition.keyTuples sources) a b =
      (v.order (s.cell (v.partition.rowOfSlot a)) (s.cell (v.partition.rowOfSlot b))).then o := by
  obtain ⟨key, keys, -, -, hkeys, -⟩ := h.exists_first
  rw [v.slotOrder_eq sources ha hb, hkeys, hs]
  have ascending : v.isAscending = key.ascending := by simp [isAscending, hkeys]
  rw [order, ascending]
  exact ⟨_, rfl⟩

/-- The first keys of the slots are in order, when comparison is a total preorder of those. -/
theorem pairwise_slots_order (hpeers : v.OrdersPeers) {s : Source} {rest : List Source}
    (hs : sources = s :: rest) :
    v.slots.toList.Pairwise fun a b => (v.order (s.cell (v.partition.rowOfSlot a))
      (s.cell (v.partition.rowOfSlot b))).isLE = true := by
  obtain ⟨threshold, hslots⟩ := h.slots_eq
  rw [hslots]
  refine pairwise_sortedSlots (fun a b c ha hb hc hab hbc => ?_) (fun a b hab hb => ?_) threshold
  · -- slots are compared as the positions that they have in the view
    obtain ⟨i, hi, rfl⟩ := h.complete.exists_slotAt_eq ha
    obtain ⟨j, hj, rfl⟩ := h.complete.exists_slotAt_eq hb
    obtain ⟨k, hk, rfl⟩ := h.complete.exists_slotAt_eq hc
    have value {q : Nat} (hq : q < v.size) :
        s.cell (v.partition.rowOfSlot (v.slotAt q)) = v.orderValueAt q :=
      (h.orderValueAt_eq hs hq).symm
    rw [value hi, value hj] at hab
    rw [value hj, value hk] at hbc
    rw [value hi, value hk]
    exact hpeers.trans hi hj hk hab hbc
  · obtain ⟨o, ho⟩ := h.slotOrder_eq_then (Nat.lt_trans hab hb) hb hs
    have swap := v.order_swap (s.cell (v.partition.rowOfSlot a)) (s.cell (v.partition.rowOfSlot b))
    rw [Decides, ho, ← swap]
    cases v.order (s.cell (v.partition.rowOfSlot a)) (s.cell (v.partition.rowOfSlot b)) <;> simp

/-- **Positions are in the order of their first keys**, when comparison is a total preorder of
those. Nothing is asked of the other keys. -/
theorem inOrder_peerOrder (hpeers : v.OrdersPeers) : Runs.InOrder v.size v.peerOrder := by
  obtain ⟨key, keys, s, rest, hkeys, hs⟩ := h.exists_first
  have sorted := h.pairwise_slots_order hpeers hs
  refine ⟨v.peerOrder_swap, fun i j k hi hj hk => hpeers.trans hi hj hk, fun i j hij hj => ?_⟩
  rcases Nat.lt_or_eq_of_le hij with hlt | rfl
  · have between := rel_slotAt sorted hlt hj
    rw [peerOrder, h.orderValueAt_eq hs (Nat.lt_trans hlt hj), h.orderValueAt_eq hs hj]
    exact between
  · simp [peerOrder, order, Cell.orderAlong]

/-- Peers are the runs of positions with level first keys. -/
theorem peers_eq : v.peers = Runs.ofSame v.size (Runs.level v.peerOrder) := by
  obtain ⟨threshold, hv⟩ := h.built
  obtain ⟨key, keys, s, rest, hkeys, hs⟩ := h.exists_first
  have built : v.peers = Runs.ofSame v.size fun a b =>
      slotOrder ((v.sortKeys.map SortKey.ascending).take 1) v.keys a b == .eq := by
    rw [congrArg View.peers hv, congrArg View.keys hv, congrArg View.size hv]
    rfl
  rw [built]
  refine Runs.ofSame_congr ?_
  intro i hi
  have hi' : i < v.size := Nat.lt_of_succ_lt hi
  have ascending : v.isAscending = key.ascending := by simp [isAscending, hkeys]
  rw [Runs.level, peerOrder, h.orderValueAt_eq hs hi', h.orderValueAt_eq hs hi, slotOrder,
    h.getElem?_keys hi', h.getElem?_keys hi, hkeys, hs, order, ascending]
  simp [Source.tuple, Cell.orderTuples]

/-- Ties are the runs of positions with level keys. -/
theorem ties_eq : v.ties = Runs.ofSame v.size (Runs.level v.tieOrder) := by
  obtain ⟨threshold, hv⟩ := h.built
  have order : v.tieOrder = slotOrder (v.sortKeys.map SortKey.ascending) v.keys := rfl
  rw [order, congrArg View.ties hv, congrArg View.keys hv, congrArg View.size hv]
  rfl

/-- **The slots are stably sorted** by the tuples of their rows, when every source orders rows. -/
theorem pairwise_slots_precedes (hsources : ∀ s ∈ sources, s.OrdersRows) :
    v.slots.toList.Pairwise (Precedes fun a b => Cell.orderTuples
      (v.sortKeys.map SortKey.ascending) (Source.tuple sources (v.partition.rowOfSlot a))
      (Source.tuple sources (v.partition.rowOfSlot b))) := by
  obtain ⟨threshold, hslots⟩ := h.slots_eq
  have rows := Source.transCmp_orderTuples hsources (v.sortKeys.map SortKey.ascending)
  have : Std.TransCmp fun a b => Cell.orderTuples (v.sortKeys.map SortKey.ascending)
      (Source.tuple sources (v.partition.rowOfSlot a))
      (Source.tuple sources (v.partition.rowOfSlot b)) :=
    { eq_swap := rows.eq_swap, isLE_trans := rows.isLE_trans }
  rw [hslots]
  exact pairwise_precedes v.partition.size (fun a b ha hb => v.slotOrder_eq sources ha hb) threshold

/-- **Positions are in the order of all their keys**, and the slots of level positions ascend, when
every source orders rows. -/
theorem precedes_slotAt (hsources : ∀ s ∈ sources, s.OrdersRows) (hij : i < j) (hj : j < v.size) :
    v.tieOrder i j = .lt ∨ v.tieOrder i j = .eq ∧ v.slotAt i < v.slotAt j := by
  rw [h.tieOrder_eq (Nat.lt_trans hij hj) hj]
  exact rel_slotAt (h.pairwise_slots_precedes hsources) hij hj

end View.SortedBy

/-- Every view that arranges a partition is complete. -/
theorem Partition.complete_of_sort {p : Partition} {sortKeys : List SortKey} {threshold : Nat}
    {v : View} (h : p.sort sortKeys threshold = .ok v) : v.Complete := by
  obtain ⟨-, -, ⟨-, rfl⟩ | ⟨sources, hv⟩⟩ := sort_eq_ok h
  · exact View.complete_arrivalView p
  · exact hv.complete

end WindowQuery
