import WindowQuery.Proofs.Function.Totals
import WindowQuery.Proofs.View.Counting
import WindowQuery.Proofs.View.Sorted

/-!
# Buckets of rows

`NTILE` finds the bucket of a position by division: by the greater size in front of the position
where the greater buckets end, by the smaller size behind it. Both divisions invert one function,
the position at which a bucket begins (`bucketStart_le_iff`), and what is to be said of buckets is
read off it: how many rows each of them takes is the distance from its beginning to the next.

The divisions are of natural numbers. In words of a limited size they come out the same, as no step
on the way leaves the words or divides by zero (`bucketWithin?_eq_some`).
-/

namespace WindowQuery

/-- A number for each of some rows **splits** the rows **evenly** into buckets that are counted from
one: the buckets follow each other, and the rows that are left when all have taken the same number
go to the first ones, one to each. -/
structure SplitsEvenly (buckets rows : Nat) (tile : Nat → Nat) : Prop where
  first : 0 < rows → tile 0 = 1
  mono : ∀ i j, i ≤ j → j < rows → tile i ≤ tile j
  bounds : ∀ i < rows, 1 ≤ tile i ∧ tile i ≤ min buckets rows
  size : ∀ k, 1 ≤ k → k ≤ buckets → (List.range rows).countP (fun i => tile i == k) =
    rows / buckets + if k ≤ rows % buckets then 1 else 0
  balanced : ∀ k k', 1 ≤ k → k ≤ buckets → 1 ≤ k' → k' ≤ buckets →
    (List.range rows).countP (fun i => tile i == k) ≤
      (List.range rows).countP (fun i => tile i == k') + 1

/-! ### Where buckets begin -/

/-- The position behind the first `k` buckets, where the next one **begins**. -/
def bucketStart (buckets rows k : Nat) : Nat := k * (rows / buckets) + min k (rows % buckets)

section

variable {buckets rows : Nat}

theorem bucketStart_zero : bucketStart buckets rows 0 = 0 := by
  rw [bucketStart, Nat.zero_mul, Nat.zero_min]

/-- All buckets together take all rows. -/
theorem bucketStart_self (hbuckets : 1 ≤ buckets) : bucketStart buckets rows buckets = rows := by
  have rest := Nat.mod_lt rows hbuckets
  rw [bucketStart, Nat.min_eq_right (Nat.le_of_lt rest), Nat.div_add_mod]

theorem bucketStart_succ (k : Nat) : bucketStart buckets rows (k + 1) =
    bucketStart buckets rows k + (rows / buckets + if k + 1 ≤ rows % buckets then 1 else 0) := by
  rw [bucketStart, bucketStart, Nat.succ_mul]
  split <;> omega

theorem bucketStart_mono {k k' : Nat} (hk : k ≤ k') :
    bucketStart buckets rows k ≤ bucketStart buckets rows k' := by
  have bases := Nat.mul_le_mul_right (rows / buckets) hk
  rw [bucketStart, bucketStart]
  omega

/-- As long as there are rows, each bucket takes one at least. -/
theorem le_bucketStart {k : Nat} (hbuckets : 1 ≤ buckets) (hk : k ≤ rows) :
    k ≤ bucketStart buckets rows k := by
  rw [bucketStart]
  cases hbase : rows / buckets with
  | zero =>
    have few := Nat.lt_of_div_eq_zero hbuckets hbase
    rw [Nat.mod_eq_of_lt few, Nat.mul_zero]
    omega
  | succ base => exact Nat.le_add_right_of_le (Nat.le_mul_of_pos_right k (Nat.succ_pos base))

end

/-- **The bucket of a position** is the number of buckets that begin up to there. -/
theorem bucketStart_le_iff {buckets rows p : Nat} (hbuckets : 1 ≤ buckets) (hp : p < rows)
    (k : Nat) : bucketStart buckets rows k ≤ p ↔ k < bucketOf buckets rows p := by
  have split := Nat.div_add_mod rows buckets
  have rest := Nat.mod_lt rows hbuckets
  rw [bucketStart, bucketOf]
  generalize rows / buckets = base at *
  generalize rows % buckets = extra at *
  have greater : extra * (base + 1) = extra * base + extra := Nat.mul_succ extra base
  split_ifs with hlarge
  · -- in front, division by the greater size counts the beginnings
    rw [Nat.lt_succ_iff, Nat.le_div_iff_mul_le (Nat.succ_pos base), Nat.mul_succ]
    rcases Nat.le_total k extra with hk | hk
    · rw [Nat.min_eq_left hk]
    · have := Nat.mul_le_mul_right base hk
      omega
  · -- behind, the smaller size is not zero, or the greater buckets would have taken all rows
    have hbase : 0 < base := by
      refine Nat.pos_of_ne_zero fun hzero => hlarge ?_
      rw [hzero, Nat.mul_zero] at split
      omega
    rw [Nat.lt_succ_iff]
    rcases Nat.le_total k extra with hk | hk
    · have := Nat.mul_le_mul_right base hk
      have := Nat.zero_le ((p - extra * (base + 1)) / base)
      omega
    · obtain ⟨d, rfl⟩ := Nat.exists_eq_add_of_le hk
      rw [Nat.add_le_add_iff_left, Nat.le_div_iff_mul_le hbase, Nat.min_eq_right hk, Nat.add_mul]
      omega

section

variable {buckets rows : Nat} (hbuckets : 1 ≤ buckets)
include hbuckets

theorem one_le_bucketOf {p : Nat} (hp : p < rows) : 1 ≤ bucketOf buckets rows p :=
  (bucketStart_le_iff hbuckets hp 0).mp (by rw [bucketStart_zero]; exact Nat.zero_le p)

/-- A position has no greater bucket than if each took one row. -/
theorem bucketOf_le_succ {p : Nat} (hp : p < rows) : bucketOf buckets rows p ≤ p + 1 :=
  Nat.le_of_not_lt fun h => Nat.not_le_of_lt (le_bucketStart hbuckets hp)
    ((bucketStart_le_iff hbuckets hp (p + 1)).mpr h)

theorem bucketOf_le {p : Nat} (hp : p < rows) : bucketOf buckets rows p ≤ buckets := by
  refine Nat.le_of_not_lt fun h => Nat.not_le_of_lt hp ?_
  have start := (bucketStart_le_iff hbuckets hp buckets).mpr h
  rwa [bucketStart_self hbuckets] at start

/-- A bucket takes the rows from its beginning to the next one. -/
theorem countP_bucketOf {k : Nat} (hk : k + 1 ≤ buckets) :
    (List.range rows).countP (fun i => bucketOf buckets rows i == k + 1) =
      rows / buckets + if k + 1 ≤ rows % buckets then 1 else 0 := by
  have stop : bucketStart buckets rows (k + 1) ≤ rows :=
    (bucketStart_mono hk).trans (Nat.le_of_eq (bucketStart_self hbuckets))
  have start : bucketStart buckets rows k ≤ rows := (bucketStart_mono (Nat.le_succ k)).trans stop
  have parts : (List.range rows).countP (fun i => decide (i < bucketStart buckets rows (k + 1))) =
      (List.range rows).countP (fun i => decide (i < bucketStart buckets rows k)) +
        (List.range rows).countP (fun i => bucketOf buckets rows i == k + 1) := by
    refine countP_eq_add (fun i hi => ?_) fun i hi before => ?_
    · have here := bucketStart_le_iff hbuckets (List.mem_range.mp hi) k
      have next := bucketStart_le_iff hbuckets (List.mem_range.mp hi) (k + 1)
      rw [Bool.eq_iff_iff, Bool.or_eq_true, decide_eq_true_eq, decide_eq_true_eq, beq_iff_eq]
      omega
    · have here := bucketStart_le_iff hbuckets (List.mem_range.mp hi) k
      rw [decide_eq_true_eq] at before
      rw [beq_eq_false_iff_ne]
      omega
  rw [countP_lt_range stop, countP_lt_range start, bucketStart_succ] at parts
  exact (Nat.add_left_cancel parts).symm

/-- **Buckets split rows evenly.** -/
theorem splitsEvenly_bucketOf : SplitsEvenly buckets rows (bucketOf buckets rows) := by
  have begins {p : Nat} (hp : p < rows) := bucketStart_le_iff hbuckets hp
  have size (k : Nat) (hk : 1 ≤ k) (hk' : k ≤ buckets) :
      (List.range rows).countP (fun i => bucketOf buckets rows i == k) =
        rows / buckets + if k ≤ rows % buckets then 1 else 0 := by
    obtain ⟨k, rfl⟩ := Nat.exists_eq_add_of_le' hk
    exact countP_bucketOf hbuckets hk'
  refine ⟨fun hrows => Nat.le_antisymm (bucketOf_le_succ hbuckets hrows)
      (one_le_bucketOf hbuckets hrows), fun i j hij hj => ?_, fun i hi =>
      ⟨one_le_bucketOf hbuckets hi, Nat.le_min.mpr
        ⟨bucketOf_le hbuckets hi, (bucketOf_le_succ hbuckets hi).trans hi⟩⟩,
    size, fun k k' hk hk' hk₁ hk₁' => ?_⟩
  · refine Nat.le_of_not_lt fun h => Nat.lt_irrefl (bucketOf buckets rows j) ?_
    exact (begins hj _).mp (((begins (by omega) _).mpr h).trans hij)
  · rw [size k hk hk', size k' hk₁ hk₁']
    split_ifs <;> omega

end

/-! ### Words -/

/-- A number, if it is within the words. -/
def word? (largest n : Nat) : Option Nat := if n ≤ largest then some n else none

/-- A difference, if it is not negative. -/
def minus? (a b : Nat) : Option Nat := if b ≤ a then some (a - b) else none

/-- A quotient, unless it is by zero. -/
def quotient? (a b : Nat) : Option Nat := if b = 0 then none else some (a / b)

/-- A remainder, unless it is by zero. -/
def remainder? (a b : Nat) : Option Nat := if b = 0 then none else some (a % b)

/-- The bucket of a position, computed in **words** up to a largest one. -/
def bucketWithin? (largest buckets rows p : Nat) : Option Nat := do
  let base ← quotient? rows buckets
  let extra ← remainder? rows buckets
  let greater ← word? largest (base + 1)
  let large ← word? largest (extra * greater)
  if p < large then
    let place ← quotient? p greater
    word? largest (place + 1)
  else
    let behind ← minus? p large
    let place ← quotient? behind base
    let place ← word? largest (extra + place)
    word? largest (place + 1)

/-- **No step leaves the words** that can count the rows. With a single bucket they must count one
row more, as the size of a greater bucket is computed although there is none. -/
theorem bucketWithin?_eq_some {largest buckets rows p : Nat} (hbuckets : 1 ≤ buckets)
    (hrows : rows ≤ largest) (hsingle : buckets = 1 → rows < largest) (hp : p < rows) :
    bucketWithin? largest buckets rows p = some (bucketOf buckets rows p) := by
  have split := Nat.div_add_mod rows buckets
  have rest := Nat.mod_lt rows hbuckets
  have result := (bucketOf_le_succ hbuckets hp).trans (Nat.le_trans hp hrows)
  -- the size of a greater bucket is a word, also where there is a single bucket
  have base : rows / buckets < largest := by
    rcases Nat.eq_or_lt_of_le hbuckets with hone | hmore
    · exact Nat.lt_of_le_of_lt (Nat.div_le_self rows buckets) (hsingle hone.symm)
    · exact Nat.lt_of_lt_of_le (Nat.div_lt_self (Nat.zero_lt_of_lt hp) hmore) hrows
  have large : rows % buckets * (rows / buckets + 1) ≤ rows := by
    have := Nat.mul_le_mul_right (rows / buckets) (Nat.le_of_lt rest)
    rw [Nat.mul_succ]
    omega
  have step₁ : quotient? rows buckets = some (rows / buckets) := if_neg (by omega)
  have step₂ : remainder? rows buckets = some (rows % buckets) := if_neg (by omega)
  have step₃ : word? largest (rows / buckets + 1) = some (rows / buckets + 1) := if_pos base
  have step₄ : word? largest (rows % buckets * (rows / buckets + 1)) =
      some (rows % buckets * (rows / buckets + 1)) := if_pos (large.trans hrows)
  simp only [bucketWithin?, step₁, step₂, step₃, step₄, Option.bind_eq_bind, Option.bind_some]
  rw [bucketOf] at result ⊢
  -- the steps so far are shared; what is left depends on where the position lies
  split_ifs at result ⊢ with hlarge
  · have step₅ : quotient? p (rows / buckets + 1) = some (p / (rows / buckets + 1)) :=
      if_neg (Nat.succ_ne_zero _)
    rw [step₅, Option.bind_some]
    exact if_pos result
  · have hbase : rows / buckets ≠ 0 := by
      intro hzero
      rw [hzero] at split hlarge
      omega
    have step₅ : minus? p (rows % buckets * (rows / buckets + 1)) =
        some (p - rows % buckets * (rows / buckets + 1)) := if_pos (by omega)
    rw [step₅, Option.bind_some, quotient?, if_neg hbase, Option.bind_some, word?,
      if_pos (by omega), Option.bind_some]
    exact if_pos result

/-- **Tiles.** In the view of any sort, every slot has a position, and `NTILE` leaves there the
bucket of the position, a number that can be read back. The buckets split the rows evenly, however
many they are, and no step on the way to them leaves the words that can count the rows. The one row
more that a single bucket asks for can always be counted: a view keeps its slots in memory, and a
slot takes more of it than a byte. -/
theorem Partition.sort_tiles {p : Partition} {sortKeys : List SortKey} {threshold : Nat} {v : View}
    (hsort : p.sort sortKeys threshold = .ok v) {buckets : Nat} (hbuckets : 1 ≤ buckets)
    (f : Frame) :
    SplitsEvenly buckets v.size (bucketOf buckets v.size) ∧
    (∃ c, (Function.ntile buckets).compute v f = .ok c ∧ c.kind = .int64 ∧ c.size = p.size ∧
      (∀ i < v.size, c.cell (v.slotAt i) = .int (Int64.ofNat (bucketOf buckets v.size i))) ∧
      ∀ slot < p.size, ∃ i < v.size, v.slotAt i = slot) ∧
    (min buckets v.size < 2 ^ 63 → ∀ i < v.size,
      (Int64.ofNat (bucketOf buckets v.size i)).toInt = bucketOf buckets v.size i) ∧
    ∀ largest, v.size ≤ largest → (buckets = 1 → v.size < largest) → ∀ i < v.size,
      bucketWithin? largest buckets v.size i = some (bucketOf buckets v.size i) := by
  have hv := complete_of_sort hsort
  obtain ⟨rfl, -, -⟩ := sort_eq_ok hsort
  have even : SplitsEvenly buckets v.size (bucketOf buckets v.size) :=
    splitsEvenly_bucketOf hbuckets
  have computed : (Function.ntile buckets).compute v f = .ok ⟨"ntile", .int64 (v.layout
      (v.positions.map fun i => Int64.ofNat (bucketOf buckets v.size i)))⟩ := by
    obtain ⟨buckets, rfl⟩ := Nat.exists_eq_add_of_le' hbuckets
    rfl
  refine ⟨even, ⟨_, computed, rfl, (View.size_layout _ _).trans hv.size_eq, fun i hi => ?_,
    fun slot hslot => hv.exists_slotAt_eq hslot⟩, fun hfew i hi => ?_,
    fun largest hlargest hsingle i hi => bucketWithin?_eq_some hbuckets hlargest hsingle hi⟩
  · exact View.cell_layout hv (View.getElem?_map_positions hi _) (by simp [View.positions])
  · exact Int64.toInt_ofNat_of_lt (Nat.lt_of_le_of_lt (even.bounds i hi).2 hfew)

/-- Runners of a race and their times, one of which was not taken. -/
private def runnerTimes : Column := ⟨"time", .int64 #[some 61, some 55, none, some 58]⟩

private def runners : Partition := ⟨⟨[.typed runnerTimes], [("time", 0)]⟩, #[0, 1, 2, 3]⟩

/-- The runners from the fastest to the slowest, the one without a time in front. -/
private def runnersView : View := runners.viewBy [⟨"time", true⟩] [.typed runnerTimes] 9

private theorem runnersView_slots : runnersView.size = 4 ∧ runnersView.slotAt 0 = 2 ∧
    runnersView.slotAt 1 = 1 ∧ runnersView.slotAt 3 = 0 := by
  cbv

/-- Of three heats the first one takes two runners. Of five, each runner runs one alone, and the
last is left empty. -/
theorem Partition.sort_tiles_runners :
    runners.sort [⟨"time", true⟩] 9 = .ok runnersView ∧
      (∃ c, (Function.ntile 3).compute runnersView .running = .ok c ∧ c.cell 2 = .int 1 ∧
        c.cell 1 = .int 1 ∧ c.cell 0 = .int 3) ∧
      (List.range 4).countP (fun i => bucketOf 5 4 i == 5) = 0 ∧
      bucketWithin? 4 5 4 3 = some 4 := by
  have hsort : runners.sort [⟨"time", true⟩] 9 = .ok runnersView := rfl
  obtain ⟨hsize, slot0, slot1, slot3⟩ := runnersView_slots
  obtain ⟨-, ⟨c, hc, -, -, cells, -⟩, -⟩ :=
    sort_tiles hsort (show 1 ≤ 3 by decide) .running
  obtain ⟨even, -, -, words⟩ := sort_tiles hsort (show 1 ≤ 5 by decide) .running
  rw [hsize] at cells even words
  have first := cells 0 (by decide)
  have second := cells 1 (by decide)
  have last := cells 3 (by decide)
  rw [slot0] at first
  rw [slot1] at second
  rw [slot3] at last
  exact ⟨hsort, ⟨c, hc, first, second, last⟩, even.size 5 (by decide) (by decide),
    words 4 (by decide) (by decide) 3 (by decide)⟩

end WindowQuery
