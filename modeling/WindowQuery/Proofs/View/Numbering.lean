import Mathlib.Data.List.Nodup
import Mathlib.Tactic.ByContra
import Mathlib.Tactic.Choose
import WindowQuery.Proofs.View.Runs

/-!
# Numbers of runs

Runs are numbered from zero on and without gaps (`Runs.numbers_indexOf`). Numbers that are given
out in this way are determined by their order (`Numbers.unique`): however the positions of a
sequence in order are **rearranged**, each keeps the number of its run, and when the order is
reversed as well, the numbers count from the other end.
-/

namespace WindowQuery

/-! ### Numbers without gaps -/

/-- The positions below `size` are given the **numbers** below `count`, each at least once. -/
structure Numbers (size count : Nat) (f : Nat → Nat) : Prop where
  lt : ∀ i < size, f i < count
  onto : ∀ n < count, ∃ i < size, f i = n

/-- The positions below `size` in another order. -/
structure Rearranges (size : Nat) (π : Nat → Nat) : Prop where
  lt : ∀ i < size, π i < size
  inj : ∀ i < size, ∀ j < size, π i = π j → i = j
  onto : ∀ i < size, ∃ j < size, π j = i

namespace Rearranges

variable {size : Nat}

/-- Two sequences of the same different elements are rearranged into each other. -/
theorem exists_of_image {α : Type} {a b : Nat → α}
    (ha : ∀ i < size, ∀ j < size, a i = a j → i = j)
    (hb : ∀ i < size, ∀ j < size, b i = b j → i = j)
    (image : ∀ x, (∃ i < size, a i = x) ↔ ∃ i < size, b i = x) :
    ∃ π, Rearranges size π ∧ ∀ i < size, b (π i) = a i := by
  have target : ∀ i, i < size → ∃ j < size, b j = a i :=
    fun i hi => (image (a i)).mp ⟨i, hi, rfl⟩
  choose! π hπ using target
  refine ⟨π, ⟨fun i hi => (hπ i hi).1, fun i hi j hj heq => ?_, fun j hj => ?_⟩,
    fun i hi => (hπ i hi).2⟩
  · refine ha i hi j hj ?_
    rw [← (hπ i hi).2, ← (hπ j hj).2, heq]
  · obtain ⟨i, hi, hij⟩ := (image (b j)).mpr ⟨j, hj, rfl⟩
    refine ⟨i, hi, hb _ (hπ i hi).1 j hj ?_⟩
    rw [(hπ i hi).2, hij]

variable {π : Nat → Nat} (hπ : Rearranges size π)
include hπ

/-- Positions that are rearranged into each other are the same ones. -/
theorem map_perm {xs ys : List Nat} (hxs : xs.Nodup) (hys : ys.Nodup)
    (xs_lt : ∀ q ∈ xs, q < size) (ys_lt : ∀ q ∈ ys, q < size)
    (members : ∀ q < size, q ∈ xs ↔ π q ∈ ys) : (xs.map π).Perm ys := by
  have nodup : (xs.map π).Nodup :=
    hxs.map_on fun i hi j hj heq => hπ.inj i (xs_lt i hi) j (xs_lt j hj) heq
  rw [List.perm_ext_iff_of_nodup nodup hys]
  intro q
  rw [List.mem_map]
  constructor
  · rintro ⟨i, hi, rfl⟩
    exact (members i (xs_lt i hi)).mp hi
  · intro hq
    obtain ⟨i, hi, rfl⟩ := hπ.onto q (ys_lt q hq)
    exact ⟨i, (members i hi).mpr hq, rfl⟩

theorem map_range_perm : ((List.range size).map π).Perm (List.range size) := by
  refine hπ.map_perm List.nodup_range List.nodup_range (by simp) (by simp) ?_
  intro q hq
  simpa [hq] using hπ.lt q hq

end Rearranges

namespace Numbers

variable {size count count' : Nat} {f g : Nat → Nat} (hf : Numbers size count f)
include hf

/-- Numbers that are ordered alike are the same, the lesser ones first. -/
theorem eq_of_le_iff (hg : Numbers size count' g)
    (order : ∀ i < size, ∀ j < size, f i ≤ f j ↔ g i ≤ g j) : ∀ i < size, f i = g i := by
  suffices level : ∀ n, ∀ i < size, f i = n → g i = n from fun i hi => (level _ i hi rfl).symm
  intro n
  induction n using Nat.strongRecOn with
  | _ n ih =>
    intro i hi hfi
    have bound := hf.lt i hi
    have bound' := hg.lt i hi
    -- a number that one side leaves out below `i` would be given to another position there
    have lower : n ≤ g i := by
      by_contra hlt
      obtain ⟨j, hj, hfj⟩ := hf.onto (g i) (by omega)
      have hgj := ih (g i) (by omega) j hj hfj
      have := (order i hi j hj).mpr (Nat.le_of_eq hgj.symm)
      omega
    have upper : g i ≤ n := by
      by_contra hlt
      obtain ⟨j, hj, hgj⟩ := hg.onto n (by omega)
      have before := (order j hj i hi).mpr (by omega)
      rcases Nat.lt_or_eq_of_le before with hless | hlevel
      · have := ih (f j) (by omega) j hj rfl
        omega
      · have := (order i hi j hj).mp (by omega)
        omega
    omega

/-- **Numbers are determined by their order**, and so is how many there are. -/
theorem unique (hg : Numbers size count' g)
    (order : ∀ i < size, ∀ j < size, f i ≤ f j ↔ g i ≤ g j) :
    (∀ i < size, f i = g i) ∧ count = count' := by
  have same := hf.eq_of_le_iff hg order
  refine ⟨same, ?_⟩
  by_contra hne
  rcases Nat.lt_or_gt_of_ne hne with hlt | hlt
  · obtain ⟨i, hi, hgi⟩ := hg.onto count hlt
    have := hf.lt i hi
    rw [same i hi, hgi] at this
    omega
  · obtain ⟨i, hi, hfi⟩ := hf.onto count' hlt
    have := hg.lt i hi
    rw [← same i hi, hfi] at this
    omega

theorem comp {π : Nat → Nat} (hπ : Rearranges size π) : Numbers size count fun i => f (π i) where
  lt i hi := hf.lt _ (hπ.lt i hi)
  onto n hn := by
    obtain ⟨i, hi, rfl⟩ := hf.onto n hn
    obtain ⟨j, hj, rfl⟩ := hπ.onto i hi
    exact ⟨j, hj, rfl⟩

/-- Numbers counted from the other end. -/
theorem reverse : Numbers size count fun i => count - 1 - f i where
  lt i hi := by
    have := hf.lt i hi
    omega
  onto n hn := by
    obtain ⟨i, hi, hfi⟩ := hf.onto (count - 1 - n) (by omega)
    exact ⟨i, hi, by omega⟩

end Numbers

/-! ### Runs -/

namespace Runs

variable {size : Nat} {same : Nat → Nat → Bool} {p : Nat}

theorem count_ofSame (size : Nat) (same : Nat → Nat → Bool) :
    (ofSame size same).count = startsBelow same size := by
  simp [count, ofSame, startsBelow, List.countP_eq_length_filter]

/-- A position is in the run before it or starts the next one. -/
theorem indexOf_succ (hp : p + 1 < size) :
    (ofSame size same).indexOf (p + 1) =
      (ofSame size same).indexOf p + if startsAt same (p + 1) then 1 else 0 := by
  have pos := startsBelow_pos same p
  rw [indexOf_ofSame hp, indexOf_ofSame (Nat.lt_of_succ_lt hp), startsBelow_succ same (p + 1)]
  omega

/-- Every number up to that of a position is given to a position. -/
theorem exists_indexOf_eq_of_le (hp : p < size) {n : Nat} (hn : n ≤ (ofSame size same).indexOf p) :
    ∃ q < size, (ofSame size same).indexOf q = n := by
  induction p with
  | zero =>
    have first : (ofSame size same).indexOf 0 = 0 := by
      simp [indexOf_ofSame hp, startsBelow, startsAt]
    exact ⟨0, hp, by omega⟩
  | succ p ih =>
    by_cases hlast : n = (ofSame size same).indexOf (p + 1)
    · exact ⟨p + 1, hp, hlast.symm⟩
    · refine ih (Nat.lt_of_succ_lt hp) ?_
      rw [indexOf_succ hp] at hn hlast
      split at hn
      · rw [if_pos ‹_›] at hlast
        omega
      · exact hn

/-- **Runs are numbered without gaps.** -/
theorem numbers_indexOf (size : Nat) (same : Nat → Nat → Bool) :
    Numbers size (ofSame size same).count (ofSame size same).indexOf where
  lt i hi := by
    have pos := startsBelow_pos same i
    have mono := startsBelow_mono same (show i + 1 ≤ size from hi)
    rw [count_ofSame, indexOf_ofSame hi]
    omega
  onto n hn := by
    rw [count_ofSame] at hn
    cases size with
    | zero => simp [startsBelow] at hn
    | succ last =>
      refine exists_indexOf_eq_of_le (Nat.lt_succ_self last) ?_
      rw [indexOf_ofSame (Nat.lt_succ_self last)]
      omega

/-- No run starts behind the positions. -/
theorem startOf_le (size : Nat) (same : Nat → Nat → Bool) (run : Nat) :
    (ofSame size same).startOf run ≤ size := by
  rw [startOf]
  cases hstart : (ofSame size same).starts[run]? with
  | none => exact Nat.le_refl size
  | some q =>
    have member : q ∈ (List.range size).filter (startsAt same) := by
      simpa [ofSame] using Array.mem_of_getElem? hstart
    exact Nat.le_of_lt (List.mem_range.mp (List.mem_filter.mp member).1)

/-- A run starts behind the positions of the runs before it. -/
theorem startOf_eq_countP (size : Nat) (same : Nat → Nat → Bool) (run : Nat) :
    (ofSame size same).startOf run =
      (List.range size).countP fun q => decide ((ofSame size same).indexOf q < run) := by
  have start := startOf_le size same run
  have before : ((List.range size).filter fun q => decide ((ofSame size same).indexOf q < run)).Perm
      (List.range ((ofSame size same).startOf run)) := by
    rw [List.perm_ext_iff_of_nodup (List.nodup_range.filter _) List.nodup_range]
    intro q
    rw [List.mem_filter, List.mem_range, List.mem_range, decide_eq_true_eq]
    by_cases hq : q < size
    · have := startOf_le_iff same run hq
      omega
    · omega
  rw [List.countP_eq_length_filter, before.length_eq, List.length_range]

/-- Positions that keep the numbers of their runs keep the places where runs start. -/
theorem startOf_eq_of_indexOf_eq {same' : Nat → Nat → Bool} {π : Nat → Nat}
    (hπ : Rearranges size π)
    (h : ∀ q < size, (ofSame size same').indexOf q = (ofSame size same).indexOf (π q)) (run : Nat) :
    (ofSame size same').startOf run = (ofSame size same).startOf run := by
  have rearranged := (hπ.map_range_perm.countP_eq fun q =>
    decide ((ofSame size same).indexOf q < run)).symm
  rw [startOf_eq_countP, startOf_eq_countP size same, rearranged, List.countP_map]
  refine List.countP_congr ?_
  intro q hq
  rw [h q (List.mem_range.mp hq)]
  rfl

namespace InOrder

variable {order order' : Nat → Nat → Ordering} (h : InOrder size order) (h' : InOrder size order')
  {π : Nat → Nat} (hπ : Rearranges size π)
include h h' hπ

/-- **Rearranged positions keep their runs.** -/
theorem indexOf_rearranged (horder : ∀ i < size, ∀ j < size, order' i j = order (π i) (π j)) :
    (∀ i < size, (ofSame size (level order')).indexOf i =
      (ofSame size (level order)).indexOf (π i)) ∧
    (ofSame size (level order')).count = (ofSame size (level order)).count := by
  refine (numbers_indexOf _ _).unique ((numbers_indexOf _ _).comp hπ) ?_
  intro i hi j hj
  rw [h'.indexOf_le_iff hi hj, h.indexOf_le_iff (hπ.lt i hi) (hπ.lt j hj), horder i hi j hj]

/-- **In reversed order runs are counted from the other end.** -/
theorem indexOf_reversed (horder : ∀ i < size, ∀ j < size, order' i j = order (π j) (π i)) :
    (∀ i < size, (ofSame size (level order')).indexOf i =
      (ofSame size (level order)).count - 1 - (ofSame size (level order)).indexOf (π i)) ∧
    (ofSame size (level order')).count = (ofSame size (level order)).count := by
  refine (numbers_indexOf _ _).unique ((numbers_indexOf _ _).comp hπ).reverse ?_
  intro i hi j hj
  have bound := (numbers_indexOf size (level order)).lt _ (hπ.lt i hi)
  have bound' := (numbers_indexOf size (level order)).lt _ (hπ.lt j hj)
  rw [h'.indexOf_le_iff hi hj, horder i hi j hj,
    ← h.indexOf_le_iff (hπ.lt j hj) (hπ.lt i hi)]
  omega

end InOrder

end Runs

end WindowQuery
