import WindowQuery.View.Sort

/-!
# What sorting guarantees

Sorting is described by a relation `R` that holds in the result between every element and every
later one. The comparison only has to **decide** `R` between an element and one that arrived after
it: `R a b` when the comparison holds, `R b a` when it fails. Both uses of the library are covered
at once. With the order of all keys, refined by the place of arrival, `R` says that the result is
sorted and stable. With the order of the first key alone it says that the first keys are in
order, whatever the other keys do.

The main statement is `pairwise_sortedSlots`. It holds for both ways of sorting, in one piece and
in two halves.
-/

namespace WindowQuery

/-- The comparison says which way round the relation holds. -/
def Decides {α : Type} (le : α → α → Bool) (R : α → α → Prop) (a b : α) : Prop :=
  (le a b = true → R a b) ∧ (le a b = false → R b a)

section

variable {α : Type} {le : α → α → Bool} {R T : α → α → Prop} {S : α → Prop}

/-- Two lists in order merge into one in order, when the comparison decides the relation across
the lists. The relation needs to be transitive on the elements at hand only. -/
theorem pairwise_merge (trans : ∀ a b c, S a → S b → S c → R a b → R b c → R a c)
    {xs ys : List α} (hxs : ∀ x ∈ xs, S x) (hys : ∀ y ∈ ys, S y)
    (pxs : xs.Pairwise R) (pys : ys.Pairwise R)
    (across : ∀ x ∈ xs, ∀ y ∈ ys, Decides le R x y) : (List.merge xs ys le).Pairwise R := by
  induction xs generalizing ys with
  | nil => simpa only [List.nil_merge] using pys
  | cons x xs ihx =>
    induction ys with
    | nil => simpa only [List.merge_right] using pxs
    | cons y ys ihy =>
      obtain ⟨hx, hxs'⟩ := List.forall_mem_cons.mp hxs
      obtain ⟨hy, hys'⟩ := List.forall_mem_cons.mp hys
      obtain ⟨rx, pxs'⟩ := List.pairwise_cons.mp pxs
      obtain ⟨ry, pys'⟩ := List.pairwise_cons.mp pys
      have hxy : Decides le R x y := across x List.mem_cons_self y List.mem_cons_self
      -- the head that is taken relates to the other list through the head of that one
      cases hle : le x y with
      | true =>
        have h : R x y := hxy.1 hle
        rw [List.cons_merge_cons_pos _ _ _ hle]
        refine List.pairwise_cons.mpr ⟨fun z hz => ?_, ihx hxs' hys pxs' pys ?_⟩
        · rcases List.mem_merge.mp hz with hz | hz
          · exact rx z hz
          · rcases List.mem_cons.mp hz with rfl | hz
            · exact h
            · exact trans x y z hx hy (hys' z hz) h (ry z hz)
        · exact fun a ha => across a (List.mem_cons_of_mem x ha)
      | false =>
        have h : R y x := hxy.2 hle
        rw [List.cons_merge_cons_neg _ _ _ (by simp [hle])]
        refine List.pairwise_cons.mpr ⟨fun z hz => ?_, ihy hys' pys' ?_⟩
        · rcases List.mem_merge.mp hz with hz | hz
          · rcases List.mem_cons.mp hz with rfl | hz
            · exact h
            · exact trans y x z hy hx (hxs' z hz) h (rx z hz)
          · exact ry z hz
        · exact fun a ha b hb => across a ha b (List.mem_cons_of_mem y hb)

/-- Elements in front of a place and elements behind it stand in every relation that holds along
the list. -/
theorem forall_take_drop {l : List α} (h : l.Pairwise T) (n : Nat) :
    ∀ a ∈ l.take n, ∀ b ∈ l.drop n, T a b := by
  rw [← List.take_append_drop n l] at h
  exact (List.pairwise_append.mp h).2.2

/-- Sorted parts of a list merge into a sorted whole. -/
theorem pairwise_merge_take_drop (trans : ∀ a b c, S a → S b → S c → R a b → R b c → R a c)
    {l xs ys : List α} (n : Nat) (hl : ∀ a ∈ l, S a) (pl : l.Pairwise T)
    (decides : ∀ a ∈ l, ∀ b ∈ l, T a b → Decides le R a b)
    (hxs : xs.Perm (l.take n)) (hys : ys.Perm (l.drop n))
    (pxs : xs.Pairwise R) (pys : ys.Pairwise R) : (List.merge xs ys le).Pairwise R := by
  have front : ∀ a ∈ xs, a ∈ l := fun a ha => List.mem_of_mem_take (hxs.mem_iff.mp ha)
  have back : ∀ b ∈ ys, b ∈ l := fun b hb => List.mem_of_mem_drop (hys.mem_iff.mp hb)
  refine pairwise_merge trans (fun a ha => hl a (front a ha)) (fun b hb => hl b (back b hb))
    pxs pys fun a ha b hb => decides a (front a ha) b (back b hb) ?_
  exact forall_take_drop pl n a (hxs.mem_iff.mp ha) b (hys.mem_iff.mp hb)

open List.MergeSort.Internal in
/-- A merge sort leaves its list in order, when the comparison decides the relation between every
element and every later one of the list it is given. -/
theorem pairwise_mergeSort (trans : ∀ a b c, S a → S b → S c → R a b → R b c → R a c) :
    ∀ l : List α, (∀ a ∈ l, S a) → l.Pairwise T →
      (∀ a ∈ l, ∀ b ∈ l, T a b → Decides le R a b) → (l.mergeSort le).Pairwise R
  | [], _, _, _ => by simp
  | [a], _, _, _ => by simp
  | a :: b :: rest, hl, pl, decides => by
    rw [List.mergeSort, splitInTwo_fst, splitInTwo_snd]
    refine pairwise_merge_take_drop trans _ hl pl decides (List.mergeSort_perm _ _)
      (List.mergeSort_perm _ _) ?front ?back
    case front =>
      have sub := List.take_subset (((a :: b :: rest).length + 1) / 2) (a :: b :: rest)
      exact pairwise_mergeSort trans _ (fun x hx => hl x (sub hx))
        (pl.sublist (List.take_sublist _ _))
        fun x hx y hy => decides x (sub hx) y (sub hy)
    case back =>
      have sub := List.drop_subset (((a :: b :: rest).length + 1) / 2) (a :: b :: rest)
      exact pairwise_mergeSort trans _ (fun x hx => hl x (sub hx))
        (pl.sublist (List.drop_sublist _ _))
        fun x hx y hy => decides x (sub hx) y (sub hy)
termination_by l => l.length
decreasing_by
  · simp only [List.length_take, List.length_cons]
    omega
  · simp only [List.length_drop, List.length_cons]
    omega

/-- The same for a sort in two halves. -/
theorem pairwise_sortHalves (trans : ∀ a b c, S a → S b → S c → R a b → R b c → R a c)
    {l : List α} (hl : ∀ a ∈ l, S a) (pl : l.Pairwise T)
    (decides : ∀ a ∈ l, ∀ b ∈ l, T a b → Decides le R a b) : (sortHalves le l).Pairwise R := by
  have sorted {xs : List α} (h : xs.Sublist l) : (xs.mergeSort le).Pairwise R :=
    pairwise_mergeSort trans xs (fun x hx => hl x (h.subset hx)) (pl.sublist h)
      fun x hx y hy => decides x (h.subset hx) y (h.subset hy)
  simp only [sortHalves, List.splitAt_eq]
  exact pairwise_merge_take_drop trans _ hl pl decides (List.mergeSort_perm _ _)
    (List.mergeSort_perm _ _) (sorted (List.take_sublist _ _)) (sorted (List.drop_sublist _ _))

end

/-- **Sorted slots are in order.** A relation that the order of slots decides, and that is
transitive on the slots below `size`, holds between every sorted slot and every later one. Of two
slots the lesser one arrived first. -/
theorem pairwise_sortedSlots {order : Nat → Nat → Ordering} {R : Nat → Nat → Prop} {size : Nat}
    (trans : ∀ a b c, a < size → b < size → c < size → R a b → R b c → R a c)
    (decides : ∀ a b, a < b → b < size → Decides (fun a b => (order a b).isLE) R a b)
    (threshold : Nat) : (sortedSlots order size threshold).Pairwise R := by
  have below : ∀ a ∈ List.range size, a < size := fun a ha => List.mem_range.mp ha
  have decides' : ∀ a ∈ List.range size, ∀ b ∈ List.range size, a < b →
      Decides (fun a b => (order a b).isLE) R a b :=
    fun a _ b hb hab => decides a b hab (below b hb)
  unfold sortedSlots
  split
  · exact pairwise_sortHalves trans below List.pairwise_lt_range decides'
  · exact pairwise_mergeSort trans _ below List.pairwise_lt_range decides'

/-! ### Order refined by arrival -/

/-- One slot comes before another: in the order, or on a level and arrived first. -/
def Precedes (order : Nat → Nat → Ordering) (a b : Nat) : Prop :=
  order a b = .lt ∨ order a b = .eq ∧ a < b

theorem Precedes.trans {order : Nat → Nat → Ordering} [Std.TransCmp order] {a b c : Nat}
    (hab : Precedes order a b) (hbc : Precedes order b c) : Precedes order a c := by
  rcases hab with hab | ⟨hab, lab⟩
  · rcases hbc with hbc | ⟨hbc, -⟩
    · exact .inl (Std.TransCmp.lt_trans hab hbc)
    · exact .inl (Std.TransCmp.lt_of_lt_of_eq hab hbc)
  · rcases hbc with hbc | ⟨hbc, lbc⟩
    · exact .inl (Std.TransCmp.lt_of_eq_of_lt hab hbc)
    · exact .inr ⟨Std.TransCmp.eq_trans hab hbc, Nat.lt_trans lab lbc⟩

/-- **The sort is stable.** Where the order of slots is a total preorder, sorted slots come in that
order and slots on a level in order of arrival. -/
theorem pairwise_precedes {order order' : Nat → Nat → Ordering} [Std.TransCmp order'] (size : Nat)
    (agree : ∀ a b, a < size → b < size → order a b = order' a b) (threshold : Nat) :
    (sortedSlots order size threshold).Pairwise (Precedes order') := by
  have trans : ∀ a b c, a < size → b < size → c < size →
      Precedes order' a b → Precedes order' b c → Precedes order' a c :=
    fun _ _ _ _ _ _ => Precedes.trans
  refine pairwise_sortedSlots trans (fun a b hab hb => ?_) threshold
  have swap : order' b a = (order' a b).swap := Std.OrientedCmp.eq_swap
  rw [Decides, agree a b (Nat.lt_trans hab hb) hb, Precedes, Precedes, swap]
  cases order' a b <;> simp [hab]

end WindowQuery
