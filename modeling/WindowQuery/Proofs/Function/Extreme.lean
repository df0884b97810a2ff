import Mathlib.Data.List.Induction
import WindowQuery.Function.Numeric

/-!
# Combining to an extreme

An operation that **picks** one of its arguments, the one that comes first in some order, combines
the numbers at successive places to one of them that comes before all others
(`PicksPlaced.combine_map_eq_some`). The order may look at the places, and then says which of level
numbers it is, or leave them out (`Picks`). The lesser and the greater of two numbers are such
operations: they pick the first and the last of level ones (`Ahead`). On integers they find what
`List.min?` and `List.max?` find (`IsExtreme`).
-/

namespace WindowQuery

/-! ### Extremes of integers -/

/-- A search for the **extreme** integer of a list, the one that comes before all others. -/
structure IsExtreme (extreme? : List Int → Option Int) (S : Int → Int → Prop) : Prop where
  eq_none_iff : ∀ ints, extreme? ints = none ↔ ints = []
  eq_some_iff : ∀ ints n, extreme? ints = some n ↔ n ∈ ints ∧ ∀ m ∈ ints, S n m

theorem isExtreme_min? : IsExtreme List.min? (· ≤ ·) :=
  ⟨fun _ => List.min?_eq_none_iff, fun _ _ => List.min?_eq_some_iff⟩

theorem isExtreme_max? : IsExtreme List.max? (· ≥ ·) :=
  ⟨fun _ => List.max?_eq_none_iff, fun _ _ => List.max?_eq_some_iff⟩

/-- The extreme does not depend on the order of the list. -/
theorem IsExtreme.eq_of_perm {extreme? : List Int → Option Int} {S : Int → Int → Prop}
    (h : IsExtreme extreme? S) {xs ys : List Int} (hxs : xs.Perm ys) :
    extreme? xs = extreme? ys := by
  cases hx : extreme? xs with
  | none =>
    rw [(h.eq_none_iff xs).mp hx, List.nil_perm] at hxs
    exact ((h.eq_none_iff ys).mpr hxs).symm
  | some n =>
    obtain ⟨hmem, first⟩ := (h.eq_some_iff xs n).mp hx
    refine ((h.eq_some_iff ys n).mpr ⟨hxs.mem_iff.mp hmem, fun m hm => ?_⟩).symm
    exact first m (hxs.mem_iff.mpr hm)

/-! ### Operations that pick -/

section

variable {α : Type} {f : α → α → α} {R : α → α → Prop}

theorem combine_concat (f : α → α → α) (values : List (Option α)) (v : Option α) :
    combine f (values ++ [v]) = Option.merge f (combine f values) v := by
  rw [combine, List.foldl_append]
  rfl

/-- Only a list without any number combines to none. -/
theorem combine_eq_none_iff {values : List (Option α)} :
    combine f values = none ↔ ∀ a, some a ∉ values := by
  induction values using List.reverseRecOn with
  | nil => simp [combine]
  | append_singleton values v ih =>
    rw [combine_concat]
    cases hc : combine f values with
    | none => cases v <;> simp [ih.mp hc]
    | some a =>
      have present : ¬ ∀ a, some a ∉ values := fun h => by simp [ih.mpr h] at hc
      rw [not_forall] at present
      obtain ⟨b, hb⟩ := present
      have later : ¬ ∀ a, some a ∉ values ++ [v] :=
        fun h => h b (List.mem_append_left _ (not_not.mp hb))
      cases v <;> simp only [Option.merge, reduceCtorEq, false_iff] <;> exact later

/-- An operation **picks between places** when of two arguments from successive places it gives the
one that comes first in a preorder of numbers at places. -/
structure PicksPlaced (f : α → α → α) (R : α × Nat → α × Nat → Prop) : Prop where
  either : ∀ a b {i j}, i < j → f a b = a ∧ R (a, i) (b, j) ∨ f a b = b ∧ R (b, j) (a, i)
  refl : ∀ x, R x x
  trans : ∀ {x y z}, R x y → R y z → R x z

/-- **The combination along places is the number of one of them, and comes before all others.** -/
theorem PicksPlaced.combine_map_eq_some {R : α × Nat → α × Nat → Prop}
    (h : PicksPlaced f R) {places : List Nat} (hplaces : places.Pairwise (· < ·))
    {g : Nat → Option α} {a : α} (ha : combine f (places.map g) = some a) :
    ∃ q ∈ places, g q = some a ∧ ∀ q' ∈ places, ∀ b, g q' = some b → R (a, q) (b, q') := by
  induction places using List.reverseRecOn generalizing a with
  | nil => cases ha
  | append_singleton places last ih =>
    obtain ⟨hplaces, -, before⟩ := List.pairwise_append.mp hplaces
    have before : ∀ q ∈ places, q < last := fun q hq => before q hq last (List.mem_singleton_self _)
    have last_mem : last ∈ places ++ [last] :=
      List.mem_append_right _ (List.mem_singleton_self _)
    rw [List.map_append, List.map_singleton, combine_concat] at ha
    cases hc : combine f (places.map g) with
    | none =>
      -- no number stands before the last place
      rw [hc, Option.merge_none_left] at ha
      refine ⟨last, last_mem, ha, List.forall_mem_append.mpr ⟨fun q' hq' b hb => ?_,
        List.forall_mem_singleton.mpr fun b hb => ?_⟩⟩
      · exact absurd (List.mem_map.mpr ⟨q', hq', hb⟩) (combine_eq_none_iff.mp hc b)
      · obtain rfl := Option.some.inj (ha.symm.trans hb)
        exact h.refl _
    | some c =>
      obtain ⟨q, hq, hgq, first⟩ := ih hplaces hc
      cases hlast : g last with
      | none =>
        rw [hc, hlast] at ha
        cases ha
        refine ⟨q, List.mem_append_left _ hq, hgq, List.forall_mem_append.mpr ⟨first,
          List.forall_mem_singleton.mpr fun b hb => ?_⟩⟩
        cases hlast.symm.trans hb
      | some d =>
        rw [hc, hlast] at ha
        cases ha
        rcases h.either c d (before q hq) with ⟨heq, hR⟩ | ⟨heq, hR⟩ <;> rw [heq]
        · refine ⟨q, List.mem_append_left _ hq, hgq, List.forall_mem_append.mpr ⟨first,
            List.forall_mem_singleton.mpr fun b hb => ?_⟩⟩
          obtain rfl := Option.some.inj (hlast.symm.trans hb)
          exact hR
        · refine ⟨last, last_mem, hlast, List.forall_mem_append.mpr ⟨fun q' hq' b hb =>
            h.trans hR (first q' hq' b hb), List.forall_mem_singleton.mpr fun b hb => ?_⟩⟩
          obtain rfl := Option.some.inj (hlast.symm.trans hb)
          exact h.refl _

/-- The operation **picks** the argument that comes first in an order, wherever it stands. -/
structure Picks (f : α → α → α) (R : α → α → Prop) : Prop where
  either : ∀ a b, f a b = a ∨ f a b = b
  left : ∀ a b, R (f a b) a
  right : ∀ a b, R (f a b) b
  refl : ∀ a, R a a
  trans : ∀ a b c, R a b → R b c → R a c

theorem Picks.placed (h : Picks f R) : PicksPlaced f fun x y => R x.1 y.1 where
  either a b _ _ _ := by
    rcases h.either a b with heq | heq
    · exact .inl ⟨heq, heq ▸ h.right a b⟩
    · exact .inr ⟨heq, heq ▸ h.left a b⟩
  refl x := h.refl x.1
  trans := h.trans _ _ _

/-- **The combination of a list is one of its elements, and comes before all of them.** -/
theorem Picks.combine_eq_some (h : Picks f R) {values : List (Option α)} {a : α}
    (ha : combine f values = some a) :
    some a ∈ values ∧ ∀ b, some b ∈ values → R a b := by
  have along : values = (List.range values.length).map fun q => values[q]?.join :=
    List.ext_getElem (by simp) fun q hq _ => by simp [hq]
  rw [along] at ha
  obtain ⟨q, -, hq, first⟩ := h.placed.combine_map_eq_some List.pairwise_lt_range ha
  refine ⟨List.mem_of_getElem? (Option.join_eq_some_iff.mp hq), fun b hb => ?_⟩
  obtain ⟨q', hb⟩ := List.mem_iff_getElem?.mp hb
  have hq' : q' < values.length := (List.getElem?_eq_some_iff.mp hb).1
  exact first q' (List.mem_range.mpr hq') b (Option.join_eq_some_iff.mpr hb)

end

/-! ### The lesser and the greater -/

section

variable {α : Type} (order : α → α → Ordering) [Std.TransCmp order]

theorem picks_lesser : Picks (lesser order) fun a b => (order a b).isLE = true where
  either a b := by
    unfold lesser
    split
    · exact .inr rfl
    · exact .inl rfl
  left a b := by
    unfold lesser
    split
    · have swap : order b a = (order a b).swap := Std.OrientedCmp.eq_swap
      rw [swap, ‹order a b = .gt›]
      rfl
    · exact Std.ReflCmp.isLE_rfl
  right a b := by
    unfold lesser
    split
    · exact Std.ReflCmp.isLE_rfl
    · rwa [Ordering.isLE_iff_ne_gt]
  refl a := Std.ReflCmp.isLE_rfl
  trans a b c := Std.TransCmp.isLE_trans

theorem picks_greater : Picks (greater order) fun a b => (order b a).isLE = true where
  either a b := by
    unfold greater
    split
    · exact .inl rfl
    · exact .inr rfl
  left a b := by
    unfold greater
    split
    · exact Std.ReflCmp.isLE_rfl
    · rwa [Ordering.isLE_iff_ne_gt]
  right a b := by
    unfold greater
    split
    · have swap : order b a = (order a b).swap := Std.OrientedCmp.eq_swap
      rw [swap, ‹order a b = .gt›]
      rfl
    · exact Std.ReflCmp.isLE_rfl
  refl a := Std.ReflCmp.isLE_rfl
  trans a b c hab hbc := Std.TransCmp.isLE_trans hbc hab

end

/-! ### The first and the last of level numbers -/

section

variable {α : Type}

/-- Of two numbers at places, one is **ahead** of the other: it comes first in an order, or is level
with it and at no later place. -/
def Ahead (order : α → α → Ordering) (x y : α × Nat) : Prop :=
  order x.1 y.1 = .lt ∨ order x.1 y.1 = .eq ∧ x.2 ≤ y.2

instance (order : α → α → Ordering) (x y : α × Nat) : Decidable (Ahead order x y) :=
  inferInstanceAs (Decidable (_ ∨ _))

section

variable {order : α → α → Ordering} {x y : α × Nat}

/-- Two numbers are only ahead of each other at one place. -/
theorem Ahead.place_eq (hswap : ∀ a b, (order a b).swap = order b a) (h : Ahead order x y)
    (h' : Ahead order y x) : x.2 = y.2 := by
  rcases h with h | ⟨h, hle⟩ <;> rcases h' with h' | ⟨h', hle'⟩ <;>
    rw [← hswap, h] at h'
  · cases h'
  · cases h'
  · cases h'
  · exact Nat.le_antisymm hle hle'

theorem Ahead.ne_gt (h : Ahead order x y) : order x.1 y.1 ≠ .gt := by
  rcases h with h | ⟨h, -⟩ <;> rw [h] <;> decide

/-- A number that does not come behind one at a later place is ahead of it. -/
theorem Ahead.of_ne_gt {a b : α} {i j : Nat} (h : order a b ≠ .gt) (hij : i < j) :
    Ahead order (a, i) (b, j) := by
  cases horder : order a b with
  | lt => exact .inl horder
  | eq => exact .inr ⟨horder, Nat.le_of_lt hij⟩
  | gt => exact absurd horder h

end

section

variable {order : α → α → Ordering} [Std.TransCmp order]

theorem Ahead.refl (x : α × Nat) : Ahead order x x := .inr ⟨Std.ReflCmp.compare_self, Nat.le_refl _⟩

/-- Being ahead is transitive, by the order and then by place. -/
theorem Ahead.trans {x y z : α × Nat} (hxy : Ahead order x y) (hyz : Ahead order y z) :
    Ahead order x z := by
  obtain hxy | ⟨hxy, hplace⟩ := hxy
  · obtain hyz | ⟨hyz, -⟩ := hyz
    · exact .inl (Std.TransCmp.lt_trans hxy hyz)
    · exact .inl (Std.TransCmp.lt_of_lt_of_eq hxy hyz)
  · obtain hyz | ⟨hyz, hplace'⟩ := hyz
    · exact .inl (Std.TransCmp.lt_of_eq_of_lt hxy hyz)
    · exact .inr ⟨Std.TransCmp.eq_trans hxy hyz, Nat.le_trans hplace hplace'⟩

/-- The lesser is the first of two level numbers. -/
theorem picksPlaced_lesser : PicksPlaced (lesser order) (Ahead order) where
  either a b i j hij := by
    rw [lesser]
    split
    · exact .inr ⟨rfl, .inl (Std.OrientedCmp.lt_of_gt ‹_›)⟩
    · exact .inl ⟨rfl, .of_ne_gt ‹_› hij⟩
  refl := Ahead.refl
  trans := Ahead.trans

/-- The greater is the last of two level numbers. -/
theorem picksPlaced_greater : PicksPlaced (greater order) fun x y => Ahead order y x where
  either a b i j hij := by
    rw [greater]
    split
    · exact .inl ⟨rfl, .inl (Std.OrientedCmp.lt_of_gt ‹_›)⟩
    · exact .inr ⟨rfl, .of_ne_gt ‹_› hij⟩
  refl := Ahead.refl
  trans hxy hyz := Ahead.trans hyz hxy

end

end

end WindowQuery
