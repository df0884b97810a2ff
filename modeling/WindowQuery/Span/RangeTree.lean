import WindowQuery.Span

/-!
# Range trees

A range tree combines the elements of a sequence over any span in logarithmic time. It is a
binary tree with the elements at its leaves, and each node keeps the combination of all elements
below it. An element may be missing, and missing ones do not count.

The operation has to be associative, since a span is put together from the nodes it covers; that
is all `RangeTree.query_eq` asks for.
-/

namespace WindowQuery

/-- The combination of the elements present, from left to right, none without any. -/
def combine (f : α → α → α) (values : List (Option α)) : Option α :=
  values.foldl (Option.merge f) none

/-- An operation that may be regrouped. -/
def Regroups (f : α → α → α) : Prop := ∀ a b c, f (f a b) c = f a (f b c)

theorem Regroups.merge {f : α → α → α} (h : Regroups f) (a b c : Option α) :
    Option.merge f (Option.merge f a b) c = Option.merge f a (Option.merge f b c) := by
  cases a <;> cases b <;> cases c <;> simp [h _ _ _]

/-- What is combined by parts is combined as a whole. -/
theorem combine_append {f : α → α → α} (h : Regroups f) (xs ys : List (Option α)) :
    combine f (xs ++ ys) = Option.merge f (combine f xs) (combine f ys) := by
  suffices step : ∀ a, ys.foldl (Option.merge f) a = Option.merge f a (combine f ys) by
    rw [combine, List.foldl_append, step]
    rfl
  unfold combine
  induction ys with
  | nil => intro a; simp
  | cons y ys ih =>
    intro a
    rw [List.foldl_cons, List.foldl_cons, ih, ih (Option.merge f none y), ← h.merge]
    simp

/-- A tree over the elements of a sequence. -/
inductive RangeTree (α : Type) where
  | leaf (value : Option α)
  | node (size : Nat) (total : Option α) (left right : RangeTree α)

namespace RangeTree

/-- Number of elements. -/
def size : RangeTree α → Nat
  | leaf _ => 1
  | node size .. => size

/-- The combination of all elements. -/
def total : RangeTree α → Option α
  | leaf value => value
  | node _ total .. => total

/-- The elements from left to right. -/
def toList : RangeTree α → List (Option α)
  | leaf value => [value]
  | node _ _ left right => left.toList ++ right.toList

/-- Two trees side by side. -/
def join (f : α → α → α) (left right : RangeTree α) : RangeTree α :=
  node (left.size + right.size) (Option.merge f left.total right.total) left right

/-- Joins neighbours, which halves the number of trees. -/
def joinPairs (f : α → α → α) : List (RangeTree α) → List (RangeTree α)
  | left :: right :: rest => join f left right :: joinPairs f rest
  | trees => trees

/-- Joins neighbours until one tree is left, at most as many times as given. -/
def joinAll (f : α → α → α) : Nat → List (RangeTree α) → List (RangeTree α)
  | rounds + 1, trees@(_ :: _ :: _) => joinAll f rounds (joinPairs f trees)
  | _, trees => trees

/-- The tree over an array, or no tree when it is empty. -/
def ofArray (f : α → α → α) (values : Array (Option α)) : List (RangeTree α) :=
  joinAll f values.size (values.toList.map leaf)

/-- Combines the elements at the positions `p` with `low ≤ p < high`. -/
def query (f : α → α → α) : RangeTree α → (low high : Nat) → Option α
  | leaf value, low, high => if low = 0 ∧ 0 < high then value else none
  | node size total left right, low, high =>
    if high ≤ low ∨ size ≤ low then none
    else if low = 0 ∧ size ≤ high then total
    else
      Option.merge f (left.query f low high)
        (right.query f (low - left.size) (high - left.size))

/-- Combines the elements of several trees side by side at the positions `p` with
`low ≤ p < high`. -/
def queryAll (f : α → α → α) : List (RangeTree α) → (low high : Nat) → Option α
  | [], _, _ => none
  | tree :: rest, low, high =>
    Option.merge f (tree.query f low high)
      (queryAll f rest (low - tree.size) (high - tree.size))

/-! ### Queries are combinations -/

/-- Every node knows the number and the combination of the elements below it. -/
def Sound (f : α → α → α) : RangeTree α → Prop
  | leaf _ => True
  | tree@(node size total left right) =>
    size = tree.toList.length ∧ total = combine f tree.toList ∧ left.Sound f ∧ right.Sound f

theorem size_eq {f : α → α → α} {tree : RangeTree α} (h : tree.Sound f) :
    tree.size = tree.toList.length := by
  cases tree with
  | leaf => rfl
  | node => exact h.1

theorem total_eq {f : α → α → α} {tree : RangeTree α} (h : tree.Sound f) :
    tree.total = combine f tree.toList := by
  cases tree with
  | leaf value => cases value <;> rfl
  | node => exact h.2.1

theorem sound_join {f : α → α → α} (hf : Regroups f) {left right : RangeTree α}
    (hl : left.Sound f) (hr : right.Sound f) : (join f left right).Sound f := by
  refine ⟨?_, ?_, hl, hr⟩
  · simp [toList, size_eq hl, size_eq hr]
  · simp [toList, combine_append hf, total_eq hl, total_eq hr]

/-- The positions between two bounds of two sequences side by side. -/
private theorem drop_take_append (xs ys : List α) (low high : Nat) :
    ((xs ++ ys).take high).drop low =
      (xs.take high).drop low ++ (ys.take (high - xs.length)).drop (low - xs.length) := by
  rw [List.take_append, List.drop_append, List.length_take]
  congr 1
  by_cases h : high ≤ xs.length
  · simp [Nat.sub_eq_zero_of_le h]
  · rw [Nat.min_eq_right (by omega)]

/-- A query of a sound tree combines the values between its bounds. -/
theorem query_eq {f : α → α → α} (hf : Regroups f) {tree : RangeTree α} (h : tree.Sound f)
    (low high : Nat) :
    tree.query f low high = combine f ((tree.toList.take high).drop low) := by
  induction tree generalizing low high with
  | leaf value =>
    unfold query
    split
    · obtain ⟨rfl, hpos⟩ := ‹low = 0 ∧ 0 < high›
      obtain ⟨n, rfl⟩ := Nat.exists_eq_succ_of_ne_zero (Nat.ne_of_gt hpos)
      cases value <;> simp [toList, combine]
    · have : ([value].take high).drop low = [] := by
        apply List.drop_eq_nil_of_le
        simp only [List.length_take, List.length_cons, List.length_nil]
        omega
      simp [toList, this, combine]
  | node size total left right ihl ihr =>
    obtain ⟨hsize, htotal, hl, hr⟩ := h
    unfold query
    split
    · have : ((RangeTree.node size total left right).toList.take high).drop low = [] := by
        apply List.drop_eq_nil_of_le
        rw [List.length_take]
        omega
      simp [this, combine]
    · split
      · -- the whole node is asked for, and its total is stored
        obtain ⟨rfl, hle⟩ := ‹low = 0 ∧ size ≤ high›
        rw [List.drop_zero, List.take_of_length_le (by omega)]
        exact htotal
      · -- the part on either side is asked for on its own
        rw [ihl hl, ihr hr, ← combine_append hf, size_eq hl, ← drop_take_append]
        rfl

/-- A query of several trees combines the values between its bounds, counted across the trees. -/
theorem queryAll_eq {f : α → α → α} (hf : Regroups f) {trees : List (RangeTree α)}
    (h : ∀ tree ∈ trees, tree.Sound f) (low high : Nat) :
    queryAll f trees low high = combine f (((trees.flatMap toList).take high).drop low) := by
  induction trees generalizing low high with
  | nil => simp [queryAll, combine]
  | cons tree rest ih =>
    have ht := h tree (by simp)
    rw [queryAll, query_eq hf ht, ih (fun t ht => h t (by simp [ht])), ← combine_append hf,
      size_eq ht, ← drop_take_append, List.flatMap_cons]

theorem flatMap_joinPairs (f : α → α → α) (trees : List (RangeTree α)) :
    (joinPairs f trees).flatMap toList = trees.flatMap toList := by
  fun_induction joinPairs f trees with
  | case1 left right rest ih => simp [ih, join, toList]
  | case2 => rfl

/-- Joining neighbours keeps the trees sound. -/
theorem sound_joinPairs {f : α → α → α} (hf : Regroups f) {trees : List (RangeTree α)}
    (h : ∀ tree ∈ trees, tree.Sound f) : ∀ tree ∈ joinPairs f trees, tree.Sound f := by
  fun_induction joinPairs f trees with
  | case1 left right rest ih =>
    simp only [List.mem_cons, forall_eq_or_imp] at h ⊢
    exact ⟨sound_join hf h.1 h.2.1, ih h.2.2⟩
  | case2 => exact h

theorem flatMap_joinAll (f : α → α → α) (rounds : Nat) (trees : List (RangeTree α)) :
    (joinAll f rounds trees).flatMap toList = trees.flatMap toList := by
  fun_induction joinAll f rounds trees with
  | case1 rounds a b rest ih => rw [ih, flatMap_joinPairs]
  | case2 => rfl

theorem sound_joinAll {f : α → α → α} (hf : Regroups f) (rounds : Nat)
    {trees : List (RangeTree α)} (h : ∀ tree ∈ trees, tree.Sound f) :
    ∀ tree ∈ joinAll f rounds trees, tree.Sound f := by
  fun_induction joinAll f rounds trees with
  | case1 rounds a b rest ih => exact ih (sound_joinPairs hf h)
  | case2 => exact h

/-- **A query is the combination over its span.** -/
theorem queryAll_ofArray {f : α → α → α} (hf : Regroups f) (values : Array (Option α))
    (s : Span) :
    queryAll f (ofArray f values) s.start s.stop = combine f (s.slice values).toList := by
  have leaves : ∀ tree ∈ values.toList.map leaf, tree.Sound f := by
    simp only [List.mem_map]
    rintro _ ⟨value, _, rfl⟩
    trivial
  rw [ofArray, queryAll_eq hf (sound_joinAll hf _ leaves), flatMap_joinAll]
  simp [List.flatMap_map, toList, Span.slice, List.drop_take, List.extract_eq_take_drop]

end RangeTree

end WindowQuery
