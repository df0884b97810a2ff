import WindowQuery.Proofs.Cell.Preorder

/-!
# Grouping as a quotient

Grouping sends every row to one group, whatever equality of keys is like
(`KeyGroup.flatMap_rows_ofRows`). When equality of keys is an equivalence of rows, the groups are
its classes (`KeyGroup.ofRows_eq`): there is one for each row that is the first with its key, in
the order of these rows, and it holds the rows with that key in ascending order.
-/

namespace WindowQuery.KeyGroup

/-- Adding a row to the groups adds it to the rows in groups. -/
theorem flatMap_rows_insert (key : List Cell) (row : Nat) (groups : List KeyGroup) :
    ((insert key row groups).flatMap fun g => g.rows.toList).Perm
      ((groups.flatMap fun g => g.rows.toList) ++ [row]) := by
  induction groups with
  | nil => exact List.Perm.refl _
  | cons g rest ih =>
    rw [insert]
    split
    · simp only [List.flatMap_cons, push, Array.toList_push, List.append_assoc]
      exact List.Perm.append_left _ List.perm_append_comm
    · simp only [List.flatMap_cons, List.append_assoc]
      exact List.Perm.append_left _ ih

/-- One more row is one more insertion. -/
theorem ofRows_succ (keyOf : Nat → List Cell) (n : Nat) :
    ofRows keyOf (n + 1) = insert (keyOf n) n (ofRows keyOf n) := by
  rw [ofRows, List.range_succ, List.foldl_append]
  rfl

/-- **Every row is in one group**, and there once. -/
theorem flatMap_rows_ofRows (keyOf : Nat → List Cell) (n : Nat) :
    ((ofRows keyOf n).flatMap fun g => g.rows.toList).Perm (List.range n) := by
  induction n with
  | zero => exact List.Perm.refl _
  | succ n ih =>
    rw [ofRows_succ, List.range_succ]
    exact (flatMap_rows_insert _ _ _).trans (ih.append_right [n])

/-- Where at most one group has a key, a row with that key joins it, and starts a group of its own
where none has. -/
theorem insert_eq_map {key : List Cell} {row : Nat} {groups : List KeyGroup}
    (apart : groups.Pairwise fun g g' => Cell.sameTuples g.key key = true →
      Cell.sameTuples g'.key key = false) :
    insert key row groups =
      if groups.any fun g => Cell.sameTuples g.key key then
        groups.map fun g => if Cell.sameTuples g.key key then g.push row else g
      else groups ++ [⟨key, #[row]⟩] := by
  induction groups with
  | nil => rfl
  | cons g rest ih =>
    obtain ⟨hg, apart⟩ := List.pairwise_cons.mp apart
    rw [insert, ih apart, List.any_cons, List.map_cons]
    cases hkey : Cell.sameTuples g.key key with
    | true =>
      -- at most one group has the key, so the others stay as they are
      have others : (rest.map fun g' => if Cell.sameTuples g'.key key then g'.push row else g') =
          rest.map id := List.map_congr_left fun g' hg' => by simp [hg g' hg' hkey]
      rw [others, List.map_id]
      simp
    | false =>
      cases rest.any fun g => Cell.sameTuples g.key key <;> simp

/-! ### Classes of rows -/

variable (keyOf : Nat → List Cell)

/-- The rows below a bound whose key is that of a given row. -/
def rowsLike (n r : Nat) : List Nat :=
  (List.range n).filter fun r' => Cell.sameTuples (keyOf r) (keyOf r')

/-- The group of a row. -/
def groupOf (n r : Nat) : KeyGroup := ⟨keyOf r, (rowsLike keyOf n r).toArray⟩

/-- Whether no row before has the same key. -/
def isFirst (r : Nat) : Bool :=
  (List.range r).all fun r' => !Cell.sameTuples (keyOf r') (keyOf r)

/-- The first rows below a bound of each key. -/
def firsts (n : Nat) : List Nat := (List.range n).filter (isFirst keyOf)

variable {keyOf}

theorem isFirst_iff {r : Nat} :
    isFirst keyOf r = true ↔ ∀ r' < r, Cell.sameTuples (keyOf r') (keyOf r) = false := by
  simp [isFirst]

theorem mem_firsts {n r : Nat} :
    r ∈ firsts keyOf n ↔ r < n ∧ ∀ r' < r, Cell.sameTuples (keyOf r') (keyOf r) = false := by
  rw [firsts, List.mem_filter, List.mem_range, isFirst_iff]

theorem rowsLike_succ (n r : Nat) :
    rowsLike keyOf (n + 1) r =
      rowsLike keyOf n r ++ if Cell.sameTuples (keyOf r) (keyOf n) then [n] else [] := by
  rw [rowsLike, List.range_succ, List.filter_append, List.filter_cons, List.filter_nil]
  rfl

theorem firsts_succ (n : Nat) :
    firsts keyOf (n + 1) = firsts keyOf n ++ if isFirst keyOf n then [n] else [] := by
  rw [firsts, List.range_succ, List.filter_append, List.filter_cons, List.filter_nil]
  rfl

/-- The first rows of different keys have different keys. -/
theorem pairwise_firsts (n : Nat) :
    (firsts keyOf n).Pairwise fun r r' => Cell.sameTuples (keyOf r) (keyOf r') = false := by
  refine (List.Pairwise.filter _ List.pairwise_lt_range).imp_of_mem fun ha hb hab => ?_
  exact (mem_firsts.mp hb).2 _ hab

/-- A key has one first row. -/
theorem eq_of_mem_firsts {n f f' : Nat} (hf : f ∈ firsts keyOf n) (hf' : f' ∈ firsts keyOf n)
    (hsame : Cell.sameTuples (keyOf f) (keyOf f') = true) : f = f' := by
  rcases Nat.lt_trichotomy f f' with hlt | heq | hgt
  · exact absurd hsame (Bool.eq_false_iff.mp ((mem_firsts.mp hf').2 f hlt))
  · exact heq
  · rw [Cell.sameTuples_comm] at hsame
    exact absurd hsame (Bool.eq_false_iff.mp ((mem_firsts.mp hf).2 f' hgt))

section

variable (trans : ∀ i j k, Cell.sameTuples (keyOf i) (keyOf j) = true →
  Cell.sameTuples (keyOf j) (keyOf k) = true → Cell.sameTuples (keyOf i) (keyOf k) = true)
include trans

/-- Every key has a first row. -/
theorem exists_mem_firsts {n r : Nat} (hr : r < n) :
    ∃ f ∈ firsts keyOf n, Cell.sameTuples (keyOf f) (keyOf r) = true := by
  induction r using Nat.strongRecOn with
  | _ r ih =>
    cases hfirst : isFirst keyOf r with
    | true => exact ⟨r, mem_firsts.mpr ⟨hr, isFirst_iff.mp hfirst⟩, Cell.sameTuples_self _⟩
    | false =>
      obtain ⟨r', hr', hsame⟩ : ∃ r' < r, Cell.sameTuples (keyOf r') (keyOf r) = true := by
        simpa [isFirst] using hfirst
      obtain ⟨f, hf, hf'⟩ := ih r' hr' (Nat.lt_trans hr' hr)
      exact ⟨f, hf, trans f r' r hf' hsame⟩

/-- A key is known to the first rows exactly when its row is not one of them. -/
theorem any_firsts (n : Nat) :
    ((firsts keyOf n).any fun r => Cell.sameTuples (keyOf r) (keyOf n)) = !isFirst keyOf n := by
  cases hfirst : isFirst keyOf n with
  | true =>
    refine List.any_eq_false.mpr ?_
    intro r hr
    simp [isFirst_iff.mp hfirst r (mem_firsts.mp hr).1]
  | false =>
    obtain ⟨r, hr, hsame⟩ : ∃ r < n, Cell.sameTuples (keyOf r) (keyOf n) = true := by
      simpa [isFirst] using hfirst
    obtain ⟨f, hf, hf'⟩ := exists_mem_firsts trans hr
    exact List.any_eq_true.mpr ⟨f, hf, trans f r n hf' hsame⟩

/-- **Groups are the classes of rows with the same key**, in the order of their first rows. -/
theorem ofRows_eq (n : Nat) : ofRows keyOf n = (firsts keyOf n).map (groupOf keyOf n) := by
  induction n with
  | zero => rfl
  | succ n ih =>
    -- first rows differ in their keys, so at most one group can take the new row
    have apart : ((firsts keyOf n).map (groupOf keyOf n)).Pairwise fun g g' =>
        Cell.sameTuples g.key (keyOf n) = true → Cell.sameTuples g'.key (keyOf n) = false := by
      refine List.pairwise_map.mpr ((pairwise_firsts n).imp fun {a b} hab ha => ?_)
      refine Bool.eq_false_iff.mpr fun hb => Bool.eq_false_iff.mp hab ?_
      exact trans a n b ha (by rwa [Cell.sameTuples_comm])
    have known : ((firsts keyOf n).map (groupOf keyOf n)).any
        (fun g => Cell.sameTuples g.key (keyOf n)) = !isFirst keyOf n := by
      rw [List.any_map]
      exact any_firsts trans n
    rw [ofRows_succ, ih, insert_eq_map apart, known, firsts_succ]
    -- the new row starts a class of its own, or it is listed last in the class of its key
    cases hfirst : isFirst keyOf n with
    | true =>
      have new : ∀ r < n, Cell.sameTuples (keyOf r) (keyOf n) = false := isFirst_iff.mp hfirst
      have none : rowsLike keyOf n n = [] := by
        rw [rowsLike, List.filter_eq_nil_iff]
        intro r hr
        rw [Cell.sameTuples_comm, new r (List.mem_range.mp hr)]
        exact Bool.false_ne_true
      rw [if_neg (by simp), if_pos rfl, List.map_append]
      congr 1
      · refine List.map_congr_left ?_
        intro r hr
        simp [groupOf, rowsLike_succ, new r (mem_firsts.mp hr).1]
      · simp [groupOf, rowsLike_succ, none]
    | false =>
      rw [if_pos (by simp), if_neg Bool.false_ne_true, List.append_nil, List.map_map]
      refine List.map_congr_left ?_
      intro r _
      cases hr : Cell.sameTuples (keyOf r) (keyOf n) <;> simp [groupOf, rowsLike_succ, hr, push]

end

end WindowQuery.KeyGroup
