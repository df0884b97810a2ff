import Std.Data.TreeMap
import WindowQuery.Cell.Fingerprint

/-!
# Grouping rows by key

Rows are grouped by a tuple of cells. Groups stand in order of their first rows and keep their
rows in order of arrival; a row joins the first group whose key is the same.

`KeyGroup.ofRows` says this with a search through all groups. `KeyIndex.ofRows` finds the group of
a row through its fingerprint, in a search tree, and looks only at the groups that share it. Both
give the same groups (`KeyIndex.toList_groups_ofRows`), because equal keys share their
fingerprint.
-/

namespace WindowQuery

/-- Rows that share their key. -/
structure KeyGroup where
  key : List Cell
  rows : Array Nat
deriving DecidableEq

namespace KeyGroup

/-- Adds a row at the end of a group. -/
def push (g : KeyGroup) (row : Nat) : KeyGroup := { g with rows := g.rows.push row }

/-- Adds a row to the first group whose key is the same, or to a new group at the end. -/
def insert (key : List Cell) (row : Nat) : List KeyGroup → List KeyGroup
  | [] => [⟨key, #[row]⟩]
  | g :: rest =>
    if Cell.sameTuples g.key key then g.push row :: rest else g :: insert key row rest

/-- The rows below a bound, grouped by key in order of first appearance. -/
def ofRows (keyOf : Nat → List Cell) (rows : Nat) : List KeyGroup :=
  (List.range rows).foldl (fun groups row => insert (keyOf row) row groups) []

/-- The row goes where a search for the key leads. -/
theorem insert_eq (key : List Cell) (row : Nat) (groups : List KeyGroup) :
    insert key row groups =
      match groups.findIdx? fun g => Cell.sameTuples g.key key with
      | some i => groups.modify i fun g => g.push row
      | none => groups ++ [⟨key, #[row]⟩] := by
  induction groups with
  | nil => rfl
  | cons g rest ih =>
    rw [insert, List.findIdx?_cons, ih]
    cases Cell.sameTuples g.key key with
    | true => simp
    | false => cases rest.findIdx? fun g => Cell.sameTuples g.key key <;> simp

end KeyGroup

/-- Groups of rows with a search tree over their fingerprints. -/
structure KeyIndex where
  /-- The places of the groups of each fingerprint, in order. -/
  places : Std.TreeMap (List Cell.Fingerprint) (List Nat) Cell.Fingerprint.orderTuples
  groups : Array KeyGroup

namespace KeyIndex

/-- No groups. -/
def empty : KeyIndex := ⟨∅, #[]⟩

/-- Whether the group at a place has the same key. -/
def hasKey (groups : Array KeyGroup) (key : List Cell) (place : Nat) : Bool :=
  groups[place]?.any fun g => Cell.sameTuples g.key key

/-- The place of the first group whose key is the same. -/
def find? (index : KeyIndex) (key : List Cell) : Option Nat :=
  (index.places.getD (Cell.fingerprints key) []).find? (hasKey index.groups key)

/-- Adds a row to the first group whose key is the same, or to a new group at the end. -/
def insert : KeyIndex → List Cell → Nat → KeyIndex
  | ⟨places, groups⟩, key, row =>
    let print := Cell.fingerprints key
    let known := places.getD print []
    match known.find? (hasKey groups key) with
    | some place => ⟨places, groups.modify place fun g => g.push row⟩
    | none => ⟨places.insert print (known ++ [groups.size]), groups.push ⟨key, #[row]⟩⟩

/-- An insertion searches first: a group that is found takes the row, else there is a new one. -/
theorem insert_eq (index : KeyIndex) (key : List Cell) (row : Nat) :
    index.insert key row =
      match index.find? key with
      | some place => { index with groups := index.groups.modify place fun g => g.push row }
      | none =>
        { places := index.places.insert (Cell.fingerprints key)
            (index.places.getD (Cell.fingerprints key) [] ++ [index.groups.size])
          groups := index.groups.push ⟨key, #[row]⟩ } := rfl

/-- The rows below a bound, grouped by key in order of first appearance. -/
def ofRows (keyOf : Nat → List Cell) (rows : Nat) : KeyIndex :=
  (List.range rows).foldl (fun index row => index.insert (keyOf row) row) empty

/-! ### Both ways of grouping agree -/

/-- Whether the group at a place has the fingerprint. -/
def hasPrint (groups : Array KeyGroup) (print : List Cell.Fingerprint) (place : Nat) : Bool :=
  groups[place]?.any fun g => decide (Cell.fingerprints g.key = print)

/-- The search tree lists exactly the places of the groups of each fingerprint. -/
def Sound (index : KeyIndex) : Prop :=
  ∀ print, index.places.getD print [] =
    (List.range index.groups.size).filter (hasPrint index.groups print)

theorem sound_empty : Sound empty := by
  intro print
  simp [empty]

/-- Equal keys have equal fingerprints, so a group is listed under that of its key. -/
theorem hasPrint_of_hasKey {groups : Array KeyGroup} {key : List Cell} {place : Nat}
    (h : hasKey groups key place = true) :
    hasPrint groups (Cell.fingerprints key) place = true := by
  unfold hasKey at h
  unfold hasPrint
  cases hg : groups[place]? with
  | none => simp [hg] at h
  | some g =>
    simp only [hg, Option.any_some] at h
    simp [Cell.fingerprints_eq_of_sameTuples h]

private theorem find?_range_eq_findIdx? (l : List α) (p : α → Bool) :
    (List.range l.length).find? (fun i => l[i]?.any p) = l.findIdx? p := by
  induction l with
  | nil => rfl
  | cons a l ih =>
    rw [List.length_cons, List.range_succ_eq_map, List.find?_cons, List.findIdx?_cons, ← ih,
      List.find?_map]
    have first : (a :: l)[0]?.any p = p a := rfl
    rw [first]
    cases p a with
    | true => rfl
    | false => rfl

/-- Looking only at the groups that share the fingerprint misses none. -/
theorem find?_eq {index : KeyIndex} (h : index.Sound) (key : List Cell) :
    index.find? key = index.groups.toList.findIdx? fun g => Cell.sameTuples g.key key := by
  rw [find?, h, List.find?_filter, ← find?_range_eq_findIdx?]
  congr 1
  funext place
  have := @hasPrint_of_hasKey index.groups key place
  grind [hasKey]

theorem toList_groups_insert {index : KeyIndex} (h : index.Sound) (key : List Cell) (row : Nat) :
    (index.insert key row).groups.toList = KeyGroup.insert key row index.groups.toList := by
  rw [KeyGroup.insert_eq, insert_eq, find?_eq h]
  cases index.groups.toList.findIdx? fun g => Cell.sameTuples g.key key <;> simp

/-- The listing by fingerprints stays sound. -/
theorem sound_insert {index : KeyIndex} (h : index.Sound) (key : List Cell) (row : Nat) :
    (index.insert key row).Sound := by
  rw [insert_eq]
  cases index.find? key with
  | some place =>
    intro print
    -- a row that joins a group leaves all keys as they are
    simp only [Array.size_modify]
    rw [h print]
    congr 1
    funext i
    simp only [hasPrint, Array.getElem?_modify]
    split
    · cases index.groups[i]? <;> simp [KeyGroup.push]
    · rfl
  | none =>
    intro print
    simp only [Std.TreeMap.getD_insert, Std.LawfulEqCmp.compare_eq_iff_eq, Array.size_push,
      List.range_succ, List.filter_append]
    -- a new group goes behind the others, which keep their places under every fingerprint
    have old : (List.range index.groups.size).filter
          (hasPrint (index.groups.push ⟨key, #[row]⟩) print) =
        index.places.getD print [] := by
      rw [h print]
      apply List.filter_congr
      intro i hi
      have : i ≠ index.groups.size := by simp at hi; omega
      simp [hasPrint, Array.getElem?_push, this]
    rw [old]
    split
    · subst print
      simp [hasPrint]
    · simp_all [hasPrint]

/-- **Both ways of grouping agree.** -/
theorem toList_groups_ofRows (keyOf : Nat → List Cell) (rows : Nat) :
    (ofRows keyOf rows).groups.toList = KeyGroup.ofRows keyOf rows := by
  suffices h : ∀ (rest : List Nat) (index : KeyIndex), index.Sound →
      (rest.foldl (fun index row => index.insert (keyOf row) row) index).groups.toList =
        rest.foldl (fun groups row => KeyGroup.insert (keyOf row) row groups)
          index.groups.toList from
    h _ empty sound_empty
  intro rest
  induction rest with
  | nil => exact fun _ _ => rfl
  | cons row rest ih =>
    intro index h
    rw [List.foldl_cons, ih _ (sound_insert h _ _), toList_groups_insert h, List.foldl_cons]

end KeyIndex

end WindowQuery
