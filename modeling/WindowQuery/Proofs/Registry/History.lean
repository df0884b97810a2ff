import Mathlib.Data.List.Nodup
import Mathlib.Data.String.Basic
import WindowQuery.Catalog

/-!
# The history of a registry

A registry is asked in five ways: whether a name is there, what it says about the name, what it
builds under the name, which names there are, and which of them have a class. All five answers come
from the latest registration under the name asked for (`Registry.answers_registerAll`), since one
registration changes what is found under its own key and nothing else
(`Registry.getElem?_entries_register`).
-/

namespace WindowQuery

variable {φ : Type}

/-! ### The latest registration -/

namespace Registration

/-- The latest registration of a history that is found under a key. -/
def latest? (history : List (Registration φ)) (key : String) : Option (Registration φ) :=
  history.reverse.find? fun r => r.key = key

variable {history : List (Registration φ)} {key : String} {r : Registration φ}

theorem latest?_append (history later : List (Registration φ)) (key : String) :
    latest? (history ++ later) key = (latest? later key).or (latest? history key) := by
  simp [latest?]

theorem latest?_cons (r : Registration φ) (later : List (Registration φ)) (key : String) :
    latest? (r :: later) key = (latest? later key).or (if r.key = key then some r else none) := by
  have one : latest? [r] key = if r.key = key then some r else none := by
    by_cases h : r.key = key <;> simp [latest?, h]
  rw [← one, ← latest?_append, List.singleton_append]

theorem isSome_latest?_iff :
    (latest? history key).isSome = true ↔ ∃ r ∈ history, r.key = key := by
  simp [latest?]

theorem mem_of_latest? (h : latest? history key = some r) : r ∈ history ∧ r.key = key :=
  ⟨List.mem_reverse.mp (List.mem_of_find?_eq_some h), by simpa using List.find?_some h⟩

/-- With one registration under each key, that one is the latest. -/
theorem latest?_eq_some_iff (nodup : (history.map Registration.key).Nodup) :
    latest? history key = some r ↔ r ∈ history ∧ r.key = key := by
  refine ⟨mem_of_latest?, ?_⟩
  rintro ⟨hr, rfl⟩
  obtain ⟨r', found⟩ := Option.isSome_iff_exists.mp (isSome_latest?_iff.mpr ⟨r, hr, rfl⟩)
  obtain ⟨hr', hkey⟩ := mem_of_latest? found
  rw [found, List.inj_on_of_nodup_map nodup hr' hr hkey]

end Registration

open Registration

namespace Registry

/-! ### One registration -/

/-- **A registration** is found under its key, and what is found under other keys stays. -/
theorem getElem?_entries_register (c : Registry φ) (r : Registration φ) (key : String) :
    (c.register r.info r.build).entries[key]? =
      if r.key = key then some r else c.entries[key]? := by
  rw [register, Std.TreeMap.getElem?_insert]
  simp only [Std.LawfulEqCmp.compare_eq_iff_eq]
  rfl

/-- **Registrations** one after the other leave the latest under each key. -/
theorem getElem?_entries_registerAll (c : Registry φ) (later : List (Registration φ))
    (key : String) :
    (c.registerAll later).entries[key]? = (latest? later key).or c.entries[key]? := by
  induction later generalizing c with
  | nil => rfl
  | cons r rest ih =>
    have first : c.registerAll (r :: rest) = (c.register r.info r.build).registerAll rest := rfl
    rw [first, ih, getElem?_entries_register, latest?_cons, Option.or_assoc]
    by_cases h : r.key = key <;> simp [h]

theorem registerAll_append (c : Registry φ) (earlier later : List (Registration φ)) :
    c.registerAll (earlier ++ later) = (c.registerAll earlier).registerAll later :=
  List.foldl_append

/-! ### The questions -/

/-- A registry **holds** a history when the latest registration under each key is found there. -/
def Holds (c : Registry φ) (history : List (Registration φ)) : Prop :=
  ∀ key, c.entries[key]? = latest? history key

theorem holds_registerAll (history : List (Registration φ)) :
    (empty.registerAll history).Holds history := fun key => by
  have nothing : (empty : Registry φ).entries[key]? = none := Std.TreeMap.getElem?_emptyc
  rw [getElem?_entries_registerAll, nothing, Option.or_none]

theorem names_pairwise (c : Registry φ) : c.names.Pairwise (· < ·) :=
  c.entries.ordered_keys.imp compare_lt_iff_lt.mp

theorem map_fst_toList (c : Registry φ) : c.entries.toList.map Prod.fst = c.names :=
  c.entries.map_fst_toList_eq_keys

theorem namesOf_sublist (c : Registry φ) (functionClass : FunctionClass) :
    (c.namesOf functionClass).Sublist c.names := by
  rw [← c.map_fst_toList]
  exact List.filter_sublist.map Prod.fst

theorem mem_namesOf_iff {c : Registry φ} {functionClass : FunctionClass} {key : String} :
    key ∈ c.namesOf functionClass ↔
      ∃ r, c.entries[key]? = some r ∧ r.info.functionClass = functionClass := by
  simp [namesOf, Std.TreeMap.mem_toList_iff_getElem?_eq_some]

theorem mem_names_iff {c : Registry φ} {key : String} :
    key ∈ c.names ↔ c.entries[key]?.isSome = true := by
  rw [names, Std.TreeMap.mem_keys, Std.TreeMap.isSome_getElem?_iff_mem]

theorem contains_iff {c : Registry φ} {name : String} :
    c.contains name = true ↔ (c.entry? name).isSome = true := by
  rw [contains, entry?, Std.TreeMap.isSome_getElem?_eq_contains]

/-- No name is listed under both classes. -/
theorem disjoint_namesOf (c : Registry φ) :
    (c.namesOf .aggregate).Disjoint (c.namesOf .window) := by
  intro key haggregate hwindow
  obtain ⟨r, found, hr⟩ := mem_namesOf_iff.mp haggregate
  obtain ⟨r', found', hr'⟩ := mem_namesOf_iff.mp hwindow
  obtain rfl := Option.some.inj (found.symm.trans found')
  cases hr.symm.trans hr'

/-- Every name is listed under one of the two classes. -/
theorem namesOf_append_perm (c : Registry φ) :
    (c.namesOf .aggregate ++ c.namesOf .window).Perm c.names := by
  have nodup : c.names.Nodup := c.names_pairwise.imp ne_of_lt
  have nodupOf functionClass : (c.namesOf functionClass).Nodup :=
    nodup.sublist (c.namesOf_sublist functionClass)
  refine (List.perm_ext_iff_of_nodup ?_ nodup).mpr fun key => ?_
  · exact List.nodup_append'.mpr ⟨nodupOf .aggregate, nodupOf .window, c.disjoint_namesOf⟩
  · rw [List.mem_append, mem_namesOf_iff, mem_namesOf_iff, mem_names_iff, Option.isSome_iff_exists]
    constructor
    · rintro (⟨r, found, -⟩ | ⟨r, found, -⟩) <;> exact ⟨r, found⟩
    · rintro ⟨r, found⟩
      cases hclass : r.info.functionClass with
      | aggregate => exact .inl ⟨r, found, hclass⟩
      | window => exact .inr ⟨r, found, hclass⟩

/-- What is asked of a registry is **answered** by a history: by its latest registration under the
name, in lower case, that is asked for. -/
structure Answers (c : Registry φ) (history : List (Registration φ)) : Prop where
  contains_iff name : c.contains name = true ↔ ∃ r ∈ history, r.key = Text.lower name
  isSome_info? name : (c.info? name).isSome = c.contains name
  isSome_entry? name : (c.entry? name).isSome = c.contains name
  info?_eq name : c.info? name = (latest? history (Text.lower name)).map Registration.info
  create_eq name arguments : c.create name arguments =
    match latest? history (Text.lower name) with
    | none => .error (.invalidArgument (.unknownFunction name))
    | some r =>
      match r.info.arity.misuse? arguments.length with
      | some cause => .error (.invalidArgument (.inCall r.info.name cause))
      | none => r.build arguments
  names_increasing : c.names.Pairwise (· < ·)
  mem_names key : key ∈ c.names ↔ ∃ r ∈ history, r.key = key
  namesOf_increasing functionClass : (c.namesOf functionClass).Pairwise (· < ·)
  mem_namesOf functionClass key : key ∈ c.namesOf functionClass ↔
    ∃ r, latest? history key = some r ∧ r.info.functionClass = functionClass
  disjoint : (c.namesOf .aggregate).Disjoint (c.namesOf .window)
  together : (c.namesOf .aggregate ++ c.namesOf .window).Perm c.names

/-- What holds a history answers for it. -/
theorem Holds.answers {c : Registry φ} {history : List (Registration φ)} (h : c.Holds history) :
    c.Answers history where
  contains_iff name := by
    rw [Registry.contains_iff, entry?, h, isSome_latest?_iff]
  isSome_info? name := by
    rw [info?, Option.isSome_map, Bool.eq_iff_iff, Registry.contains_iff]
  isSome_entry? name := by
    rw [Bool.eq_iff_iff, Registry.contains_iff]
  info?_eq name := by rw [info?, entry?, h]
  create_eq name arguments := by
    rw [create, entry?, h]
    rfl
  names_increasing := c.names_pairwise
  mem_names key := by rw [mem_names_iff, h, isSome_latest?_iff]
  namesOf_increasing functionClass := c.names_pairwise.sublist (c.namesOf_sublist functionClass)
  mem_namesOf functionClass key := by rw [mem_namesOf_iff, h]
  disjoint := c.disjoint_namesOf
  together := c.namesOf_append_perm

/-- **A registry after any registrations**, made from nothing or on top of the library, is answered
for by all of them, the last one under a name before the others. -/
theorem answers_registerAll :
    (∀ (φ : Type) (history : List (Registration φ)),
      (empty.registerAll history).Answers history) ∧
    ∀ later : List (Registration Function),
      (Catalog.builtin.registerAll later).Answers (Catalog.library ++ later) := by
  refine ⟨fun φ history => (holds_registerAll history).answers, fun later => ?_⟩
  have whole : Catalog.builtin.registerAll later =
      empty.registerAll (Catalog.library ++ later) := (registerAll_append ..).symm
  rw [whole]
  exact (holds_registerAll _).answers

end Registry

end WindowQuery
