import WindowQuery.Expression
import WindowQuery.Proofs.Registry.History
import WindowQuery.Proofs.Steps

/-!
# The grammar of the catalog

`Catalog.Spells` lists the calls that there are: for each name in lower case the arguments it takes
and the function they make. The catalog builds exactly these (`Catalog.create_spells`). What it
refuses it refuses as a wrong argument, and what it builds can be evaluated over any window that
can.

A registration checks the number of arguments before its builder reads them. A call therefore
succeeds when both accept it, and the lemmas about single registrations (`call_ofColumn` and so on)
find the argument lists on which they agree.
-/

namespace WindowQuery

/-! ### Numbers of arguments -/

theorem Arity.misuse?_eq_none_iff {a : Arity} {count : Nat} :
    a.misuse? count = none ↔ a.least ≤ count ∧ count ≤ a.most := by
  unfold misuse?
  split_ifs with few many
  · exact iff_of_false nofun fun h => absurd few (Nat.not_lt.mpr h.1)
  · exact iff_of_false nofun fun h => absurd many (Nat.not_lt.mpr h.2)
  · exact iff_of_true rfl ⟨Nat.not_lt.mp few, Nat.not_lt.mp many⟩

section

variable {φ : Type} {r : Registration φ} {arguments : List Cell}

/-- **A call** succeeds when there are as many arguments as there should be and the builder takes
them. -/
theorem Registration.call_eq_ok_iff {least most : Nat} (h : r.info.arity = ⟨least, most⟩)
    {built : φ} :
    r.call arguments = .ok built ↔
      least ≤ arguments.length ∧ arguments.length ≤ most ∧ r.build arguments = .ok built := by
  have counted : (Arity.mk least most).misuse? arguments.length = none ↔
      least ≤ arguments.length ∧ arguments.length ≤ most := Arity.misuse?_eq_none_iff
  rw [← and_assoc, ← counted, call, h]
  cases (Arity.mk least most).misuse? arguments.length <;> simp

theorem Registration.call_eq_ok_iff_length {k : Nat} (h : r.info.arity = ⟨k, k⟩) {built : φ} :
    r.call arguments = .ok built ↔ arguments.length = k ∧ r.build arguments = .ok built := by
  have exact : k ≤ arguments.length ∧ arguments.length ≤ k ↔ arguments.length = k := by omega
  rw [call_eq_ok_iff h, ← and_assoc, exact]

/-- An error about an argument. -/
def QueryError.IsMisuse (err : QueryError) : Prop := ∃ cause, err = .invalidArgument cause

@[simp] theorem QueryError.isMisuse_invalidArgument (cause : Misuse) :
    (invalidArgument cause).IsMisuse := ⟨cause, rfl⟩

theorem Registration.failsOnly_call (h : FailsOnly QueryError.IsMisuse (r.build arguments)) :
    FailsOnly QueryError.IsMisuse (r.call arguments) := by
  rw [call]
  cases r.info.arity.misuse? arguments.length with
  | none => exact h
  | some cause => simp

end

namespace Catalog

variable {name column : String} {arguments : List Cell} {i default n : Nat} {fn : Function}

/-! ### Reading arguments -/

theorem columnArgument_eq_ok_iff :
    columnArgument name arguments i = .ok column ↔ arguments[i]? = some (.text column) := by
  unfold columnArgument
  split <;> simp_all

theorem failsOnly_columnArgument :
    FailsOnly QueryError.IsMisuse (columnArgument name arguments i) := by
  unfold columnArgument
  split <;> simp

/-- A count that is given has to be an integer from zero on. -/
theorem countArgument_eq_ok_iff {given : Cell} (h : arguments[i]? = some given) :
    countArgument name arguments i default = .ok n ↔
      ∃ value : Int64, given = .int value ∧ 0 ≤ value.toInt ∧ value.toInt.toNat = n := by
  rw [countArgument, h]
  cases given with
  | int value => by_cases hvalue : 0 ≤ value.toInt <;> simp [hvalue]
  | _ => simp

theorem failsOnly_countArgument :
    FailsOnly QueryError.IsMisuse (countArgument name arguments i default) := by
  unfold countArgument
  split
  · simp
  · split_ifs <;> simp
  · simp

/-! ### The grammar -/

/-- The arguments of `lag` and `lead`, and the column, the offset and the default they stand for. -/
inductive ShiftArguments : List Cell → String → Nat → Cell → Prop
  | column (column : String) : ShiftArguments [.text column] column 1 .null
  | offset (column : String) (rows : Int64) (h : 0 ≤ rows.toInt) :
    ShiftArguments [.text column, .int rows] column rows.toInt.toNat .null
  | default (column : String) (rows : Int64) (h : 0 ≤ rows.toInt) (default : Cell) :
    ShiftArguments [.text column, .int rows, default] column rows.toInt.toNat default

/-- **The grammar of calls.** A lower-case name with arguments spells a function. -/
inductive Spells : String → List Cell → Function → Prop
  | sum (column : String) : Spells "sum" [.text column] (.aggregate .sum column)
  | avg (column : String) : Spells "avg" [.text column] (.aggregate .avg column)
  | min (column : String) : Spells "min" [.text column] (.aggregate .min column)
  | max (column : String) : Spells "max" [.text column] (.aggregate .max column)
  | countRows : Spells "count" [] .countRows
  | countStar : Spells "count" [.text "*"] .countRows
  | count (column : String) (h : column ≠ "*") : Spells "count" [.text column] (.count column)
  | lag {arguments : List Cell} {column : String} {offset : Nat} {default : Cell}
    (h : ShiftArguments arguments column offset default) :
    Spells "lag" arguments (.lag column offset default)
  | lead {arguments : List Cell} {column : String} {offset : Nat} {default : Cell}
    (h : ShiftArguments arguments column offset default) :
    Spells "lead" arguments (.lead column offset default)
  | firstValue (column : String) : Spells "first_value" [.text column] (.firstValue column)
  | lastValue (column : String) : Spells "last_value" [.text column] (.lastValue column)
  | nthValue (column : String) (place : Int64) (h : 1 ≤ place.toInt) :
    Spells "nth_value" [.text column, .int place] (.nthValue column place.toInt.toNat)
  | rowNumber : Spells "row_number" [] .rowNumber
  | rank : Spells "rank" [] (.ranking .rank)
  | denseRank : Spells "dense_rank" [] (.ranking .denseRank)
  | percentRank : Spells "percent_rank" [] (.ranking .percentRank)
  | cumeDist : Spells "cume_dist" [] (.ranking .cumeDist)
  | ntile (buckets : Int64) (h : 1 ≤ buckets.toInt) :
    Spells "ntile" [.int buckets] (.ntile buckets.toInt.toNat)

/-! ### Single registrations -/

/-- Such a function takes one column name. -/
theorem call_ofColumn {make : String → Function} (h : (make "x").info.arity = ⟨1, 1⟩) :
    (ofColumn make).call arguments = .ok fn ↔
      ∃ column, arguments = [.text column] ∧ make column = fn := by
  rw [Registration.call_eq_ok_iff_length h, List.length_eq_one_iff]
  constructor
  · rintro ⟨⟨given, rfl⟩, hbuild⟩
    obtain ⟨column, hcolumn, hmake⟩ := bind_eq_ok.mp hbuild
    obtain rfl := Option.some.inj (columnArgument_eq_ok_iff.mp hcolumn)
    exact ⟨column, rfl, Except.ok.inj hmake⟩
  · rintro ⟨column, rfl, rfl⟩
    exact ⟨⟨_, rfl⟩, rfl⟩

/-- Such a function takes no argument. -/
theorem call_ofNothing {function : Function} (h : function.info.arity = ⟨0, 0⟩) :
    (ofNothing function).call arguments = .ok fn ↔ arguments = [] ∧ function = fn := by
  have build : (ofNothing function).build arguments = .ok function := rfl
  rw [Registration.call_eq_ok_iff_length h, List.length_eq_zero_iff, build, Except.ok.injEq]

/-- `count` counts rows without an argument and for a star, and else the cells of a column. -/
theorem call_count :
    count.call arguments = .ok fn ↔
      (arguments = [] ∨ arguments = [.text "*"]) ∧ Function.countRows = fn ∨
        ∃ column, column ≠ "*" ∧ arguments = [.text column] ∧ Function.count column = fn := by
  have arity : count.info.arity = ⟨0, 1⟩ := rfl
  rw [Registration.call_eq_ok_iff arity]
  constructor
  · rintro ⟨-, hmost, hbuild⟩
    -- at most one argument is left, and a star is the only one that is no column
    match arguments with
    | [] => exact .inl ⟨.inl rfl, Except.ok.inj hbuild⟩
    | [given] =>
      dsimp only [count] at hbuild
      split at hbuild
      case h_1 hnone => cases hnone
      case h_2 hstar =>
        cases hstar
        exact .inl ⟨.inr rfl, Except.ok.inj hbuild⟩
      case h_3 hother =>
        obtain ⟨column, hcolumn, hmake⟩ := bind_eq_ok.mp hbuild
        obtain rfl := Option.some.inj (columnArgument_eq_ok_iff.mp hcolumn)
        refine .inr ⟨column, ?_, rfl, Except.ok.inj hmake⟩
        rintro rfl
        exact hother [] rfl
    | _ :: _ :: _ =>
      simp only [List.length_cons] at hmost
      omega
  · rintro (⟨rfl | rfl, rfl⟩ | ⟨column, hcolumn, rfl, rfl⟩)
    · exact ⟨by decide, by decide, rfl⟩
    · exact ⟨by decide, by decide, rfl⟩
    · refine ⟨Nat.zero_le _, Nat.le_refl 1, ?_⟩
      simp [count, hcolumn, columnArgument]

/-- A shift takes a column name, an offset and a default. The last two may be left out. -/
theorem call_ofShift {make : String → Nat → Cell → Function}
    (h : (make "x" 1 .null).info.arity = ⟨1, 3⟩) :
    (ofShift make).call arguments = .ok fn ↔
      ∃ column offset default, ShiftArguments arguments column offset default ∧
        make column offset default = fn := by
  rw [Registration.call_eq_ok_iff h]
  constructor
  · rintro ⟨hleast, hmost, hbuild⟩
    obtain ⟨column, hcolumn, hbuild⟩ := bind_eq_ok.mp hbuild
    obtain ⟨offset, hoffset, hmake⟩ := bind_eq_ok.mp hbuild
    rw [columnArgument_eq_ok_iff] at hcolumn
    have hfn := Except.ok.inj hmake
    -- one case for each number of arguments, as defaults stand in for those that are missing
    match arguments with
    | [] => cases hcolumn
    | [_] =>
      cases hcolumn
      cases hoffset
      exact ⟨column, 1, .null, .column column, hfn⟩
    | [_, given] =>
      cases hcolumn
      obtain ⟨rows, rfl, hrows, rfl⟩ := (countArgument_eq_ok_iff rfl).mp hoffset
      exact ⟨column, _, .null, .offset column rows hrows, hfn⟩
    | [_, given, default] =>
      cases hcolumn
      obtain ⟨rows, rfl, hrows, rfl⟩ := (countArgument_eq_ok_iff rfl).mp hoffset
      exact ⟨column, _, default, .default column rows hrows default, hfn⟩
    | _ :: _ :: _ :: _ :: _ =>
      simp only [List.length_cons] at hmost
      omega
  · rintro ⟨column, offset, default, hspells, rfl⟩
    cases hspells with
    | column => exact ⟨by simp, by simp, rfl⟩
    | offset column rows hrows =>
      refine ⟨by simp, by simp, ?_⟩
      exact bind_eq_ok.mpr ⟨column, rfl, bind_eq_ok.mpr
        ⟨_, (countArgument_eq_ok_iff rfl).mpr ⟨rows, rfl, hrows, rfl⟩, rfl⟩⟩
    | default column rows hrows default =>
      refine ⟨by simp, by simp, ?_⟩
      exact bind_eq_ok.mpr ⟨column, rfl, bind_eq_ok.mpr
        ⟨_, (countArgument_eq_ok_iff rfl).mpr ⟨rows, rfl, hrows, rfl⟩, rfl⟩⟩

/-- `nth_value` takes a column name and a place from one on. -/
theorem call_nthValue :
    nthValue.call arguments = .ok fn ↔
      ∃ (column : String) (place : Int64), 1 ≤ place.toInt ∧
        arguments = [.text column, .int place] ∧
        Function.nthValue column place.toInt.toNat = fn := by
  have arity : nthValue.info.arity = ⟨2, 2⟩ := rfl
  rw [Registration.call_eq_ok_iff_length arity, List.length_eq_two]
  constructor
  · rintro ⟨⟨first, given, rfl⟩, hbuild⟩
    obtain ⟨column, hcolumn, hbuild⟩ := bind_eq_ok.mp hbuild
    obtain ⟨place, hplace, hmake⟩ := bind_eq_ok.mp hbuild
    obtain rfl := Option.some.inj (columnArgument_eq_ok_iff.mp hcolumn)
    obtain ⟨value, rfl, hvalue, rfl⟩ := (countArgument_eq_ok_iff rfl).mp hplace
    split_ifs at hmake with hzero
    exact ⟨column, value, by omega, rfl, Except.ok.inj hmake⟩
  · rintro ⟨column, place, hplace, rfl, rfl⟩
    refine ⟨⟨_, _, rfl⟩, bind_eq_ok.mpr ⟨column, rfl, bind_eq_ok.mpr
      ⟨_, (countArgument_eq_ok_iff rfl).mpr ⟨place, rfl, by omega, rfl⟩, ?_⟩⟩⟩
    exact if_neg (by omega)

/-- `ntile` takes a number of buckets from one on. -/
theorem call_ntile :
    ntile.call arguments = .ok fn ↔
      ∃ buckets : Int64, 1 ≤ buckets.toInt ∧ arguments = [.int buckets] ∧
        Function.ntile buckets.toInt.toNat = fn := by
  have arity : ntile.info.arity = ⟨1, 1⟩ := rfl
  rw [Registration.call_eq_ok_iff_length arity, List.length_eq_one_iff]
  constructor
  · rintro ⟨⟨given, rfl⟩, hbuild⟩
    obtain ⟨buckets, hbuckets, hmake⟩ := bind_eq_ok.mp hbuild
    obtain ⟨value, rfl, hvalue, rfl⟩ := (countArgument_eq_ok_iff rfl).mp hbuckets
    split_ifs at hmake with hzero
    exact ⟨value, by omega, rfl, Except.ok.inj hmake⟩
  · rintro ⟨buckets, hbuckets, rfl, rfl⟩
    refine ⟨⟨_, rfl⟩, bind_eq_ok.mpr
      ⟨_, (countArgument_eq_ok_iff rfl).mpr ⟨buckets, rfl, by omega, rfl⟩, ?_⟩⟩
    exact if_neg (by omega)

/-! ### The library -/

/-- The keys are the names, which are in lower case, and no two registrations share one. -/
theorem map_key_library : library.map Registration.key = library.map (·.info.name) := by decide

theorem nodup_key_library : (library.map Registration.key).Nodup := by decide

theorem key_eq_of_mem : ∀ r ∈ library, r.key = r.info.name := List.map_inj_left.mp map_key_library

/-- What the grammar spells is built by a registration of its name. -/
theorem exists_call_of_spells {key : String} (h : Spells key arguments fn) :
    ∃ r ∈ library, r.info.name = key ∧ r.call arguments = .ok fn := by
  have withColumn make (hr : ofColumn make ∈ library) (harity : (make "x").info.arity = ⟨1, 1⟩)
      (column : String) : ∃ r ∈ library, r.info.name = (make "x").info.name ∧
        r.call [.text column] = .ok (make column) :=
    ⟨_, hr, rfl, (call_ofColumn harity).mpr ⟨column, rfl, rfl⟩⟩
  have alone function (hr : ofNothing function ∈ library)
      (harity : function.info.arity = ⟨0, 0⟩) :
      ∃ r ∈ library, r.info.name = function.info.name ∧ r.call [] = .ok function :=
    ⟨_, hr, rfl, (call_ofNothing harity).mpr ⟨rfl, rfl⟩⟩
  -- a rule of the grammar belongs to one registration
  cases h with
  | sum column => exact withColumn (.aggregate .sum) (by simp [library]) rfl column
  | avg column => exact withColumn (.aggregate .avg) (by simp [library]) rfl column
  | min column => exact withColumn (.aggregate .min) (by simp [library]) rfl column
  | max column => exact withColumn (.aggregate .max) (by simp [library]) rfl column
  | countRows => exact ⟨count, by simp [library], rfl, call_count.mpr (.inl ⟨.inl rfl, rfl⟩)⟩
  | countStar => exact ⟨count, by simp [library], rfl, call_count.mpr (.inl ⟨.inr rfl, rfl⟩)⟩
  | count column hcolumn =>
    exact ⟨count, by simp [library], rfl, call_count.mpr (.inr ⟨column, hcolumn, rfl, rfl⟩)⟩
  | lag hspells =>
    exact ⟨ofShift .lag, by simp [library], rfl, (call_ofShift rfl).mpr ⟨_, _, _, hspells, rfl⟩⟩
  | lead hspells =>
    exact ⟨ofShift .lead, by simp [library], rfl, (call_ofShift rfl).mpr ⟨_, _, _, hspells, rfl⟩⟩
  | firstValue column => exact withColumn .firstValue (by simp [library]) rfl column
  | lastValue column => exact withColumn .lastValue (by simp [library]) rfl column
  | nthValue column place hplace =>
    exact ⟨nthValue, by simp [library], rfl, call_nthValue.mpr ⟨column, place, hplace, rfl, rfl⟩⟩
  | rowNumber => exact alone .rowNumber (by simp [library]) rfl
  | rank => exact alone (.ranking .rank) (by simp [library]) rfl
  | denseRank => exact alone (.ranking .denseRank) (by simp [library]) rfl
  | percentRank => exact alone (.ranking .percentRank) (by simp [library]) rfl
  | cumeDist => exact alone (.ranking .cumeDist) (by simp [library]) rfl
  | ntile buckets hbuckets =>
    exact ⟨ntile, by simp [library], rfl, call_ntile.mpr ⟨buckets, hbuckets, rfl, rfl⟩⟩

/-- What a registration builds is spelt by the grammar under its name. -/
theorem spells_of_mem {r : Registration Function} (hr : r ∈ library)
    (hcall : r.call arguments = .ok fn) : Spells r.info.name arguments fn := by
  simp only [library, List.mem_cons, List.not_mem_nil, or_false] at hr
  -- the registrations in their order, each with what its builder accepts
  rcases hr with rfl | rfl | rfl | rfl | rfl | rfl | rfl | rfl | rfl | rfl | rfl | rfl | rfl |
    rfl | rfl | rfl
  · obtain ⟨column, rfl, rfl⟩ := (call_ofColumn rfl).mp hcall
    exact .sum column
  · obtain ⟨column, rfl, rfl⟩ := (call_ofColumn rfl).mp hcall
    exact .avg column
  · obtain ⟨column, rfl, rfl⟩ := (call_ofColumn rfl).mp hcall
    exact .min column
  · obtain ⟨column, rfl, rfl⟩ := (call_ofColumn rfl).mp hcall
    exact .max column
  · rcases call_count.mp hcall with ⟨rfl | rfl, rfl⟩ | ⟨column, hcolumn, rfl, rfl⟩
    · exact .countRows
    · exact .countStar
    · exact .count column hcolumn
  · obtain ⟨column, offset, default, hspells, rfl⟩ := (call_ofShift rfl).mp hcall
    exact .lag hspells
  · obtain ⟨column, offset, default, hspells, rfl⟩ := (call_ofShift rfl).mp hcall
    exact .lead hspells
  · obtain ⟨column, rfl, rfl⟩ := (call_ofColumn rfl).mp hcall
    exact .firstValue column
  · obtain ⟨column, rfl, rfl⟩ := (call_ofColumn rfl).mp hcall
    exact .lastValue column
  · obtain ⟨column, place, hplace, rfl, rfl⟩ := call_nthValue.mp hcall
    exact .nthValue column place hplace
  · obtain ⟨rfl, rfl⟩ := (call_ofNothing rfl).mp hcall
    exact .rowNumber
  · obtain ⟨rfl, rfl⟩ := (call_ofNothing rfl).mp hcall
    exact .rank
  · obtain ⟨rfl, rfl⟩ := (call_ofNothing rfl).mp hcall
    exact .denseRank
  · obtain ⟨rfl, rfl⟩ := (call_ofNothing rfl).mp hcall
    exact .percentRank
  · obtain ⟨rfl, rfl⟩ := (call_ofNothing rfl).mp hcall
    exact .cumeDist
  · obtain ⟨buckets, hbuckets, rfl, rfl⟩ := call_ntile.mp hcall
    exact .ntile buckets hbuckets

/-- The grammar is that of the library, taken registration by registration. -/
theorem spells_iff {key : String} :
    Spells key arguments fn ↔ ∃ r ∈ library, r.key = key ∧ r.call arguments = .ok fn := by
  constructor
  · intro h
    obtain ⟨r, hr, hname, hcall⟩ := exists_call_of_spells h
    exact ⟨r, hr, (key_eq_of_mem r hr).trans hname, hcall⟩
  · rintro ⟨r, hr, rfl, hcall⟩
    rw [key_eq_of_mem r hr]
    exact spells_of_mem hr hcall

/-- Every builder of the library refuses its arguments as misuse or accepts them. -/
theorem failsOnly_build : ∀ r ∈ library, ∀ arguments,
    FailsOnly QueryError.IsMisuse (r.build arguments) := by
  have column make arguments : FailsOnly QueryError.IsMisuse ((ofColumn make).build arguments) :=
    failsOnly_columnArgument.bind fun _ => failsOnly_ok _
  have nothing function arguments :
      FailsOnly QueryError.IsMisuse ((ofNothing function).build arguments) := failsOnly_ok _
  have shift make arguments : FailsOnly QueryError.IsMisuse ((ofShift make).build arguments) :=
    failsOnly_columnArgument.bind fun _ => failsOnly_countArgument.bind fun _ => failsOnly_ok _
  have count arguments : FailsOnly QueryError.IsMisuse (count.build arguments) := by
    dsimp only [Catalog.count]
    split
    · exact failsOnly_ok _
    · exact failsOnly_ok _
    · exact failsOnly_columnArgument.bind fun _ => failsOnly_ok _
  have nthValue arguments : FailsOnly QueryError.IsMisuse (nthValue.build arguments) := by
    refine failsOnly_columnArgument.bind fun _ => failsOnly_countArgument.bind fun _ => ?_
    split_ifs <;> simp
  have ntile arguments : FailsOnly QueryError.IsMisuse (ntile.build arguments) := by
    refine failsOnly_countArgument.bind fun _ => ?_
    split_ifs <;> simp
  simp [library, column, nothing, shift, count, nthValue, ntile]

/-! ### Functions that are spelt -/

namespace Spells

variable {key : String} (h : Spells key arguments fn)
include h

theorem name_eq : fn.name = key := by cases h <;> rfl

theorem check_eq : fn.check = .ok () := by
  cases h with
  | nthValue column place hplace =>
    obtain ⟨n, hn⟩ : ∃ n, place.toInt.toNat = n + 1 := ⟨place.toInt.toNat - 1, by omega⟩
    rw [hn]
    rfl
  | ntile buckets hbuckets =>
    obtain ⟨n, hn⟩ : ∃ n, buckets.toInt.toNat = n + 1 := ⟨buckets.toInt.toNat - 1, by omega⟩
    rw [hn]
    rfl
  | _ => rfl

theorem inputColumn?_eq : fn.inputColumn? =
    if key = "count" ∧ arguments = [.text "*"] then none
    else arguments.head?.bind Cell.text? := by
  cases h with
  | count column hcolumn => simp [Function.inputColumn?, Cell.text?, hcolumn]
  | lag h => cases h <;> rfl
  | lead h => cases h <;> rfl
  | _ => rfl

end Spells

/-! ### Calls of the catalog -/

theorem entry?_builtin (name : String) :
    builtin.entry? name = Registration.latest? library (Text.lower name) :=
  Registry.holds_registerAll library (Text.lower name)

/-- The catalog builds what the grammar spells, in any letter case of the name. -/
theorem create_eq_ok_iff :
    builtin.create name arguments = .ok fn ↔ Spells (Text.lower name) arguments fn := by
  rw [Registry.create, entry?_builtin, spells_iff]
  cases found : Registration.latest? library (Text.lower name) with
  | none =>
    refine iff_of_false (by simp) ?_
    rintro ⟨r, hr, hkey, -⟩
    have registered := (Registration.latest?_eq_some_iff nodup_key_library).mpr ⟨hr, hkey⟩
    cases found.symm.trans registered
  | some r =>
    constructor
    · intro hcall
      obtain ⟨hr, hkey⟩ := Registration.mem_of_latest? found
      exact ⟨r, hr, hkey, hcall⟩
    · rintro ⟨r', hr', hkey, hcall⟩
      have registered := (Registration.latest?_eq_some_iff nodup_key_library).mpr ⟨hr', hkey⟩
      obtain rfl := Option.some.inj (found.symm.trans registered)
      exact hcall

/-- The catalog refuses a call as misuse or accepts it. -/
theorem failsOnly_create : FailsOnly QueryError.IsMisuse (builtin.create name arguments) := by
  rw [Registry.create, entry?_builtin]
  cases found : Registration.latest? library (Text.lower name) with
  | none => simp
  | some r =>
    have hr := (Registration.mem_of_latest? found).1
    exact Registration.failsOnly_call (failsOnly_build r hr arguments)

/-- **The catalog builds** exactly what its grammar spells: a function that has the name in lower
case, reads the column given, and passes its check whatever the window. Every other call is refused
as a wrong argument. -/
theorem create_spells (name : String) (arguments : List Cell) :
    (∀ fn, builtin.create name arguments = .ok fn ↔ Spells (Text.lower name) arguments fn) ∧
    (∀ fn, builtin.create name arguments = .ok fn →
      fn.name = Text.lower name ∧
      fn.inputColumn? =
        (if Text.lower name = "count" ∧ arguments = [.text "*"] then none
          else arguments.head?.bind Cell.text?) ∧
      fn.check = .ok () ∧
      ∀ window alias?, (Expression.mk fn window alias?).check = window.check) ∧
    ((∃ fn, Spells (Text.lower name) arguments fn) ∨
      ∃ cause, builtin.create name arguments = .error (.invalidArgument cause)) := by
  refine ⟨fun fn => create_eq_ok_iff, fun fn built => ?_, ?_⟩
  · have spelt := create_eq_ok_iff.mp built
    refine ⟨spelt.name_eq, spelt.inputColumn?_eq, spelt.check_eq, fun window alias? => ?_⟩
    rw [Expression.check, spelt.check_eq]
    cases window.check <;> rfl
  · cases built : builtin.create name arguments with
    | ok fn => exact .inl ⟨fn, create_eq_ok_iff.mp built⟩
    | error err =>
      obtain ⟨cause, rfl⟩ := failsOnly_create err built
      exact .inr ⟨cause, rfl⟩

/-- A call in capitals that gives an offset and leaves the default out. -/
theorem create_spells_lag :
    builtin.create "LAG" [.text "price", .int 2] = .ok (.lag "price" 2 .null) ∧
      ∀ window alias?,
        (Expression.mk (.lag "price" 2 .null) window alias?).check = window.check := by
  have lower : Text.lower "LAG" = "lag" := by decide
  have spelt : Spells "lag" [.text "price", .int 2] (.lag "price" 2 .null) :=
    .lag (.offset "price" 2 (by decide))
  obtain ⟨builds, usable, -⟩ := create_spells "LAG" [.text "price", .int 2]
  have built := (builds _).mpr (lower ▸ spelt)
  obtain ⟨-, -, -, checked⟩ := usable _ built
  exact ⟨built, checked⟩

end Catalog

end WindowQuery
