import Std.Data.TreeMap
import WindowQuery.Function.Basic
import WindowQuery.Text.Case

/-!
# Registries

A registry builds things from a name and literal arguments. Names are looked up without regard to
letter case, and a later registration of a name replaces an earlier one.

What is built is left open. The functions of the library are registered in `WindowQuery.Catalog`.
-/

namespace WindowQuery

variable {φ : Type}

/-- How something is built from its arguments. -/
abbrev Builder (φ : Type) := List Cell → Except QueryError φ

/-- A description and what it describes. -/
structure Registration (φ : Type) where
  info : FunctionInfo
  build : Builder φ

namespace Registration

/-- The lower-case name, under which the registration is found. -/
def key (r : Registration φ) : String := Text.lower r.info.name

/-- Builds from arguments. Their number is checked first, against the description; the rest is up
to the builder. -/
def call (r : Registration φ) (arguments : List Cell) : Except QueryError φ :=
  match r.info.arity.misuse? arguments.length with
  | some cause => .error (.invalidArgument (.inCall r.info.name cause))
  | none => r.build arguments

end Registration

/-- Registrations by lower-case name. -/
structure Registry (φ : Type) where
  entries : Std.TreeMap String (Registration φ) := ∅

namespace Registry

/-- The registry without registrations. -/
def empty : Registry φ := {}

/-- Registers a builder under the name in its description. -/
def register (c : Registry φ) (info : FunctionInfo) (build : Builder φ) : Registry φ :=
  ⟨c.entries.insert (Text.lower info.name) ⟨info, build⟩⟩

/-- Registrations made one after the other. -/
def registerAll (c : Registry φ) (registrations : List (Registration φ)) : Registry φ :=
  registrations.foldl (fun c r => c.register r.info r.build) c

/-- What is found under a name in any letter case. -/
def entry? (c : Registry φ) (name : String) : Option (Registration φ) :=
  c.entries[Text.lower name]?

/-- Whether something is registered under a name, in any letter case. -/
def contains (c : Registry φ) (name : String) : Bool := c.entries.contains (Text.lower name)

/-- What the registration of a name says about itself. -/
def info? (c : Registry φ) (name : String) : Option FunctionInfo :=
  (c.entry? name).map Registration.info

/-- The lower-case names, in ascending order. -/
def names (c : Registry φ) : List String := c.entries.keys

/-- The names that are registered with a class, in ascending order. -/
def namesOf (c : Registry φ) (functionClass : FunctionClass) : List String :=
  (c.entries.toList.filter fun (_, r) => r.info.functionClass = functionClass).map Prod.fst

/-- Builds what is registered under a name. -/
def create (c : Registry φ) (name : String) (arguments : List Cell) : Except QueryError φ :=
  match c.entry? name with
  | none => .error (.invalidArgument (.unknownFunction name))
  | some r => r.call arguments

end Registry

end WindowQuery
