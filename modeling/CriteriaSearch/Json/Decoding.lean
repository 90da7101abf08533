import CriteriaSearch.Json.Reader

/-!
# Decoding structured values

Reads values of known shape out of JSON as written.  A structure is given as an object, whose unknown
keys are ignored, whatever is written under them, and whose known keys occur once at most, or as the
list of its fields in order.  A field may be required, optional, where null stands for a missing
value, or have a default, which only a missing field takes.
-/

namespace CriteriaSearch.Json

/-- Reads a value, where it has the right shape. -/
abbrev Decoder (α : Type) := Written → Option α

/-- Reads a value that is at hand. -/
def Decoder.ofValue? {α : Type} (dec : Decoder α) (v : Json) : Option α :=
  dec (.ofJson v)

/-- Reads a value from its text. -/
def Decoder.ofText? {α : Type} (dec : Decoder α) (s : String) : Option α :=
  (Written.ofText? s).bind dec

/-- The fields of a structure as they were given. -/
inductive Given where
  | named (entries : List (String × Written))
  | listed (entries : List (String × Written))

namespace Given

/-- How often a key occurs. -/
def occurrences (entries : List (String × Written)) (key : String) : Nat :=
  (entries.filter fun e => e.1 == key).length

/-- The fields of a structure with the given names. -/
def of? (names : List String) : Written → Option Given
  | .arr items =>
    if items.length ≤ names.length then some (.listed (names.zip items)) else none
  | w =>
    w.entries?.bind fun entries =>
      if names.all fun name => occurrences entries name ≤ 1 then some (.named entries) else none

/-- The value of a field. -/
def get? (g : Given) (name : String) : Option Written :=
  match g with
  | named entries => entries.lookup name
  | listed entries => entries.lookup name

/-- A field that has to be there. -/
def required {α : Type} (g : Given) (name : String) (dec : Decoder α) : Option α :=
  (g.get? name).bind dec

/-- A field that takes a default where it is missing. -/
def withDefault {α : Type} (g : Given) (name : String) (dec : Decoder α) (default : α) :
    Option α :=
  match g.get? name with
  | some v => dec v
  | none => some default

/-- A field that may be null, and may be missing unless the fields are given as a list. -/
def optional {α : Type} (g : Given) (name : String) (dec : Decoder α) : Option (Option α) :=
  match g.get? name, g with
  | some (.scalar .null), _ => some none
  | some v, _ => (dec v).map some
  | none, named _ => some none
  | none, listed _ => none

end Given

/-! ## Decoders of plain values -/

/-- Any value. -/
def asAny : Decoder Json := Written.toJson?

/-- A text. -/
def asText : Decoder String
  | .scalar (.str s) => some s
  | _ => none

/-- A truth value. -/
def asBool : Decoder Bool
  | .scalar (.bool b) => some b
  | _ => none

/-- What a number stands for under a reading of numbers. -/
def asNumberWith {α : Type} (value : JsonNumber → Option α) : Decoder α
  | .scalar (.num n) => value n
  | _ => none

/-- An unsigned 64-bit integer. -/
def asUnsigned : Decoder Nat := asNumberWith JsonNumber.toUnsigned?

/-- A signed 64-bit integer. -/
def asSigned : Decoder Int := asNumberWith JsonNumber.toSigned?

/-- A number as a double-precision one. -/
def asNumber : Decoder Binary64 := asNumberWith fun n => some n.toBinary64

/-- A record. -/
def asRecord : Decoder Record := fun w => w.toJson?.bind obj?

/-- A list of values. -/
def asList {α : Type} (dec : Decoder α) : Decoder (List α)
  | .arr items => items.mapM dec
  | _ => none

/-- An object from any keys to values, in order; a repeated key is kept. -/
def asEntries {α : Type} (dec : Decoder α) : Decoder (List (String × α)) := fun w =>
  w.entries?.bind fun entries => entries.mapM fun e => (dec e.2).map fun v => (e.1, v)

/-- A value or null. -/
def asNullable {α : Type} (dec : Decoder α) : Decoder (Option α)
  | .scalar .null => some none
  | w => (dec w).map some

end CriteriaSearch.Json
