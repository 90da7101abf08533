import CriteriaSearch.Binary64.Basic

/-!
# JSON values

Values whose objects keep the order in which their keys were first set, and whose integers are kept
apart from other numbers.  An object is the list of its entries; `Record` names such a list and
carries the operations that callers use, each stated once here: setting a key keeps the place of an
existing one and puts a new one last, and `swapRemove` moves the last entry into the freed place.

Two equalities are used on values.  `=` is identity, with the order of keys.  `Json.alike` is the
equality of stored and searched values: integers and other numbers are the same when their
double-precision values are, and the order of keys does not matter.
-/

namespace CriteriaSearch

/-- A number: an integer of 64 bits, signed or unsigned, or a double-precision number. -/
inductive JsonNumber where
  | int (n : Int)
  | float (x : Binary64)
  deriving DecidableEq

/-- A JSON value. -/
inductive Json where
  | null
  | bool (b : Bool)
  | num (n : JsonNumber)
  | str (s : String)
  | arr (items : List Json)
  | obj (entries : List (String × Json))

instance : Inhabited Json := ⟨.null⟩

/-- The entries of an object, in order. -/
abbrev Record := List (String × Json)

/-- The value of a key. -/
def Record.get? (r : Record) (key : String) : Option Json :=
  match r with
  | [] => none
  | (k, v) :: rest => if k = key then some v else Record.get? rest key

namespace JsonNumber

/-- The double-precision value. -/
def toBinary64 : JsonNumber → Binary64
  | int n => Binary64.ofInt n
  | float x => x

/-- The number as an unsigned 64-bit integer. -/
def toUnsigned? : JsonNumber → Option Nat
  | int n => if 0 ≤ n ∧ n < 0x10000000000000000 then some n.toNat else none
  | float _ => none

/-- The number as a signed 64-bit integer. -/
def toSigned? : JsonNumber → Option Int
  | int n => if -0x8000000000000000 ≤ n ∧ n < 0x8000000000000000 then some n else none
  | float _ => none

/-- Equality of double-precision values. -/
def alike (a b : JsonNumber) : Bool :=
  a.toBinary64.sameValue b.toBinary64

end JsonNumber

namespace Json

/-- A natural number as a value. -/
def nat (n : Nat) : Json := num (.int n)

/-- The text of an optional string, or null. -/
def strOrNull : Option String → Json
  | some s => str s
  | none => null

/-- An optional value, or null. -/
def orNull : Option Json → Json
  | some v => v
  | none => null

/-- The string inside a string value. -/
def str? : Json → Option String
  | str s => some s
  | _ => none

/-- The entries of an object. -/
def obj? : Json → Option Record
  | obj entries => some entries
  | _ => none

/-- The number as an unsigned 64-bit integer. -/
def unsigned? : Json → Option Nat
  | num n => n.toUnsigned?
  | _ => none

mutual

/-- Equality of stored and searched values. -/
def alike : Json → Json → Bool
  | null, null => true
  | bool a, bool b => a == b
  | num a, num b => a.alike b
  | str a, str b => a == b
  | arr a, arr b => alikeItems a b
  | obj a, obj b => a.length == b.length && alikeEntries a b
  | _, _ => false

/-- Equality of lists, item by item. -/
def alikeItems : List Json → List Json → Bool
  | [], [] => true
  | a :: as, b :: bs => alike a b && alikeItems as bs
  | _, _ => false

/-- Whether every entry of the first object has its equal in the second. -/
def alikeEntries : List (String × Json) → List (String × Json) → Bool
  | [], _ => true
  | (k, v) :: rest, other =>
    (match Record.get? other k with
      | some w => alike v w
      | none => false) && alikeEntries rest other

end

/-- The order of stored and searched values: booleans, numbers and strings among themselves, and
nothing else. -/
def order? : Json → Json → Option Ordering
  | bool a, bool b => some (compare a b)
  | num a, num b => some (a.toBinary64.compareValue b.toBinary64)
  | str a, str b => some (compare a b)
  | _, _ => none

end Json

namespace Record

/-- Sets a key: an existing key keeps its place, a new key goes last. -/
def insert (r : Record) (key : String) (value : Json) : Record :=
  match r with
  | [] => [(key, value)]
  | (k, v) :: rest => if k = key then (k, value) :: rest else (k, v) :: insert rest key value

/-- A record from entries set one after another. -/
def ofEntries (entries : List (String × Json)) : Record :=
  entries.foldl (fun r e => insert r e.1 e.2) []

/-- Takes a key out; the last entry moves into its place. -/
def swapRemove (r : Record) (key : String) : Option (Json × Record) :=
  match r with
  | [] => none
  | (k, v) :: rest =>
    if k = key then
      match rest.getLast? with
      | some last => some (v, last :: rest.dropLast)
      | none => some (v, [])
    else (swapRemove rest key).map fun found => (found.1, (k, v) :: found.2)

/-- Whether no key occurs twice. -/
def DistinctKeys (r : Record) : Prop :=
  (r.map Prod.fst).Nodup

@[simp] theorem get?_nil (key : String) : get? [] key = none := rfl

theorem get?_insert (r : Record) (key : String) (value : Json) (k : String) :
    (r.insert key value).get? k = if key = k then some value else r.get? k := by
  induction r with
  | nil => by_cases h : key = k <;> simp [insert, get?, h]
  | cons e rest ih =>
    obtain ⟨k', v'⟩ := e
    by_cases h : k' = key
    · subst h
      by_cases hk : k' = k <;> simp [insert, get?, hk]
    · by_cases hk : k' = k
      · subst hk; simp [insert, get?, h, Ne.symm h]
      · simp [insert, get?, h, hk, ih]

end Record

end CriteriaSearch
