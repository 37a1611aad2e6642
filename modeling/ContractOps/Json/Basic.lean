import ContractOps.Json.Members
import ContractOps.Numeral.Binary64

/-!
# JSON values

`Json` is the value type of configuration files, contract messages and chain answers. Integers are
unbounded and apart from double precision numbers. Texts and names may hold halves of surrogate
pairs, because an escape may stand for one. The members of an object keep their order; a name
occurs once, because objects are built with `Members.put`, which replaces in place.

Values of different types may be equal (`Json.same`): `true` is 1, and 1 is 1.0.
-/

namespace ContractOps

/-- A JSON value. -/
inductive Json where
  | null
  | bool (b : Bool)
  | int (n : Int)
  | float (x : Binary64)
  | str (s : WideText)
  | arr (items : List Json)
  | obj (members : List (WideText × Json))
deriving Inhabited

namespace Json

/-- What messages call the type of a value. -/
def kind : Json → String
  | null => "NoneType"
  | bool _ => "bool"
  | int _ => "int"
  | float _ => "float"
  | str _ => "str"
  | arr _ => "list"
  | obj _ => "dict"

/-- Whether a value counts as set: everything does but `null`, `false`, zeros and what is empty. -/
def truthy : Json → Bool
  | null => false
  | bool b => b
  | int n => n != 0
  | float x => !x.isZero
  | str s => !s.isEmpty
  | arr items => !items.isEmpty
  | obj members => !members.isEmpty

/-- The integer that a value stands for among integers. -/
def integer? : Json → Option Int
  | bool b => some (if b then 1 else 0)
  | int n => some n
  | _ => none

/-- Order of the numbers that two values stand for: `none` if one is no number. -/
def compareNumbers? (a b : Json) : Option Ordering :=
  match a, b with
  | float x, float y => x.compare? y
  | float x, b => b.integer?.bind x.compareInt?
  | a, float y => (a.integer?.bind y.compareInt?).map Ordering.swap
  | a, b => do return compare (← a.integer?) (← b.integer?)

mutual

/-- Equality of values: numbers by their value, objects whatever the order of their members. -/
def same : Json → Json → Bool
  | null, null => true
  | str s, str t => s == t
  | arr xs, arr ys => sameItems xs ys
  | obj xs, obj ys => xs.length == ys.length && sameMembers xs ys
  | a, b => a.compareNumbers? b == some .eq

/-- Equality of items, in order. -/
def sameItems : List Json → List Json → Bool
  | [], [] => true
  | x :: xs, y :: ys => same x y && sameItems xs ys
  | _, _ => false

/-- Every member is found in the other object with an equal value. -/
def sameMembers : List (WideText × Json) → Members Json → Bool
  | [], _ => true
  | (name, v) :: rest, other =>
    (match other.get? name with
      | some w => same v w
      | none => false) && sameMembers rest other

end

end Json

end ContractOps
