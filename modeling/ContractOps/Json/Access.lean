import ContractOps.Fault

/-!
# Access into values

Configuration and answers are values of any shape, and their shape is checked where they are used:
each access here says which fault a wrong shape is.
-/

namespace ContractOps.Json

/-- The member of an object under a name, if it is there. -/
def get? (v : Json) (name : WideText) : Except Fault (Option Json) :=
  match v with
  | obj members => .ok (Members.get? members name)
  | v => .error (.noMembers v.kind)

/-- The member of an object under a name, or another value in its place. -/
def getD (v : Json) (name : WideText) (other : Json) : Except Fault Json := do
  return (← v.get? name).getD other

/-- The member of an object under a name, which has to be there. -/
def member (v : Json) (name : WideText) : Except Fault Json :=
  match v with
  | obj members =>
    match Members.get? members name with
    | some w => .ok w
    | none => .error (.missingKey (.str name))
  | str _ => .error (.type .textMember)
  | arr _ => .error (.type .listMember)
  | v => .error (.type (.notSubscriptable v.kind))

/-- The first item of a list or character of a text. -/
def first (v : Json) : Except Fault Json :=
  match v with
  | arr (x :: _) => .ok x
  | arr [] => .error (.noItem "list")
  | str (c :: _) => .ok (.str [c])
  | str [] => .error (.noItem "string")
  | obj _ => .error (.missingKey (.int 0))
  | v => .error (.type (.notSubscriptable v.kind))

/-- What a value gives one by one: the items of a list, the names of an object, the characters of a
text. -/
def items (v : Json) : Except Fault (List Json) :=
  match v with
  | arr xs => .ok xs
  | obj members => .ok (members.map fun m => .str m.1)
  | str s => .ok (s.map fun c => .str [c])
  | v => .error (.type (.notIterable v.kind))

/-- The two items of a pair. -/
def pair (v : Json) : Except Fault (Json × Json) := do
  match ← v.items with
  | [a, b] => return (a, b)
  | [] => throw (.value (.tooFew 0))
  | [_] => throw (.value (.tooFew 1))
  | _ => throw (.value .tooMany)

/-- Whether a value may be the key of an entry: lists and objects may not. -/
def hashable : Json → Except Fault Unit
  | arr _ => .error (.type (.unhashable "list"))
  | obj _ => .error (.type (.unhashable "dict"))
  | _ => .ok ()

/-- Whether a text occurs in another one. -/
def occursIn (part : WideText) : WideText → Bool
  | [] => part.isEmpty
  | c :: cs => part.isPrefixOf (c :: cs) || occursIn part cs

/-- Whether a list has an item, an object a name, or a text a part. -/
def contains (v x : Json) : Except Fault Bool :=
  match v with
  | arr xs => .ok (xs.any (same x))
  | obj members => do
    x.hashable
    return members.any fun m => same x (.str m.1)
  | str s =>
    match x with
    | str part => .ok (occursIn part s)
    | _ => .error (.type .mismatch)
  | _ => .error (.type .mismatch)

/-! ### Numbers -/

/-- The integer that a text denotes. -/
def textToInt (s : WideText) : Except Fault Int :=
  match Numeral.int? s.shown with
  | .ok n => .ok n
  | .error .malformed => .error (.value (.notInteger s))
  | .error (.tooLong digits) => .error (.value (.integerTooLong digits))

/-- The integer part of a double precision number. -/
def floatToInt (x : Binary64) : Except Fault Int :=
  match x.trunc?, x with
  | some n, _ => .ok n
  | none, .nan => .error (.value .nanInteger)
  | none, _ => .error .overflow

/-- The integer that a value denotes. -/
def toInt : Json → Except Fault Int
  | bool b => .ok (if b then 1 else 0)
  | int n => .ok n
  | float x => floatToInt x
  | str s => textToInt s
  | _ => .error (.type .mismatch)

/-- The double precision number that a value denotes. -/
def toFloat : Json → Except Fault Binary64
  | float x => .ok x
  | str s =>
    match Numeral.binary64? s.shown with
    | some x => .ok x
    | none => .error (.value (.notNumber s))
  | v =>
    match v.integer? with
    | some n =>
      match Binary64.ofInt? n with
      | some x => .ok x
      | none => .error .overflow
    | none => .error (.type .mismatch)

/-- The product of two numbers. With a double precision factor, so is the product. -/
def times (a b : Json) : Except Fault Json :=
  match a, b with
  | str _, _ | _, str _ => .error (.type .mismatch)
  | float x, b => do return .float (x.mul (← b.toFloat))
  | a, float y => do return .float ((← a.toFloat).mul y)
  | a, b =>
    match a.integer?, b.integer? with
    | some m, some n => .ok (.int (m * n))
    | _, _ => .error (.type .mismatch)

/-- The least integer not below a number. -/
def ceil : Json → Except Fault Int
  | float x =>
    match x.ceil?, x with
    | some n, _ => .ok n
    | none, .nan => .error (.value .nanInteger)
    | none, _ => .error .overflow
  | v =>
    match v.integer? with
    | some n => .ok n
    | none => .error (.type .mismatch)

end ContractOps.Json
