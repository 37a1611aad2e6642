import ContractOps.Json.Basic
import ContractOps.Toml.Stamp

/-!
# TOML values

A value is a truth value, a number, a text, a stamp, a list or a table. There is nothing that stands
for an absent value. Values without stamps are JSON values without `null`: `Value.ofJson?` finds the
value and `Value.toJson` leads back.
-/

namespace ContractOps.Toml

/-- A TOML value. -/
inductive Value where
  | bool (b : Bool)
  | int (n : Int)
  | float (x : Binary64)
  | text (s : WideText)
  | stamp (s : Stamp)
  | list (items : List Value)
  | table (members : List (WideText × Value))
deriving Inhabited

/-- Values under names. -/
abbrev Table := Members Value

/-- The types of values that a list keeps apart. A date may have a time. -/
inductive Kind where
  | bool
  | int
  | float
  | text
  | date
  | time
  | list
  | table
deriving DecidableEq, Repr

namespace Value

/-- The type of a value. -/
def kind : Value → Kind
  | bool _ => .bool
  | int _ => .int
  | float _ => .float
  | text _ => .text
  | stamp (.time _) => .time
  | stamp _ => .date
  | list _ => .list
  | table _ => .table

/-- The members of a table. -/
def table? : Value → Option Table
  | table ms => some ms
  | _ => none

mutual

/-- A value as JSON. Stamps become texts. -/
def toJson : Value → Json
  | bool b => .bool b
  | int n => .int n
  | float x => .float x
  | text s => .str s
  | stamp s => .str (.ofChars s.text)
  | list items => .arr (itemsToJson items)
  | table ms => .obj (membersToJson ms)

/-- Items as JSON. -/
def itemsToJson : List Value → List Json
  | [] => []
  | v :: vs => toJson v :: itemsToJson vs

/-- Members as JSON. -/
def membersToJson : List (WideText × Value) → List (WideText × Json)
  | [] => []
  | (name, v) :: ms => (name, toJson v) :: membersToJson ms

end

mutual

/-- The value that a JSON value stands for: none for `null`. -/
def ofJson? : Json → Option Value
  | .null => none
  | .bool b => some (bool b)
  | .int n => some (int n)
  | .float x => some (float x)
  | .str s => some (text s)
  | .arr items => some (list (itemsOfJson items))
  | .obj members => some (table (membersOfJson members))

/-- The items of a list. An absent one is named as such. -/
def itemsOfJson : List Json → List Value
  | [] => []
  | v :: vs => (ofJson? v).getD (text "None") :: itemsOfJson vs

/-- The members of an object but those that are absent. -/
def membersOfJson : List (WideText × Json) → List (WideText × Value)
  | [] => []
  | (name, v) :: ms =>
    match ofJson? v with
    | some v => (name, v) :: membersOfJson ms
    | none => membersOfJson ms

end

end Value

/-! ### Places -/

/-- A step into a value: to a member of a table or to the last item of a list. -/
inductive Step where
  | member (name : WideText)
  | last
deriving DecidableEq

/-- The value that a path leads to. -/
def Value.at? : List Step → Value → Option Value
  | [], v => some v
  | .member name :: path, table ms => (Members.get? ms name).bind (Value.at? path)
  | .last :: path, list items => items.getLast?.bind (Value.at? path)
  | _ :: _, _ => none

/-- Puts a value in the place of the one that a path leads to. -/
def Value.replaceAt (new : Value) : List Step → Value → Value
  | [], _ => new
  | .member name :: path, table ms =>
    match Members.get? ms name with
    | some v => table (Members.put ms name (replaceAt new path v))
    | none => table ms
  | .last :: path, list items =>
    match items.getLast? with
    | some v => list (items.dropLast ++ [replaceAt new path v])
    | none => list items
  | _ :: _, v => v

end ContractOps.Toml
