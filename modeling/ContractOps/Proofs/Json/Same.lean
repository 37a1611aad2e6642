import ContractOps.Json.Basic

/-!
# Equality of values

`Json.same` crosses types only among numbers. Texts are equal to texts alone, and integers are equal
as integers are. Whether two values are one and the same, types included, can be decided too
(`Json.identical_iff`).
-/

namespace ContractOps.Json

/-- Only a text is equal to a text. -/
@[simp] theorem same_str_right {v : Json} {s : WideText} : v.same (.str s) = true ↔ v = .str s := by
  cases v <;> simp [same, compareNumbers?, integer?]

@[simp] theorem same_str_left {v : Json} {s : WideText} :
    (Json.str s).same v = true ↔ v = .str s := by
  cases v with
  | str t => simpa [same] using eq_comm
  | _ => simp [same, compareNumbers?, integer?]

@[simp] theorem same_int {a b : Int} : (Json.int a).same (.int b) = true ↔ a = b := by
  simp [same, compareNumbers?, integer?]

/-! ## Identity -/

mutual

/-- Whether two values are one and the same. Unlike equal values, they are of one type. -/
def identical : Json → Json → Bool
  | null, null => true
  | bool a, bool b => a == b
  | int a, int b => a == b
  | float a, float b => a == b
  | str a, str b => a == b
  | arr as, arr bs => identicalItems as bs
  | obj as, obj bs => identicalMembers as bs
  | _, _ => false

/-- Whether two lists hold the same values. -/
def identicalItems : List Json → List Json → Bool
  | [], [] => true
  | a :: as, b :: bs => identical a b && identicalItems as bs
  | _, _ => false

/-- Whether two lists hold the same members. -/
def identicalMembers : List (WideText × Json) → List (WideText × Json) → Bool
  | [], [] => true
  | (name, a) :: as, (name', b) :: bs =>
    name == name' && identical a b && identicalMembers as bs
  | _, _ => false

end

mutual

theorem identical_iff : ∀ a b : Json, identical a b = true ↔ a = b
  | null, b | bool _, b | int _, b | float _, b | str _, b => by cases b <;> simp [identical]
  | arr as, b => by cases b <;> simp [identical, identicalItems_iff as]
  | obj as, b => by cases b <;> simp [identical, identicalMembers_iff as]

theorem identicalItems_iff : ∀ as bs : List Json, identicalItems as bs = true ↔ as = bs
  | [], bs => by cases bs <;> simp [identicalItems]
  | a :: as, bs => by cases bs <;> simp [identicalItems, identical_iff a, identicalItems_iff as]

theorem identicalMembers_iff :
    ∀ as bs : List (WideText × Json), identicalMembers as bs = true ↔ as = bs
  | [], bs => by cases bs <;> simp [identicalMembers]
  | (name, a) :: as, bs => by
    cases bs <;> simp [identicalMembers, identical_iff a, identicalMembers_iff as, Prod.ext_iff]

end

instance : DecidableEq Json := fun a b => decidable_of_iff _ (identical_iff a b)

end ContractOps.Json
