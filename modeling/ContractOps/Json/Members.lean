import ContractOps.Text.CodePoint

/-!
# Members

`Members α` holds values under names, in the order in which the names came first: `Members.put`
replaces in place, so that a name occurs once. They make up the objects of JSON and the tables of
TOML.
-/

namespace ContractOps

/-- Values under names, in order. -/
abbrev Members (α : Type) := List (WideText × α)

namespace Members

variable {α : Type}

/-- The value under a name. -/
def get? : Members α → WideText → Option α
  | [], _ => none
  | (name, v) :: rest, key => if name = key then some v else get? rest key

/-- Puts a value under a name: in its place if the name is there, at the end if not. -/
def put : Members α → WideText → α → Members α
  | [], key, value => [(key, value)]
  | (name, v) :: rest, key, value =>
    if name = key then (name, value) :: rest else (name, v) :: put rest key value

/-- Puts members one after the other: the last value of a name counts, at the place of its first. -/
def ofList (pairs : List (WideText × α)) : Members α :=
  pairs.foldl (fun ms p => ms.put p.1 p.2) []

@[simp] theorem get?_nil (key : WideText) : get? ([] : Members α) key = none := rfl

theorem get?_put_self (ms : Members α) (key : WideText) (value : α) :
    (ms.put key value).get? key = some value := by
  induction ms with
  | nil => simp [put, get?]
  | cons m rest ih =>
    obtain ⟨name, v⟩ := m
    by_cases h : name = key <;> simp [put, get?, h, ih]

theorem get?_put_of_ne (ms : Members α) {key other : WideText} (value : α) (h : other ≠ key) :
    (ms.put key value).get? other = ms.get? other := by
  induction ms with
  | nil => simp [put, get?, Ne.symm h]
  | cons m rest ih =>
    obtain ⟨name, v⟩ := m
    by_cases hn : name = key
    · subst hn; simp [put, get?, Ne.symm h]
    · simp [put, get?, hn, ih]

end Members

end ContractOps
