import ContractOps.Config.Lookup
import ContractOps.Task

/-!
# Writing code ids into the configuration

`CodeIds.update` gives the contracts of a chain new code ids, found by label. Of several code ids
for one label the last counts. All else stays as it is, order included; only lists that are
missing on the way to the contracts are added, empty.
-/

namespace ContractOps.Config.CodeIds

/-- New code ids with the labels of their contracts. -/
abbrev Assignment := List (Json × Json)

/-- Reads pairs of a label and a code id. A code id that is not set is zero. -/
def Assignment.ofJson (codeIds : Json) : Except Fault Assignment := do
  (← codeIds.items).mapM fun entry => do
    let (label, codeId) ← entry.pair
    label.hashable
    return (label, if codeId.truthy then codeId else .int 0)

/-- The last code id of a label. -/
def Assignment.get? : Assignment → Json → Option Json
  | [], _ => none
  | (label, codeId) :: rest, wanted =>
    match get? rest wanted with
    | some later => some later
    | none => if label.same wanted then some codeId else none

/-- Of two assignments one after the other, the later one counts. -/
theorem Assignment.get?_append (first second : Assignment) (label : Json) :
    Assignment.get? (first ++ second) label = (second.get? label).or (first.get? label) := by
  induction first with
  | nil => simp [Assignment.get?]
  | cons entry rest ih =>
    simp only [List.cons_append, Assignment.get?, ih]
    cases second.get? label <;> rfl

/-- Puts a member into an object. -/
def withMember (v : Json) (name : WideText) (value : Json) : Json :=
  match v with
  | .obj members => .obj (Members.put members name value)
  | v => v

variable {σ : Type}

/-- The contract with its new code id, if its label has one. Replacing another code id is noticed.
-/
def updateContract (codes : Assignment) (chainId contract : Json) : Task σ Json := do
  let label ← field contract "LABEL"
  label.hashable
  match codes.get? label with
  | none => return contract
  | some codeId => do
    let previous ← contract.getD "CODE" (.int 0)
    let label ← contract.member "LABEL"
    if previous.truthy && !previous.same codeId then
      Task.warn .reconciliation <|
        s!"Overwriting code id of {label.literal} on " ++ chainId.display ++ ": " ++
          previous.display ++ " -> " ++ codeId.display
    return withMember contract "CODE" codeId

/-- The option with its contracts updated, if it has the chain id. -/
def updateOption (codes : Assignment) (chainId option : Json) : Task σ Json := do
  if !(← field option "CHAIN_ID").same chainId then return option
  else
    let contracts ← (← option.getD "CONTRACTS" (.arr [])).items
    return withMember option "CONTRACTS" (.arr (← contracts.mapM (updateContract codes chainId)))

/-- Whether one of the options has the chain id. Those after it are not looked at. -/
def hasChain (chainId : Json) : List Json → Except Fault Bool
  | [] => .ok false
  | option :: rest => do
    if (← field option "CHAIN_ID").same chainId then return true else hasChain chainId rest

/-- The chain with its options updated, if one of them has the chain id. -/
def updateChain (codes : Assignment) (chainId chain : Json) : Task σ Json := do
  let options ← (← chain.getD "OPTIONS" (.arr [])).items
  if ← hasChain chainId options then
    return withMember chain "OPTIONS" (.arr (← options.mapM (updateOption codes chainId)))
  else return chain

/-- The configuration with new code ids for the contracts of a chain. -/
def assign (config chainId : Json) (codes : Assignment) : Task σ Json := do
  match config with
  | .obj _ => do
    let chains ← (← config.getD "CHAINS" (.arr [])).items
    return withMember config "CHAINS" (.arr (← chains.mapM (updateChain codes chainId)))
  | _ => throw (.type .mismatch)

/-- The configuration with new code ids, given as pairs, for the contracts of a chain. -/
def update (config chainId codeIds : Json) : Task σ Json := do
  assign config chainId (← Assignment.ofJson codeIds)

end ContractOps.Config.CodeIds
