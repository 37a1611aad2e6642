import ContractOps.Encoding.Sha256
import ContractOps.Message.Basic
import ContractOps.Task

/-!
# Batches of code

A batch stores the code of several contracts in one transaction: one message for every contract
whose label is asked for, in the order of the configuration, whatever the order of the labels. A
label that no contract has is a failure, and nothing is read then.
-/

namespace ContractOps

/-- Anybody may create instances, unless there is a list of the addresses that may. -/
def Permission.ofJson (addresses : Json) : Except Fault Permission := do
  if addresses.truthy then
    let texts ← (← addresses.items).mapM fun
      | .str s => Message.plainText s
      | _ => throw (.type .mismatch)
    return .anyOf texts
  else return .everybody

namespace Storage

/-- Reads the code of a contract from the file of a name. -/
abbrev CodeReader (σ : Type) := Json → Task σ Bytes

/-- Makes code smaller. -/
abbrev Compressor := Bytes → Bytes

/-- A contract of a batch: its message, the digest of its code, and how many octets the compressed
code has. -/
structure Entry where
  contract : Json
  label : Json
  file : Json
  message : Message
  checksum : String
  size : Nat

/-- The labels of contracts. -/
def labelsOf : List Json → Except Fault (List Json)
  | [] => .ok []
  | contract :: rest => do
    let label ← contract.member "LABEL"
    label.hashable
    return label :: (← labelsOf rest)

/-- The labels that are not among the known ones. -/
def unknown (known : List Json) : List Json → Except Fault (List Json)
  | [] => .ok []
  | label :: rest => do
    label.hashable
    let others ← unknown known rest
    return if known.any label.same then others else label :: others

/-- Fails if a label is asked for that no contract has. -/
def checkLabels (contracts labels : Json) : Except Fault Unit := do
  match ← labels.items with
  | [] => return ()
  | wanted => do
    match ← unknown (← labelsOf (← contracts.items)) wanted with
    | [] => return ()
    | missing => throw (.failure (.labelsUnknown missing))

variable {σ : Type}

/-- The entry of a contract. -/
def entry (compress : Compressor) (read : CodeReader σ) (sender contract : Json) :
    Task σ Entry := do
  let label ← contract.member "LABEL"
  let file ← contract.member "WASM"
  let code ← read file
  let compressed := compress code
  let permission ← Permission.ofJson (← contract.getD "PERMISSION" .null)
  return {
    contract, label, file
    message := .storeCode (← Message.textField sender) compressed permission
    checksum := Sha256.hex code
    size := compressed.length }

/-- The entries of those contracts whose label is asked for. -/
def entries (compress : Compressor) (read : CodeReader σ) (labels sender : Json) :
    List Json → Task σ (List Entry)
  | [] => return []
  | contract :: rest => do
    if ← labels.contains (← contract.member "LABEL") then
      let first ← entry compress read sender contract
      return first :: (← entries compress read labels sender rest)
    else entries compress read labels sender rest

/-- The batch for the labels asked for. -/
def batch (compress : Compressor) (read : CodeReader σ) (contracts labels sender : Json) :
    Task σ (List Entry) := do
  checkLabels contracts labels
  entries compress read labels sender (← contracts.items)

/-- How many octets the compressed code of a batch has. -/
def totalSize (batch : List Entry) : Nat := (batch.map Entry.size).foldr (· + ·) 0

/-- Pairs every label with the code id at its place, and those without one with another value. -/
def correlate {α : Type} (missing : α) : List Json → List α → List (Json × α)
  | [], _ => []
  | label :: labels, [] => (label, missing) :: correlate missing labels []
  | label :: labels, codeId :: codeIds => (label, codeId) :: correlate missing labels codeIds

/-- Every label has its pair, in order. -/
theorem map_fst_correlate {α : Type} (missing : α) (labels : List Json) (codeIds : List α) :
    (correlate missing labels codeIds).map Prod.fst = labels := by
  induction labels generalizing codeIds with
  | nil => rfl
  | cons label labels ih => cases codeIds <;> simp [correlate, ih]

end Storage

end ContractOps
