import ContractOps.Config.CodeIds
import ContractOps.Fee
import ContractOps.Storage.Batch
import ContractOps.Text.Casing
import ContractOps.Tx.Broadcast
import ContractOps.Tx.CodeIds

/-!
# Storing code

A run resolves the chain, builds the batch, pays for its compressed size, broadcasts it once, reads
the code ids of the transaction, and pairs them with the contracts by position. The configuration
with the new code ids is part of the outcome, and so are the digests of the code, which are put
together last; nothing is written here, so that a run that fails leaves nothing half done.
-/

namespace ContractOps.Storage

/-- How many code ids were expected and how many the transaction shows, when these differ. -/
structure Mismatch where
  expected : Nat
  extracted : Nat
deriving DecidableEq, Repr

/-- The wording of a mismatch. -/
def Mismatch.message (m : Mismatch) : String :=
  s!"expected {m.expected} code ids, extracted {m.extracted}"

/-- The mismatch between two numbers of code ids, if they differ. -/
def Mismatch.of? (expected extracted : Nat) : Option Mismatch :=
  if extracted = expected then none else some { expected, extracted }

/-- What a run leaves behind. -/
structure Outcome where
  config : Json
  codeIds : List (Json × Int)
  txHash : Json
  /-- The digests of the code under the names of its files. -/
  checksums : List (Json × String)
  mismatch : Option Mismatch

/-- Puts a digest under the name of a file: in its place if the name is there. -/
def putChecksum (file : Json) (checksum : String) : List (Json × String) → List (Json × String)
  | [] => [(file, checksum)]
  | (other, old) :: rest =>
    if other.same file then (other, checksum) :: rest
    else (other, old) :: putChecksum file checksum rest

/-- The digests of a batch under the names of its files. -/
def digests (batch : List Entry) : List (Json × String) :=
  batch.foldl (fun sums e => putChecksum e.file e.checksum sums) []

/-- The digests of a batch, where each file has a name that something can be put under: no list and
no object. -/
def checksums (batch : List Entry) : Except Fault (List (Json × String)) := do
  batch.forM fun e => e.file.hashable
  return digests batch

variable {σ : Type}

/-- Notices every code id with its label in lower case. -/
def announce : List (Json × Int) → Task σ Unit
  | [] => return ()
  | (label, codeId) :: rest => do
    match label with
    | .str s =>
      Task.info .storage <|
        "\"" ++ Text.lowercase s ++ s!"\" contract code is {Digits.text codeId}"
    | _ => throw (.noMembers label.kind)
    announce rest

/-- The gas limit and the fee for a compressed size. -/
def price (option : Json) (size : Nat) : Except Fault (Int × WideText) := do
  let gas ← Gas.forSize (.int size) (← option.member "STORE_CODE_GAS_MULTIPLIER")
  let gasPrice ← option.member "GAS_PRICE_AMOUNT"
  return (gas, ← Fee.text (.int gas) gasPrice (← option.member "DENOM"))

/-- Stores the code of the contracts whose labels are asked for. -/
def run (compress : Compressor) (read : CodeReader σ) (signer : Signer σ)
    (config chainId labels : Json) : Task σ Outcome := do
  let option := (← Config.findOption config chainId).option
  let format ← TxResult.EventFormat.ofOption option
  let contracts ← option.getD "CONTRACTS" (.arr [])
  let batch ← batch compress read contracts labels (← signer.address)
  if batch.isEmpty then Task.fail (.nothingToStore chainId)
  let size := totalSize batch
  let (gas, fee) ← price option size
  let names := batch.map Entry.label
  Task.info .storage <|
    s!"Storing {(Json.arr names).literal} on " ++ chainId.display ++
      s!": {size} bytes, gas {Digits.text gas}, fee " ++ fee
  let tx ← signer.broadcast (batch.map Entry.message) fee gas ""
  let extracted ← tx.codeIds format
  let mismatch := Mismatch.of? batch.length extracted.length
  match mismatch with
  | some m => Task.warn .storage <| "Tx " ++ tx.txHash.display ++ ": " ++ m.message
  | none => pure ()
  let codeIds := correlate 0 names extracted
  announce codeIds
  let assigned := codeIds.map fun p => (p.1, Json.int p.2)
  return {
    config := ← Config.CodeIds.assign config chainId assigned
    codeIds
    txHash := tx.txHash
    checksums := ← checksums batch
    mismatch }

end ContractOps.Storage
