import ContractOps.Calendar
import ContractOps.Config.Wallets
import ContractOps.Storage.Run
import ContractOps.Toml.Writer

/-!
# Deployment records

For every chain there is a record of what was stored on it: the last run, the digests of all files
and the code ids of all labels. A run replaces the first part and adds to the other two; whatever
else the record holds stays as it is.
-/

namespace ContractOps.Storage

/-- The path of the record of a chain. -/
def recordPath (folder chainId : WideText) : WideText := Path.join folder (chainId ++ ".toml")

/-- What a record says about a run. A run without a hash is recorded without one. -/
def runInfo (chainId : WideText) (now : Moment) (txHash : Json) : Toml.Value :=
  let head : Toml.Table := [("chain_id", .text chainId), ("deploy_date", .text now.dayFirstText)]
  match Toml.Value.ofJson? txHash with
  | some hash => .table (head.put "store_tx_hash" hash)
  | none => .table head

/-- Puts entries into the table of a record, which is added if it is missing. -/
def extend (name : WideText) (entries : List (WideText × Toml.Value)) (record : Toml.Table) :
    Except Fault Toml.Table :=
  let put (ms : Toml.Table) (entry : WideText × Toml.Value) : Toml.Table := ms.put entry.1 entry.2
  match (record.get? name).getD (.table []) with
  | .table ms => .ok (record.put name (.table (entries.foldl put ms)))
  | v => .error (.noMembers v.toJson.kind)

/-- The record after a run. -/
def updateRecord (chainId : WideText) (now : Moment) (o : Outcome) (record : Toml.Table) :
    Except Fault Toml.Table := do
  let record := record.put "info" (runInfo chainId now o.txHash)
  let record ← extend "checksums" (o.checksums.map fun p => (p.1.display, .text p.2)) record
  extend "code-ids" (o.codeIds.map fun p => (p.1.display, .int p.2)) record

/-- The record of a chain as it stands in a workspace. Before the first run it is empty. -/
def loadRecord (w : Workspace) (path : WideText) : Except Fault Toml.Table :=
  if w.has path then Config.loadTables w path else .ok []

end ContractOps.Storage
