import ContractOps.Command.Arguments
import ContractOps.Command.Setup
import ContractOps.Storage.Artifacts
import ContractOps.Storage.Record

/-!
# The command that stores code

    <chain id> <label>[,<label>…] …

The code of the labelled contracts is stored in one transaction. Only after that has succeeded are
the configuration and then the deployment record written.
-/

namespace ContractOps.Command

/-- Adds a run to the deployment record of a chain, and gives its path. The record is emptied before
its new text is put together. -/
def writeRecord (s : Setup) (chainId : String) (o : Storage.Outcome) : Task World WideText := do
  let path := Storage.recordPath s.places.records chainId
  let folder := Path.folder path
  changeFiles fun files => files.makeFolders (if folder.isEmpty then "." else folder)
  let old ← Storage.loadRecord (← Task.world).files path
  let record ← Storage.updateRecord chainId s.now o old
  changeFiles fun files => files.write path []
  let text ← Toml.write record
  changeFiles fun files => files.write path (Utf8.encode text)
  return path

/-- Stores code. -/
def store (s : Setup) (arguments : List String) : Task World Unit := do
  let (chainId, labels) ← parseStore arguments
  if labels.isEmpty then Task.fail .labelsNotGiven
  let config ← loadConfig s
  let chain ← Config.findOption config (.str chainId)
  let (client, _) ← signingClient s chain
  let read : Storage.CodeReader World := fun name => do
    Storage.readArtifact (← Task.world).files s.places.artifacts name
  let outcome ← Storage.run s.compress read (signer client) config (.str chainId)
    (.arr (labels.map fun (label : String) => .str label))
  saveConfig s outcome.config
  let path ← writeRecord s chainId outcome
  Task.info .storeCommand <| "Deployment record saved to " ++ path

end ContractOps.Command
