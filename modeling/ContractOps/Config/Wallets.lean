import ContractOps.Json.Access
import ContractOps.Toml.Reader
import ContractOps.Workspace.Files

/-!
# Wallet sets

Mnemonics are kept in a TOML file apart from the configuration, in one table for every type of
chain.
-/

namespace ContractOps.Config

/-- The tables of a TOML text. -/
def tablesOf (cs : List Char) : Except Fault Toml.Table :=
  match Toml.read cs with
  | .ok tables => .ok tables
  | .error flaw => .error (.toml flaw)

/-- The tables of a TOML file. -/
def loadTables (w : Workspace) (path : WideText) : Except Fault Toml.Table := do
  tablesOf (← w.readText path)

/-- The wallets for a type of chain. -/
def loadWallets (w : Workspace) (path : WideText) (set : Json) : Except Fault Json := do
  match loadTables w path with
  | .error (.file .notFound _) => throw (.failure (.walletsFileMissing path))
  | .error e => throw e
  | .ok tables => do
    set.hashable
    match set with
    | .str name =>
      match tables.get? name with
      | some wallets => return wallets.toJson
      | none => throw (.failure (.walletSetMissing set path))
    | _ => throw (.failure (.walletSetMissing set path))

end ContractOps.Config
