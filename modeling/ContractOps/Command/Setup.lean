import ContractOps.Client.Basic
import ContractOps.Calendar
import ContractOps.Config.Document
import ContractOps.Config.Wallets
import ContractOps.Storage.Batch

/-!
# What commands work with

A command runs at some moment on the files of a workspace and on the network. Where the files lie,
how code is compressed, and how an address comes from a mnemonic, is set up before.
-/

namespace ContractOps.Command

/-- Where the files of a workspace lie. -/
structure Places where
  config : String := "config/config.json"
  wallets : String := "config/wallets.toml"
  artifacts : String := "../contracts/artifacts"
  snapshots : String := "snapshots"
  records : String := "deployed-contracts"

/-- What does not change while a command runs. -/
structure Setup where
  places : Places
  now : Moment
  compress : Storage.Compressor
  /-- The address of the wallet with a mnemonic, under a prefix. -/
  addressOf : Json → Json → Except Fault WideText

/-- What a command works on. -/
structure World where
  files : Workspace
  network : Network

/-- A task on the network. -/
def onNetwork {α : Type} (t : Task Network α) : Task World α :=
  t.within World.network fun network w => { w with network }

/-- Changes the files. -/
def changeFiles (change : Workspace → Except Fault Workspace) : Task World Unit := do
  let files ← change (← Task.world).files
  Task.update fun w => { w with files }

/-- The configuration. -/
def loadConfig (s : Setup) : Task World Json := do
  Config.load (← Task.world).files s.places.config

/-- Writes the configuration. The file is emptied before its new text is encoded. -/
def saveConfig (s : Setup) (config : Json) : Task World Unit := do
  changeFiles fun files => files.write s.places.config []
  changeFiles fun files => Config.save files s.places.config config
  Task.info .config s!"Config saved to {s.places.config}"

/-- A client that signs as the administrator of a chain. -/
def signingClient (s : Setup) (chain : Config.ChainOption) : Task World (Client × WideText) := do
  let set ← chain.option.member "TYPE"
  let wallets ← Config.loadWallets (← Task.world).files s.places.wallets set
  let mnemonic ← wallets.member "SEED_ADMIN"
  let address ← s.addressOf mnemonic chain.addressPrefix
  let client ← Client.ofOption chain.option (some address)
  Task.info .chain <| "Wallet address: " ++ address
  return (client, address)

/-- Signs and broadcasts through a client. -/
def signer (client : Client) : Signer World where
  address := client.address.map Json.str
  broadcast messages fee gas memo := onNetwork (client.broadcast messages fee gas memo)

end ContractOps.Command
