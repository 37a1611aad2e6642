import ContractOps.Command.Arguments
import ContractOps.Command.Setup
import ContractOps.Executor
import ContractOps.Query

/-!
# The command that queries and calls the platform contract

    <chain id>
    <chain id> deposit <amount> <token>
    <chain id> flip <side> <amount> <token>

Without an action, the log shows what the platform says about itself. An action is one transaction,
signed by the administrator; its arguments are read after the wallet.
-/

namespace ContractOps.Command

/-- An action of the command. -/
inductive ActionName where
  | deposit
  | flip
deriving DecidableEq, Repr

/-- The action with a name. -/
def ActionName.of? (name : String) : Option ActionName :=
  if name = "deposit" then some .deposit else if name = "flip" then some .flip else none

/-- The call that an action and its arguments ask for. -/
def ActionName.call : ActionName → List String → Except Fault Executor.Call
  | deposit, [amount, token] => do
    let amount ← parseAmount (.str amount)
    return .paid .deposit (.int amount) (.token (← parseToken token))
  | deposit, _ => .error (.failure (.usage "deposit <amount> <token_json>"))
  | flip, [side, amount, token] => do
    let side ← parseSide side
    let amount ← parseAmount (.str amount)
    return .paid (.flip (.str side.name)) (.int amount) (.token (← parseToken token))
  | flip, _ => .error (.failure (.usage "flip <head|tail> <amount> <token_json>"))

/-- Shows what the platform says about itself. -/
def showPlatform (s : Setup) (chainId : String) : Task World Unit := do
  let option := (← Config.findOption (← loadConfig s) (.str chainId)).option
  let client ← Client.ofOption option none
  let platform ← Config.platformAddress option
  let asker : Query.Asker World := fun address message => onNetwork (client.query address message)
  let _ ← Query.ask asker platform (Query.plain "app_info") (.bool true)
  let _ ← Query.ask asker platform (Query.plain "config") (.bool true)

/-- Who acts on the platform of a chain, and through which client. -/
def platformExecutor (s : Setup) (chainId : String) : Task World (Client × Executor.Settings) := do
  let chain ← Config.findOption (← loadConfig s) (.str chainId)
  let (client, address) ← signingClient s chain
  let gasPrice ← chain.option.member "GAS_PRICE_AMOUNT"
  let denom ← chain.option.member "DENOM"
  let platform ← Config.platformAddress chain.option
  return (client, { sender := .str address, platform, gasPrice, denom })

/-- Performs an action. -/
def perform (s : Setup) (chainId : String) (action : ActionName) (arguments : List String) :
    Task World Unit := do
  let (client, settings) ← platformExecutor s chainId
  let _ ← Executor.run settings (signer client).broadcast (← action.call arguments)

/-- Queries or calls the platform. -/
def call (s : Setup) : List String → Task World Unit
  | [] => Task.fail .chainIdNotGiven
  | [chainId] => showPlatform s chainId
  | chainId :: name :: arguments =>
    match ActionName.of? name with
    | some action => perform s chainId action arguments
    | none => Task.fail (.unknownAction name)

end ContractOps.Command
