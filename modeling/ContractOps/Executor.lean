import ContractOps.Fee
import ContractOps.Message.Platform
import ContractOps.Tx.Broadcast

/-!
# Execution

Every `Call` of an operator becomes one transaction: its messages are composed, the gas limit is
so much for each message, the fee follows from it, and one broadcast sends the transaction. If
composing fails, nothing is broadcast.
-/

namespace ContractOps

namespace Executor

/-- What an operator asks for. -/
inductive Call where
  | transferAdmin (contract newAdmin gasAdjustment : Json)
  | migrateContracts (contracts codeId payload gasAdjustment : Json)
  | approve (collection operator : Json)
  | revoke (collection operator : Json)
  | mint (collection recipient items : Json)
  /-- An action that is paid. -/
  | paid (action : Action) (amount : Json) (tender : Tender)
  | plain (action : Action)

/-- The gas for a message, unless another amount is given. -/
def gasPerMessage : Int := 300000

/-- Who acts, on which platform contract, and what gas costs. -/
structure Settings where
  sender : Json
  platform : Json
  gasPrice : Json
  denom : Json
  gasPerMessage : Json := .int Executor.gasPerMessage

/-- The messages of a call. -/
def messages (s : Settings) : Call → Except Fault (List Message)
  | .transferAdmin contract newAdmin _ => do
    return [← Message.transferAdmin s.sender contract newAdmin]
  | .migrateContracts contracts codeId payload _ =>
    Message.migrations s.sender contracts codeId payload
  | .approve collection operator => do
    return [.execute (← Collection.approve s.sender collection operator)]
  | .revoke collection operator => do
    return [.execute (← Collection.revoke s.sender collection operator)]
  | .mint collection recipient items => Collection.mintAll s.sender collection recipient items
  | .paid action amount tender => do
    return [.execute (← (← action.message s.sender s.platform).refund amount tender)]
  | .plain action => do return [.execute (← action.message s.sender s.platform)]

/-- How the gas limit of a call is adjusted. -/
def adjustment : Call → Json
  | .transferAdmin _ _ gasAdjustment | .migrateContracts _ _ _ gasAdjustment => gasAdjustment
  | _ => .int 1

/-- The messages, the gas limit and the fee of a call. -/
def plan (s : Settings) (call : Call) : Except Fault (List Message × Int × WideText) := do
  let msgs ← messages s call
  let gas ← Gas.forMessages s.gasPerMessage msgs.length (adjustment call)
  let fee ← Fee.text (.int gas) s.gasPrice s.denom
  return (msgs, gas, fee)

/-- Performs a call. -/
def run {σ : Type} (s : Settings) (broadcast : Broadcaster σ) (call : Call) : Task σ TxResult := do
  let (msgs, gas, fee) ← plan s call
  let tx ← broadcast msgs fee gas ""
  Task.info .execution <|
    "Tx " ++ tx.txHash.display ++ s!": {msgs.length} messages"
  return tx

end Executor

end ContractOps
