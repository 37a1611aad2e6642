import ContractOps.Message.Basic
import ContractOps.Task
import ContractOps.Tx.Result

/-!
# Broadcasting

A broadcaster puts messages into one transaction, with a fee, a gas limit and a memo, sends it and
waits for its result. What sends executions works with any broadcaster, and what stores code with
any signer, which is a broadcaster with the address that it sends from.
-/

namespace ContractOps

/-- Sends messages in one transaction with a fee, a gas limit and a memo. -/
abbrev Broadcaster (σ : Type) := List Message → WideText → Int → String → Task σ TxResult

/-- Sends from an address. Without a wallet there is none. -/
structure Signer (σ : Type) where
  address : Except Fault Json
  broadcast : Broadcaster σ

end ContractOps
