import ContractOps.Client.Ledger
import ContractOps.Client.Network
import ContractOps.Config.Lookup
import ContractOps.Encoding.Base64
import ContractOps.Encoding.Sha256
import ContractOps.Tx.Broadcast

/-!
# The chain client

A client queries contracts through the REST endpoint of a chain and, if it has a wallet, sends
transactions through the RPC endpoint. A transaction is signed, posted, and looked up until the node
knows its result. Queries stand in the address of the request, in Base64. Any value can be printed
as a query (`Json.compact`), so that a query fails for what it is answered and for its address
alone.
-/

namespace ContractOps

/-- How a chain is reached, and the address of the wallet that signs, if there is one. -/
structure Client where
  chainId : Json
  denom : Json
  rpcUrl : Json
  restUrl : WideText
  wallet : Option WideText

namespace Client

/-- Seconds until a request is given up. -/
def requestTimeout : Nat := 60

/-- How often the result of a transaction is looked up. -/
def pollAttempts : Nat := 10

/-- Seconds before every look-up. -/
def pollInterval : Nat := 3

/-- A text without the slashes at its end. -/
def trimSlashes (s : WideText) : WideText := (s.reverse.dropWhile (· == .char '/')).reverse

/-- The client for an option. -/
def ofOption (option : Json) (wallet : Option WideText) : Except Fault Client := do
  let chainId ← option.member "CHAIN_ID"
  let denom ← option.member "DENOM"
  let rpcUrl ← Config.endpoint option "RPC_LIST"
  match ← Config.endpoint option "REST_LIST" with
  | .str url => return { chainId, denom, rpcUrl, restUrl := trimSlashes url, wallet }
  | v => throw (.noMembers v.kind)

/-- The address of the wallet. -/
def address (c : Client) : Except Fault WideText :=
  match c.wallet with
  | some address => .ok address
  | none => .error (.failure .noWallet)

/-- The address of the ledger, if it can be reached. -/
def ledger (c : Client) : Except Fault WideText :=
  let address := "rest+" ++ c.restUrl
  match Ledger.check c.chainId address with
  | .ok _ => .ok address
  | .error e => .error (.failure (.noConnection c.restUrl e.message))

/-- Puts messages into a signed transaction and gives its octets. -/
def createTx (c : Client) (messages : List Message) (fee : WideText) (gasLimit : Int)
    (memo : String) : Task Network Bytes := do
  let ledger ← c.ledger
  let account ← Network.accountOf (← c.address) ledger
  Network.sign {
    messages, fee, gasLimit, memo
    sequence := account.sequence
    chainId := c.chainId
    accountNumber := account.number }

/-- The name of a transaction: the digest of its octets in capital letters. -/
def txHash (bytes : Bytes) : String := (Sha256.hex bytes).toUpper

/-- The request that hands a transaction to a node. -/
def broadcastRequest (bytes : Bytes) : Json :=
  .obj [("jsonrpc", .str "2.0"), ("method", .str "broadcast_tx_sync"),
    ("params", .arr [.str (String.ofList (Base64.encode Base64.standard bytes))]), ("id", .int 1)]

/-- The outcome of a step, where some faults count as a named failure. -/
def orFail {σ α : Type} (expected : Fault → Bool) (failure : WideText → Failure) (step : Task σ α) :
    Task σ α := do
  match ← step.attempt with
  | .ok a => return a
  | .error e => if expected e then Task.fail (failure e.message) else throw e

/-- Hands a transaction to the node. -/
def submit (c : Client) (hash : String) (bytes : Bytes) : Task Network Json :=
  orFail (fun e => e.isTransport || e.isValueFault) (Failure.unsent hash) do
    let (response, url) ← Network.post c.rpcUrl (broadcastRequest bytes) requestTimeout
    response.check url
    response.json

/-- Fails if the node refused a transaction. -/
def checkSubmission (hash : String) (body : Json) : Except Fault Unit := do
  if ← body.contains (.str "error") then
    throw (.failure (.unsent hash (← body.member "error").display))
  let result ← body.getD "result" .null
  let verdict := if result.truthy then result else .obj []
  if (← (← verdict.getD "code" (.int 0)).toInt) ≠ 0 then
    throw (.failure (.rejected hash (← verdict.getD "log" .null)))

/-- The address under which a node shows a transaction. -/
def txUrl (c : Client) (hash : Json) : WideText :=
  c.restUrl ++ "/cosmos/tx/v1beta1/txs/" ++ hash.display

/-- Looks a transaction up, at most so many times. Only success counts as an answer. -/
def poll (url : WideText) : Nat → Task Network (Option Json)
  | 0 => return none
  | attempts + 1 => do
    Network.pause pollInterval
    match ← (Network.get url requestTimeout).attempt with
    | .error e => if e.isTransport then poll url attempts else throw e
    | .ok (response, _) =>
      if response.status = 200 then return some (← (← response.json).member "tx_response")
      else poll url attempts

/-- Waits until the node knows a transaction. -/
def awaitTx (c : Client) (hash : Json) : Task Network Json := do
  match ← poll (c.txUrl hash) pollAttempts with
  | some response => return response
  | none => Task.fail (.txNotFound hash.display pollAttempts)

/-- Sends messages in one transaction and waits for its result. -/
def broadcast (c : Client) : Broadcaster Network := fun messages fee gasLimit memo => do
  let bytes ← c.createTx messages fee gasLimit memo
  let hash := txHash bytes
  Task.info .chain <| s!"Broadcasting {messages.length} messages, tx hash {hash}, fee " ++ fee
  checkSubmission hash (← c.submit hash bytes)
  let result ← TxResult.ofResponse (← c.awaitTx (.str hash))
  if result.code ≠ 0 then Task.fail (.txFailed hash result.rawLog)
  Task.info .chain s!"Tx {hash} included at height {Digits.text result.height}"
  return result

/-- The address of a query to a contract. -/
def queryUrl (c : Client) (contract query : Json) : WideText :=
  let encoded := String.ofList (Base64.encode Base64.urlSafe (Utf8.ofString query.compact))
  c.restUrl ++ "/cosmwasm/wasm/v1/contract/" ++ contract.display ++ "/smart/" ++ encoded

/-- Queries a contract. -/
def query (c : Client) (contract query : Json) : Task Network Json :=
  orFail (fun e => e.isTransport || e.isValueFault || e.isMissingKey)
    (Failure.queryFailed query contract) do
    let (response, url) ← Network.get (c.queryUrl contract query) requestTimeout
    response.check url
    (← response.json).member "data"

end Client

end ContractOps
