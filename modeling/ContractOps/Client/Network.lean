import ContractOps.Client.Http
import ContractOps.Message.Basic
import ContractOps.Task

/-!
# The network

The network answers requests in the order in which they are made, and every request, pause and
transaction is an `Event` of its history. When no answer is left there is no route any more. What is
signed becomes the octets of a transaction. An event is what the network is asked to do: a request
stands in the history, and uses its answer up, also if its address turns out to be none.
-/

namespace ContractOps

/-- The number of an account and of its next transaction. -/
structure Account where
  number : Json
  sequence : Json

/-- A transaction as it is signed. -/
structure Transaction where
  messages : List Message
  sequence : Json
  fee : WideText
  gasLimit : Int
  memo : String
  chainId : Json
  accountNumber : Json

/-- What happens on the network. -/
inductive Event where
  | get (url : WideText) (timeout : Nat)
  | post (url body : Json) (timeout : Nat)
  | pause (seconds : Nat)
  | account (address ledger : WideText)
  | transaction (tx : Transaction)

/-- The answers to come, the account of the wallet, the octets of a transaction, and what
happened. -/
structure Network where
  answers : List (Except Fault Response)
  account : Except Fault Account
  signed : Bytes
  events : List Event

namespace Network

/-- Something happens. -/
def record (event : Event) : Task Network Unit :=
  Task.update fun n => { n with events := n.events ++ [event] }

/-- The answer to the request that was just made. -/
def answer : Task Network Response := do
  match (← Task.world).answers with
  | [] => throw (.transport "ConnectError" "no route")
  | answer :: rest => do
    Task.update fun n => { n with answers := rest }
    match answer with
    | .ok response => return response
    | .error e => throw e

/-- A response with the address that it comes from. -/
def deliver (address : WideText) (response : Response) : Except Fault (Response × Url) :=
  match Url.ofRequest address with
  | .ok url => .ok (response, url)
  | .error flaw => .error (.url flaw)

/-- Asks for what stands under an address. -/
def get (address : WideText) (timeout : Nat) : Task Network (Response × Url) := do
  record (.get address timeout)
  deliver address (← answer)

/-- Sends a body to an address, which has to be a text. -/
def post (address body : Json) (timeout : Nat) : Task Network (Response × Url) := do
  record (.post address body timeout)
  let response ← answer
  match address with
  | .str address => deliver address response
  | _ => throw (.type .mismatch)

/-- Waits. -/
def pause (seconds : Nat) : Task Network Unit := record (.pause seconds)

/-- The account of an address. -/
def accountOf (address ledger : WideText) : Task Network Account := do
  record (.account address ledger)
  match (← Task.world).account with
  | .ok account => return account
  | .error e => throw e

/-- Signs a transaction and gives its octets. -/
def sign (tx : Transaction) : Task Network Bytes := do
  record (.transaction tx)
  return (← Task.world).signed

end Network

end ContractOps
