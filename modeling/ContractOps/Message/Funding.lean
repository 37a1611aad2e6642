import ContractOps.Encoding.Base64
import ContractOps.Message.Basic

/-!
# Funding

A deposit or a flip is paid either in a native denomination or in a token that a contract keeps. The
former is attached to the message. The latter cannot be attached: the message goes to the contract
of the token, as a `send` that names the amount and the contract to be paid and carries the payload
meant for it (`Execution.ofFunding`).

A message that has been composed can still be made to pay (`Execution.refund`). Its payload is read
and printed again then, for which there is only so much room (`Execution.refundWithin`): a payload
that can be printed in one go may be nested too deeply for that.
-/

namespace ContractOps

/-- A token, by what identifies it: a native denomination, or the contract that keeps the token. -/
inductive Token where
  | native (denom : Json)
  | cw20 (address : Json)

/-- Reads `{"native": {"denom": …}}` or `{"cw20": {"address": …}}`. -/
def Token.ofJson (value : Json) : Except Fault Token :=
  let malformed : Except Fault Token := .error (.failure (.malformedToken value))
  let unknown : Except Fault Token := .error (.failure (.unknownToken value))
  match value with
  | .obj [(name, v)] =>
    if name = "native" then
      match v.member "denom" with
      | .ok denom => .ok (.native denom)
      | .error _ => malformed
    else if name = "cw20" then
      match v.member "address" with
      | .ok address => .ok (.cw20 address)
      | .error _ => malformed
    else unknown
  | _ => unknown

/-- What a payment is offered in: a token, or a value that is none. -/
inductive Tender where
  | token (t : Token)
  | other (v : Json)

/-- Whether anything is offered. -/
def Tender.given : Tender → Bool
  | token _ => true
  | other v => v.truthy

namespace Execution

/-- An execution with its funds attached. -/
def compose (contract sender payload : Json) (funds : List Coin) : Except Fault Execution := do
  return {
    sender := ← Message.textField sender
    contract := ← Message.textField contract
    payload := Message.payload payload
    funds }

/-- The payload in text form. -/
def encoded (payload : Json) : String :=
  String.ofList (Base64.encode Base64.standard (Message.payload payload))

/-- The payload that makes the contract of a token send an amount on. -/
def sendPayload (contract amount payload : Json) : Json :=
  .obj [("send", .obj [("contract", contract), ("amount", .str amount.display),
    ("msg", .str (encoded payload))])]

/-- An execution that pays an amount. Without an amount, or without a tender, it pays nothing. -/
def ofFunding (contract sender payload amount : Json) (tender : Tender) : Except Fault Execution :=
  if !(tender.given && amount.truthy) then compose contract sender payload []
  else
    match tender with
    | .token (.native denom) => do
      let coin : Coin := {
        denom := ← Message.textField denom
        amount := ← Message.plainText amount.display }
      compose contract sender payload [coin]
    | .token (.cw20 address) => compose address sender (sendPayload contract amount payload) []
    | .other v => .error (.type (.unsupportedToken v.kind))

/-- Decodes octets into the JSON value that they hold, with room for so many levels of it. -/
def decodeWithin (levels : Nat) (bytes : Bytes) : Except Fault Json :=
  match Utf8.decode? bytes with
  | none => .error .notUtf8
  | some cs =>
    match Json.readWithin levels (.ofChars cs) with
    | .ok v => .ok v
    | .error e => .error (.json e)

/-- Decodes octets into the JSON value that they hold. -/
def decodePayload (bytes : Bytes) : Except Fault Json := decodeWithin Json.maxDepth bytes

/-- The same execution with another payment, in place of the funds it has, with room for so many
levels of its payload. -/
def refundWithin (levels : Nat) (e : Execution) (amount : Json) (tender : Tender) :
    Except Fault Execution :=
  if e.contract.isEmpty || e.sender.isEmpty || e.payload.isEmpty then
    .error (.failure (.incompleteMessage e.contract e.sender e.payload))
  else do
    ofFunding (.str e.contract) (.str e.sender) (← decodeWithin levels e.payload) amount tender

/-- The same execution with another payment, in place of the funds it has. -/
def refund (e : Execution) (amount : Json) (tender : Tender) : Except Fault Execution :=
  e.refundWithin Json.maxDepth amount tender

end Execution

end ContractOps
