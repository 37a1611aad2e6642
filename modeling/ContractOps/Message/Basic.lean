import ContractOps.Encoding.Utf8
import ContractOps.Json.Access

/-!
# Messages of a transaction

The messages that are signed and broadcast: executing a contract, handing over its administration,
moving it to other code, and storing code. Payloads are JSON, carried as octets. Which values a
field takes is a rule of the encoding of messages, and is assumed to be as it stands here: texts
without halves of surrogate pairs (`Message.plainText`), and numbers of 64 bits in any notation
(`Message.codeIdField`).
-/

namespace ContractOps

/-- An amount of a native denomination. The amount is text. -/
structure Coin where
  denom : String
  amount : String
deriving DecidableEq, Repr

/-- Who may create instances of stored code. -/
inductive Permission where
  | everybody
  | anyOf (addresses : List String)
deriving DecidableEq, Repr

/-- The execution of a contract. -/
structure Execution where
  sender : String
  contract : String
  payload : Bytes
  funds : List Coin
deriving DecidableEq, Repr

/-- A message of a transaction. -/
inductive Message where
  | execute (e : Execution)
  | updateAdmin (sender contract newAdmin : String)
  | migrate (sender contract : String) (codeId : Nat) (payload : Bytes)
  | storeCode (sender : String) (code : Bytes) (permission : Permission)
deriving DecidableEq, Repr

namespace Message

/-- The sender of a message. -/
def sender : Message → String
  | execute e => e.sender
  | updateAdmin s .. => s
  | migrate s .. => s
  | storeCode s .. => s

/-- The octets of a payload. -/
def payload (v : Json) : Bytes := Utf8.ofString v.compact

/-- A text as the value of a field, which is written in UTF-8 and so holds no half of a surrogate
pair. -/
def plainText (s : WideText) : Except Fault String :=
  match Utf8.halves? 0 s with
  | some flaw => .error (.value (.unencodable flaw))
  | none => .ok (String.ofList s.plain)

/-- A text field. Where nothing is given it is empty. -/
def textField : Json → Except Fault String
  | .str s => plainText s
  | .null => .ok ""
  | _ => .error (.type .mismatch)

/-- A code id: a number of 64 bits, which may be a truth value or in floating point. Where nothing
is given it is zero. -/
def codeIdField (v : Json) : Except Fault Nat := do
  let n ← match v with
    | .null => pure 0
    | .float x =>
      match x.ratio? with
      | some (n, d) => if n % d = 0 then pure (n / d) else throw (.type .mismatch)
      | none => throw (.type .mismatch)
    | v =>
      match v.integer? with
      | some n => pure n
      | none => throw (.type .mismatch)
  if 0 ≤ n ∧ n < 0x10000000000000000 then return n.toNat else throw (.value (.outOfRange n))

/-- The message that makes another address the administrator of a contract. -/
def transferAdmin (sender contract newAdmin : Json) : Except Fault Message := do
  return .updateAdmin (← textField sender) (← textField contract) (← textField newAdmin)

/-- The message that moves a contract to other code. -/
def migration (sender contract codeId payload : Json) : Except Fault Message := do
  return .migrate (← textField sender) (← textField contract) (← codeIdField codeId)
    (Message.payload payload)

/-- One message for each of the contracts, all moved to the same code. -/
def migrations (sender contracts codeId payload : Json) : Except Fault (List Message) := do
  (← contracts.items).mapM fun contract => migration sender contract codeId payload

end Message

end ContractOps
