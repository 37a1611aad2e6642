import ContractOps.Message.Funding

/-!
# Messages for the platform contract and for collections

An `Action` is what an operator asks of the platform contract. Its payload is an object with one
member, named after the action, and in it exactly the arguments that are given: an argument that is
not given stays away, because the contract takes a null for a reset.
-/

namespace ContractOps

/-- The sides of a coin. -/
inductive Side where
  | head
  | tail
deriving DecidableEq, Repr

namespace Side

/-- The name of a side. -/
def name : Side → String
  | head => "head"
  | tail => "tail"

/-- The side with a name. -/
def ofName? (s : WideText) : Option Side :=
  if s = "head" then some head else if s = "tail" then some tail else none

/-- The side that a value names. -/
def ofJson (v : Json) : Except Fault Side :=
  match v with
  | .str s =>
    match ofName? s with
    | some side => .ok side
    | none => .error (.value (.notASide v))
  | v => .error (.value (.notASide v))

end Side

/-- The least and the greatest bet. -/
structure Range where
  min : Json
  max : Json

/-- A range with its bounds as texts. -/
def Range.toJson (r : Range) : Json :=
  .obj [("min", .str r.min.display), ("max", .str r.max.display)]

/-- What an operator asks of the platform contract. An argument that is `null` is not given. -/
inductive Action where
  | deposit
  | withdraw (amount recipient : Json)
  | flip (side : Json)
  | claim
  | acceptAdminRole
  | updateConfig (admin worker : Json) (bet : Option Range) (platformFee : Json)
  | pause
  | unpause

namespace Action

/-- A member, if its value is given. -/
def given (name : WideText) : Json → Members Json
  | .null => []
  | v => [(name, v)]

/-- The text of a value, if it is given. -/
def textOf : Json → Json
  | .null => .null
  | v => .str v.display

/-- The name of an action. -/
def name : Action → String
  | deposit => "deposit"
  | withdraw .. => "withdraw"
  | flip _ => "flip"
  | claim => "claim"
  | acceptAdminRole => "accept_admin_role"
  | updateConfig .. => "update_config"
  | pause => "pause"
  | unpause => "unpause"

/-- The arguments of an action that are given, in their order. -/
def arguments : Action → Except Fault (Members Json)
  | withdraw amount recipient =>
    .ok (("amount", .str amount.display) :: given "recipient" recipient)
  | flip side => do return [("side", .str (← Side.ofJson side).name)]
  | updateConfig admin worker bet platformFee =>
    .ok (given "admin" admin ++ given "worker" worker ++
      given "bet" ((bet.map Range.toJson).getD .null) ++ given "platform_fee" (textOf platformFee))
  | deposit | claim | acceptAdminRole | pause | unpause => .ok []

/-- The payload of an action. -/
def payload (a : Action) : Except Fault Json := do return .obj [(a.name, .obj (← a.arguments))]

/-- The message of an action, without funds. -/
def message (sender contract : Json) (a : Action) : Except Fault Execution := do
  Execution.compose contract sender (← a.payload) []

end Action

namespace Collection

/-- The message that creates an item of a collection. -/
def mint (sender collection recipient item : Json) : Except Fault Execution :=
  Execution.compose collection sender
    (.obj [("mint", .obj [("owner", recipient), ("token_id", .str item.display)])]) []

/-- One message for each of the items. -/
def mintAll (sender collection recipient items : Json) : Except Fault (List Message) := do
  (← items.items).mapM fun item => do return .execute (← mint sender collection recipient item)

/-- The message that lets an operator handle all items of the sender. -/
def approve (sender collection operator : Json) : Except Fault Execution :=
  Execution.compose collection sender (.obj [("approve_all", .obj [("operator", operator)])]) []

/-- The message that takes that permission back. -/
def revoke (sender collection operator : Json) : Except Fault Execution :=
  Execution.compose collection sender (.obj [("revoke_all", .obj [("operator", operator)])]) []

end Collection

end ContractOps
