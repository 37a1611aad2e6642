import ContractOps.Listing

/-!
# Queries

What is asked of collections and of the platform contract, as messages, and the questions that take
more than one query. A query goes to a contract address through whatever answers it.
-/

namespace ContractOps.Query

/-! ### Messages -/

/-- Asks for all operators that an owner has admitted. -/
def allOperators (owner : Json) : Json := .obj [("all_operators", .obj [("owner", owner)])]

/-- Asks for the approvals of an item. -/
def approvals (tokenId : Json) : Json := .obj [("approvals", .obj [("token_id", tokenId)])]

/-- Asks for the owner of an item. -/
def ownerOf (tokenId : Json) : Json := .obj [("owner_of", .obj [("token_id", tokenId)])]

/-- The cursor of a request, if there is one. -/
def startAfter : Json → Members Json
  | .null => []
  | cursor => [("start_after", cursor)]

/-- Asks for a page of the items of an owner. -/
def tokens (owner cursor limit : Json) : Json :=
  .obj [("tokens", .obj (("owner", owner) :: ("limit", limit) :: startAfter cursor))]

/-- Asks for a page of the users. -/
def userList (amount cursor : Json) : Json :=
  .obj [("user_list", .obj (("amount", amount) :: startAfter cursor))]

/-- Asks for a user. -/
def user (address : Json) : Json := .obj [("user", .obj [("address", address)])]

/-- Asks for something that needs no argument. -/
def plain (name : WideText) : Json := .obj [(name, .obj [])]

/-! ### Questions -/

variable {σ : Type}

/-- Answers a message to a contract address. -/
abbrev Asker (σ : Type) := Json → Json → Task σ Json

/-- Shows an answer in the log if that is wished. -/
def show? (text : WideText) (displayed : Json) : Task σ Unit :=
  if displayed.truthy then Task.info .queries text else pure ()

/-- Asks, and shows the answer if that is wished. -/
def ask (asker : Asker σ) (address message displayed : Json) : Task σ Json := do
  let answer ← asker address message
  show? answer.display displayed
  return answer

/-- Whether an entry of a list of operators names the operator. -/
def admits (operator : Json) : List Json → Except Fault Bool
  | [] => .ok false
  | entry :: rest => do
    if (← entry.getD "spender" .null).same operator then return true else admits operator rest

/-- Whether an owner has admitted an operator. -/
def isApproved (asker : Asker σ) (owner operator collection : Json) : Task σ Bool := do
  let answer ← ask asker collection (allOperators owner) (.bool false)
  admits operator (← (← answer.getD "operators" (.arr [])).items)

/-- All items of an owner in a collection. -/
def balance (asker : Asker σ) (owner collection displayed limit iterLimit : Json) :
    Task σ (Listing Json) := do
  let fetch (cursor pageLimit : Json) : Task σ (List Json) := do
    (← (← asker collection (tokens owner cursor pageLimit)).member "tokens").items
  let listing ← Listing.collect fetch .ok limit iterLimit
  show? listing.literal displayed
  return listing

/-- All users of the platform. -/
def allUsers (asker : Asker σ) (platform amount iterLimit : Json) : Task σ (Listing Json) :=
  Listing.collect (fun cursor limit => do (← asker platform (userList limit cursor)).items)
    (·.member "address") amount iterLimit

end ContractOps.Query
