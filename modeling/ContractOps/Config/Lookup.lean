import ContractOps.Json.Access

/-!
# Look-ups in the configuration

    {"CHAINS": [{"NAME", "PREFIX", "OPTIONS": [{"CHAIN_ID", …, "CONTRACTS": [{"LABEL", …}]}]}]}

The configuration is a JSON value of this shape, and a shape that differs is a fault only where a
look-up meets it. A chain id has to name exactly one option; of contracts with one label the first
counts.
-/

namespace ContractOps.Config

/-- An option with what its chain says about it. -/
structure ChainOption where
  name : Json
  addressPrefix : Json
  option : Json

/-- The member under a name, or `null`. -/
def field (v : Json) (name : WideText) : Except Fault Json := v.getD name .null

/-- The options of a list that have a chain id. -/
def matching (chainId : Json) : List Json → Except Fault (List Json)
  | [] => .ok []
  | option :: rest => do
    let found := (← field option "CHAIN_ID").same chainId
    let others ← matching chainId rest
    return if found then option :: others else others

/-- The options of a chain that have a chain id. -/
def inChain (chainId chain : Json) : Except Fault (List ChainOption) := do
  let options ← matching chainId (← (← chain.getD "OPTIONS" (.arr [])).items)
  let name ← chain.getD "NAME" (.str "")
  let addressPrefix ← chain.getD "PREFIX" (.str "")
  return options.map fun option => { name, addressPrefix, option }

/-- The options of several chains that have a chain id. -/
def inChains (chainId : Json) : List Json → Except Fault (List ChainOption)
  | [] => .ok []
  | chain :: rest => do return (← inChain chainId chain) ++ (← inChains chainId rest)

/-- The only option that has a chain id. -/
def findOption (config chainId : Json) : Except Fault ChainOption := do
  let chains ← (← config.getD "CHAINS" (.arr [])).items
  match ← inChains chainId chains with
  | [option] => return option
  | [] => throw (.failure (.chainNotFound chainId))
  | options => throw (.failure (.chainAmbiguous chainId options.length))

/-- The first contract of a list that has a label. -/
def firstLabelled (label : Json) : List Json → Except Fault Json
  | [] => .error (.failure (.contractNotFound label))
  | contract :: rest => do
    if (← field contract "LABEL").same label then return contract else firstLabelled label rest

/-- The first contract that has a label. -/
def findContract (contracts label : Json) : Except Fault Json := do
  firstLabelled label (← contracts.items)

/-- The address of the platform contract. Before there is one it is empty. -/
def platformAddress (option : Json) : Except Fault Json := do
  let contracts ← option.getD "CONTRACTS" (.arr [])
  (← findContract contracts (.str "platform")).getD "ADDRESS" (.str "")

/-- The endpoint in use: the first one of a list. -/
def endpoint (option : Json) (key : String) : Except Fault Json := do
  let endpoints ← field option key
  if endpoints.truthy then endpoints.first
  else throw (.failure (.endpointMissing key (← field option "CHAIN_ID")))

end ContractOps.Config
