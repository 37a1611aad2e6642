import ContractOps.Json.Access

/-!
# Results of transactions

`TxResult.ofResponse` reads what a node reports about a transaction. Older nodes group the events by
message under `logs`; newer ones list them flat under `events`.
-/

namespace ContractOps

/-- What became of a transaction. A code other than zero means that it failed. -/
structure TxResult where
  txHash : Json
  height : Int := 0
  code : Int := 0
  rawLog : Json := .str ""
  events : Json := .arr []

namespace TxResult

/-- The events of all messages, in order. -/
def groupedEvents : List Json → Except Fault (List Json)
  | [] => .ok []
  | log :: rest => do
    let events ← (← log.getD "events" (.arr [])).items
    return events ++ (← groupedEvents rest)

/-- Reads the report of a node. -/
def ofResponse (response : Json) : Except Fault TxResult := do
  let logs ← response.getD "logs" .null
  let events ←
    if logs.truthy then do pure (Json.arr (← groupedEvents (← logs.items)))
    else response.getD "events" (.arr [])
  return {
    txHash := ← response.getD "txhash" (.str "")
    height := ← (← response.getD "height" (.int 0)).toInt
    code := ← (← response.getD "code" (.int 0)).toInt
    rawLog := ← response.getD "raw_log" (.str "")
    events }

end TxResult

end ContractOps
