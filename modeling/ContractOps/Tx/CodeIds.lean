import ContractOps.Tx.Result

/-!
# Code ids of stored code

Storing code gives it a code id, and a transaction that stores the code of several contracts reports
the code ids in the order of its messages. They are read from the events (`ofEvents`) or, on chains
that report them only there, from the raw log (`ofRawLog`).
-/

namespace ContractOps.TxResult

/-- Where the code ids of a transaction are read. -/
inductive EventFormat where
  | events
  | rawLog
deriving DecidableEq, Repr

/-- The format that an option asks for. -/
def EventFormat.ofOption (option : Json) : Except Fault EventFormat := do
  let format ← option.getD "EVENT_FORMAT" (.str "events")
  format.hashable
  if format.same (.str "events") then return .events
  else if format.same (.str "raw_log") then return .rawLog
  else throw (.failure (.unknownEventFormat format (← option.getD "CHAIN_ID" .null)))

/-! ### Events -/

/-- The value of the first entry `code_id`, or `null`. -/
def codeIdAttribute : List Json → Except Fault Json
  | [] => .ok .null
  | entry :: rest => do
    if (← entry.getD "key" .null).same (.str "code_id") then entry.getD "value" .null
    else codeIdAttribute rest

/-- The code id that a value shows. What does not consist of digits shows none, that is zero. -/
def codeIdOf (value : Json) : Except Fault Int :=
  let s : WideText := if value.truthy then value.display else []
  if !s.isEmpty && s.all (·.is Text.isDigitLike) then Json.textToInt s else .ok 0

/-- One code id for every event of type `store_code`. -/
def codeIdsOfEvents : List Json → Except Fault (List Int)
  | [] => .ok []
  | event :: rest => do
    if (← event.getD "type" .null).same (.str "store_code") then
      let marks ← (← event.getD "attributes" (.arr [])).items
      let codeId ← codeIdOf (← codeIdAttribute marks)
      return codeId :: (← codeIdsOfEvents rest)
    else codeIdsOfEvents rest

/-- The code ids in a list of events. -/
def ofEvents (events : Json) : Except Fault (List Int) := do codeIdsOfEvents (← events.items)

/-! ### The raw log -/

/-- What stands in the raw log between the name of a code id and its digits. -/
def codeIdMark : WideText := "\"code_id\",\"value\":\""

/-- The digits of a code id at the beginning of the text, with what follows the closing quote. -/
def codeIdAt? (cs : WideText) : Option (WideText × WideText) :=
  match Json.afterWord? codeIdMark cs with
  | none => none
  | some rest =>
    match rest.takeWhile (·.is Text.isDecimal), rest.dropWhile (·.is Text.isDecimal) with
    | d :: ds, .char '"' :: after => some (d :: ds, after)
    | _, _ => none

/-- The digits of all code ids in the text, none overlapping another. -/
def codeIdDigits : WideText → List WideText
  | [] => []
  | c :: cs =>
    match codeIdAt? (c :: cs) with
    | some (digits, after) =>
      digits :: (if after.length ≤ cs.length then codeIdDigits after else [])
    | none => codeIdDigits cs
termination_by cs => cs.length

/-- The code ids in a raw log. -/
def ofRawLog (rawLog : Json) : Except Fault (List Int) :=
  if rawLog.truthy then
    match rawLog with
    | .str s => (codeIdDigits s).mapM Json.textToInt
    | _ => .error (.type .mismatch)
  else .ok []

/-- The code ids of a transaction. -/
def codeIds (format : EventFormat) (tx : TxResult) : Except Fault (List Int) :=
  match format with
  | .events => ofEvents tx.events
  | .rawLog => ofRawLog tx.rawLog

end ContractOps.TxResult
