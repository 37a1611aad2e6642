import ContractOps.Message.Platform
import ContractOps.Text.Casing
import ContractOps.Text.Split

/-!
# Arguments of the commands

Amounts, tokens and sides of a coin as an operator writes them, and the list of labels: several
labels may share an argument, separated by commas. The arguments of a command are strings, so that
none of them holds half of a surrogate pair; octets that are no text in UTF-8 are not among them.
-/

namespace ContractOps.Command

/-- A positive integer. -/
def parseAmount (v : Json) : Except Fault Int := do
  let amount ← match v.toInt with
    | .ok n => pure n
    | .error e => throw (if e.isValueFault then .failure (.amountNotInteger v) else e)
  if amount ≤ 0 then throw (.failure (.amountNotPositive amount)) else return amount

/-- A token, as JSON. -/
def parseToken (s : WideText) : Except Fault Token :=
  match Json.read s with
  | .ok v => Token.ofJson v
  | .error (.malformed reason line column offset) =>
    .error (.failure (.tokenNotJson s (.malformed reason line column offset)))
  | .error e => .error (.json e)

/-- A side, in letters of either case. -/
def parseSide (s : WideText) : Except Fault Side :=
  match Side.ofName? (Text.lowercase s) with
  | some side => .ok side
  | none => .error (.failure (.unknownSide s))

/-- The labels in an argument. Empty ones do not count. -/
def labelsOf (argument : String) : List String :=
  ((Text.split ',' argument.toList).filter (!·.isEmpty)).map String.ofList

/-- A chain id, and labels. -/
def parseStore : List String → Except Fault (String × List String)
  | [] => .error (.failure .chainIdNotGiven)
  | chainId :: arguments => .ok (chainId, arguments.flatMap labelsOf)

end ContractOps.Command
