import ContractOps.Json.Printer
import ContractOps.Text.Quoted

/-!
# Values in messages

Messages and logs show a value in literal notation (`Json.literal`): texts between quotes, `None`,
`True` and `False`, lists and objects in their brackets. A text that is a whole part of a message
stands there as it is (`Json.display`). As for the printed forms, no value is nested too deeply for
that, and no integer is too long.
-/

namespace ContractOps.Json

mutual

/-- Literal notation of a value. -/
def literalChars : Json → List Char
  | null => "None".toList
  | bool true => "True".toList
  | bool false => "False".toList
  | int n => Digits.ofInt n
  | float x => x.spell "inf".toList "nan".toList
  | str s => Text.quotedChars s
  | arr items => '[' :: literalItems items ++ [']']
  | obj members => '\x7b' :: literalMembers members ++ ['\x7d']

/-- Items, separated by commas. -/
def literalItems : List Json → List Char
  | [] => []
  | [v] => literalChars v
  | v :: w :: vs => literalChars v ++ [',', ' '] ++ literalItems (w :: vs)

/-- Members, separated by commas. -/
def literalMembers : List (WideText × Json) → List Char
  | [] => []
  | [(name, v)] => Text.quotedChars name ++ [':', ' '] ++ literalChars v
  | (name, v) :: m :: ms =>
    Text.quotedChars name ++ [':', ' '] ++ literalChars v ++ [',', ' '] ++
      literalMembers (m :: ms)

end

/-- Literal notation of a value. -/
def literal (v : Json) : String := String.ofList v.literalChars

/-- A value as part of a message: a text as it is, anything else in literal notation. -/
def display : Json → WideText
  | str s => s
  | v => v.literal

end ContractOps.Json
