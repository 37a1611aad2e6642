import ContractOps.Encoding.Hex
import ContractOps.Text.CodePoint
import ContractOps.Text.Split
import ContractOps.Toml.Flaw

/-!
# Texts in quotes

    "basic \t text"     'literal text'     """text of
    several lines"""

Between double quotes a backslash begins an escape. Escapes by code point are resolved first and all
others after them, so that a backslash or a quote that a code point stands for counts like one that
was written. Quotes that stand for themselves are found by `isClosed`.
-/

namespace ContractOps.Toml

/-- Whether the number of backslashes at the end of a text is odd. -/
def endsEscaped (cs : WideText) : Bool := (cs.reverse.takeWhile (· == .char '\\')).length % 2 == 1

/-- What an escape of one letter stands for. -/
def escape? : CodePoint → Option CodePoint
  | .char '0' => some '\x00'
  | .char 'b' => some '\x08'
  | .char 'f' => some '\x0c'
  | .char 'n' => some '\n'
  | .char 'r' => some '\r'
  | .char 't' => some '\t'
  | .char '"' => some '"'
  | _ => none

/-- Resolves the escapes of one letter. Those by code point stay as they are. -/
def unescape : WideText → Except Flaw WideText
  | .char '\\' :: .char '\\' :: cs => do return .char '\\' :: (← unescape cs)
  | .char '\\' :: .char 'u' :: cs => do return .char '\\' :: .char 'u' :: (← unescape cs)
  | .char '\\' :: .char 'U' :: cs => do return .char '\\' :: .char 'U' :: (← unescape cs)
  | .char '\\' :: c :: cs =>
    match escape? c with
    | some d => do return d :: (← unescape cs)
    | none => .error .malformed
  | c :: cs => do return c :: (← unescape cs)
  | [] => .ok []

/-! ### Escapes by code point -/

/-- The digit that a hexadecimal letter stands for. -/
def hexDigit? (c : CodePoint) : Option Nat := c.char?.bind Hex.value?

/-- The code point that hexadecimal digits stand for. Halves of surrogate pairs are refused if the
digits begin with them. -/
def codePoint (digits : List Nat) : Except Flaw CodePoint :=
  match digits with
  | [] => .error .cutShort
  | [0xd] => .error .cutShort
  | first :: rest =>
    let n := digits.foldl (fun n d => 16 * n + d) 0
    if first = 0xd ∧ 8 ≤ rest.headD 0 then .error .malformed
    else if 0x80000000 ≤ n then .error .tooLarge
    else if 0x10ffff < n then .error .malformed
    else .ok (.ofNat n)

/-- A part of a text that a mark of a code point stands before, with so many digits. -/
def resolvePart (size : Nat) (part : WideText) : Except Flaw WideText :=
  match (part.take size).mapM hexDigit? with
  | some digits => do return (← codePoint digits) :: part.drop size
  | none => .error .malformed

/-- Resolves the marks of code points before parts. A mark after a backslash that is not escaped is
none. -/
def resolveParts (mark : WideText) (size : Nat) :
    Bool → List WideText → Except Flaw WideText
  | _, [] => .ok []
  | true, part :: parts => do
    return mark ++ part ++ (← resolveParts mark size (endsEscaped part) parts)
  | false, part :: parts => do
    let part ← resolvePart size part
    return part ++ (← resolveParts mark size false parts)

/-- Resolves the escapes by code point with a letter and so many digits. -/
def resolve (letter : Char) (size : Nat) (cs : WideText) : Except Flaw WideText :=
  let mark : WideText := ['\\', letter]
  match Text.splitAll mark 0 cs with
  | [] => .ok []
  | first :: parts => do return first ++ (← resolveParts mark size (endsEscaped first) parts)

/-! ### Quotes -/

/-- Whether every backslash begins an escape, judged by what stands between backslashes. -/
def escapesAreKnown (escaped : Bool) : List WideText → Bool
  | [] => true
  | [] :: parts => escapesAreKnown (!escaped) parts
  | (c :: _) :: parts =>
    ((escape? c).isSome || c == .char 'u' || c == .char 'U' || escaped) &&
      escapesAreKnown false parts

/-- Whether nothing stands behind the end of a text, judged by what stands between its quotes.
Between threefold quotes, a single quote ends nothing. -/
def isClosed (threefold closed : Bool) (quotes : Nat) : List WideText → Bool
  | [] => true
  | [] :: parts =>
    if threefold then isClosed threefold closed (quotes + 1) parts
    else isClosed threefold true quotes parts
  | part :: parts =>
    if endsEscaped part then isClosed threefold closed quotes parts
    else if closed then false
    else if !threefold || quotes > 1 then isClosed threefold true quotes parts
    else isClosed threefold closed 0 parts

/-- A text without its quotes, of which there are one or three at either end. -/
def unquote (quote : CodePoint) (cs : WideText) : WideText :=
  let inner (cs : WideText) : WideText := (cs.drop 1).dropLast
  match cs with
  | _ :: a :: rest =>
    if a = quote ∧ (rest.isEmpty ∨ rest.head? = some quote) then inner (inner (inner cs))
    else inner cs
  | _ => inner cs

/-- The text that a quoted text stands for. -/
def quotedText (quote : Char) (cs : List Char) : Except Flaw WideText := do
  let v : WideText := .ofChars cs
  let parts := Text.split (.char quote) (v.drop 1)
  -- two empty parts in front come from a threefold quote
  let closes :=
    match parts with
    | [] :: [] :: parts => isClosed true false 0 parts
    | parts => isClosed false false 0 parts
  if !closes then throw .malformed
  if quote = '\'' then return unquote quote v
  if !escapesAreKnown false ((Text.split (.char '\\') v).drop 1) then throw .malformed
  return unquote quote (← unescape (← resolve 'U' 8 (← resolve 'u' 4 v)))

end ContractOps.Toml
