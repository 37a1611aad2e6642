import ContractOps.Json.Access

/-!
# Addresses of ledgers

Accounts are looked up on a ledger, whose address is that of the REST endpoint behind the mark
`rest+`. The address is checked before it is used: its beginning, its brackets, characters that
stand for separators in another form, its scheme and its port. Line ends and tabs in it do not
count. What is checked, and in which order, are rules of the library that talks to the ledger; they
are assumed to be these.
-/

namespace ContractOps.Ledger

/-- What is wrong with the address of a ledger. -/
inductive Flaw where
  | noChainId
  | beginning
  | brackets
  /-- A host of a future kind has no version or no content. -/
  | futureHost
  /-- An address of four octets stands in brackets. -/
  | bracketedFour
  | bracketedName (host : WideText)
  /-- A character of the authority stands for a separator in another form. -/
  | disguised (authority : WideText)
  | scheme (name : WideText)
  | port (text : WideText)
  | portRange
deriving DecidableEq, Repr

/-- The beginnings that an address may have. -/
def schemes : List String := ["grpc+https", "grpc+http", "rest+https", "rest+http"]

/-- The beginnings as they are listed in a message. -/
def schemeList : String := ", ".intercalate (schemes.map fun s => "\"" ++ s ++ "\"")

/-- The wording of a flaw. -/
def Flaw.message : Flaw → WideText
  | noChainId => "Chain id must be set"
  | beginning => s!"URL must start with one of the following prefixes: {schemeList}"
  | brackets => "Invalid IPv6 URL"
  | futureHost => "IPvFuture address is invalid"
  | bracketedFour => "An IPv4 address cannot be in brackets"
  | bracketedName host => s!"{Text.quoted host} does not appear to be an IPv4 or IPv6 address"
  | disguised authority =>
    "netloc '" ++ authority ++ "' contains invalid characters under NFKC normalization"
  | scheme name => "Unsupported url scheme: " ++ name
  | port text => s!"Port could not be cast to integer value as {Text.quoted text}"
  | portRange => "Port out of range 0-65535"

/-- A flaw as a fault of a value. -/
def flawed {α : Type} (f : Flaw) : Except Fault α := .error (.value (.reported f.message))

/-! ### Taking apart -/

/-- What stands behind the last mark, or everything. -/
def afterLast (mark : Char) (cs : WideText) : WideText :=
  (cs.reverse.takeWhile (· != .char mark)).reverse

/-- What stands before the first mark. -/
def beforeFirst (mark : Char) (cs : WideText) : WideText := cs.takeWhile (· != .char mark)

/-- What stands behind the first mark, or nothing. -/
def afterFirst (mark : Char) (cs : WideText) : WideText :=
  (cs.dropWhile (· != .char mark)).drop 1

/-- The scheme of an address in small letters, and what follows the colon. -/
def splitScheme (cs : WideText) : WideText × WideText :=
  let isPart (c : Char) : Bool := c.isAlphanum || c = '+' || c = '-' || c = '.'
  match cs.takeWhile (·.is isPart), cs.dropWhile (·.is isPart) with
  | c :: name, .char ':' :: rest =>
    if c.is Char.isAlpha then
      (.ofChars ((WideText.plain (c :: name)).map Char.toLower), rest)
    else ([], cs)
  | _, _ => ([], cs)

/-- The host with its port: what stands between two slashes and the path. -/
def authority : WideText → WideText
  | .char '/' :: .char '/' :: rest => rest.takeWhile fun c => !c.is ['/', '?', '#'].contains
  | _ => []

/-- The port behind a host, which may stand in brackets. -/
def port (authority : WideText) : WideText :=
  let place := afterLast '@' authority
  if place.contains (.char '[') then afterFirst ':' (afterFirst ']' (afterFirst '[' place))
  else afterFirst ':' place

/-! ### Checks -/

/-- Whether a host is of a future kind: a version in hexadecimal digits, a point, and content. -/
def isFuture (host : WideText) : Bool :=
  let rest := host.drop 1
  let version := rest.takeWhile (·.is fun c => (Hex.value? c).isSome)
  match rest.drop version.length with
  | .char '.' :: _ :: _ => host.head? == some (.char 'v') && !version.isEmpty
  | _ => false

/-- Checks a host that stands in brackets. -/
def checkBracketed (host : WideText) : Except Fault Unit :=
  if host.head? = some (.char 'v') then
    if isFuture host then .ok () else flawed .futureHost
  else if Ip.isFour host then flawed .bracketedFour
  else if Ip.isSix host then .ok ()
  else flawed (.bracketedName host)

/-- Checks the brackets of an authority: there are both or none, and nothing but a port stands
outside of them. -/
def checkBrackets (authority : WideText) : Except Fault Unit :=
  let opens := authority.contains (.char '[')
  if opens != authority.contains (.char ']') then flawed .brackets
  else if !opens then .ok ()
  else
    let place := afterLast '@' authority
    if place.contains (.char '[') then
      let inner := afterFirst '[' place
      let behind := afterFirst ']' inner
      if place.head? ≠ some (.char '[') then flawed .brackets
      else if !behind.isEmpty && behind.head? ≠ some (.char ':') then flawed .brackets
      else checkBracketed (beforeFirst ']' inner)
    else checkBracketed (beforeFirst ':' place)

/-- Characters that stand for a text with a separator in it, in another form. -/
def disguisedSeparators : List Nat :=
  [0x2047, 0x2048, 0x2049, 0x2100, 0x2101, 0x2105, 0x2106, 0x2a74, 0xfe13, 0xfe16, 0xfe55, 0xfe56,
   0xfe5f, 0xfe6b, 0xff03, 0xff0f, 0xff1a, 0xff1f, 0xff20]

/-- Fails if a separator is disguised in an authority. -/
def checkDisguise (authority : WideText) : Except Fault Unit :=
  if authority.any (·.is fun c => disguisedSeparators.contains c.toNat) then
    flawed (.disguised authority)
  else .ok ()

/-- Checks a port. No port is needed. -/
def checkPort (text : WideText) : Except Fault Unit :=
  if text.isEmpty then .ok ()
  else if text.all (·.is Digits.isDigit) then do
    let n ← Json.textToInt text
    if n ≤ 65535 then return () else flawed .portRange
  else flawed (.port text)

/-- Checks an address. -/
def checkAddress (address : WideText) : Except Fault Unit :=
  if !(schemes.any fun s => (WideText.ofString s).isPrefixOf address) then flawed .beginning
  else do
    let (name, rest) := splitScheme (address.filter fun c => !c.is ['\t', '\r', '\n'].contains)
    let place := authority rest
    checkBrackets place
    checkDisguise place
    if !(schemes.any fun s => WideText.ofString s = name) then flawed (.scheme name)
    checkPort (port place)

/-- Checks what a ledger is reached by: the chain id has to be set, and the address to be valid. -/
def check (chainId : Json) (address : WideText) : Except Fault Unit :=
  if chainId.same (.str "") then flawed .noChainId else checkAddress address

end ContractOps.Ledger
