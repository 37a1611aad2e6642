import ContractOps.Numeral.Reading
import ContractOps.Text.Quoted
import ContractOps.Url.HostName
import ContractOps.Url.Ip
import ContractOps.Url.Percent

/-!
# Addresses of requests

    scheme://user@host:port/path?query#fragment

The text of an address is taken apart into these parts, every one of which may be missing, and each
part is brought into its normal form: schemes and hosts in small letters, hosts of other scripts in
ASCII, ports only where they are not the usual ones, paths without steps back, and escapes for what
is not safe. What cannot be brought there is no address of a request. These are rules of the library
that makes requests, and are assumed to be as they stand here.
-/

namespace ContractOps

/-- An address with its parts in their normal form. -/
structure Url where
  scheme : List Char
  userInfo : List Char
  host : WideText
  port : Option Int
  path : List Char
  query : Option (List Char)
  fragment : Option (List Char)
deriving DecidableEq, Repr

namespace Url

/-- Why a text is no address of a request. -/
inductive Flaw where
  | tooLong
  | control (c : Char) (position : Nat)
  | fourOctets (host : WideText)
  | eightGroups (host : WideText)
  | hostName (host : WideText)
  | port (text : WideText)
  | leadingSlashes
  | leadingColon
  /-- A part cannot be written in an encoding. -/
  | unencodable (flaw : EncodeFlaw)
  /-- The host bears the mark of encoded labels and a label is none. -/
  | label (flaw : LabelFlaw)
deriving DecidableEq, Repr

/-- The wording of a flaw. -/
def Flaw.message : Flaw → String
  | tooLong => "URL too long"
  | control c position =>
    s!"Invalid non-printable ASCII character in URL, {Text.quoted [c]} at position {position}."
  | fourOctets host => s!"Invalid IPv4 address: {Text.quoted host}"
  | eightGroups host => s!"Invalid IPv6 address: {Text.quoted host}"
  | hostName host => s!"Invalid IDNA hostname: {Text.quoted host}"
  | port text => s!"Invalid port: {Text.quoted text}"
  | leadingSlashes => "Relative URLs cannot have a path starting with '//'"
  | leadingColon => "Relative URLs cannot have a path starting with ':'"
  | unencodable flaw => flaw.message
  | label flaw => flaw.message

/-- The most characters of an address. -/
def maxLength : Nat := 65536

/-- A part with its unsafe characters escaped. -/
def escape (safe : Char → Bool) (part : WideText) : Except Flaw (List Char) :=
  match Percent.encode safe part with
  | .ok cs => .ok cs
  | .error flaw => .error (.unencodable flaw)

/-- Whether a code point is none of some separators. -/
def isNone (separators : List Char) (c : CodePoint) : Bool := !c.is separators.contains

/-! ### Taking apart -/

/-- The scheme in front of a colon, and what follows it. Without a scheme the text is left alone,
but for a colon at its beginning. -/
def splitScheme (cs : WideText) : List Char × WideText :=
  let isPart (c : Char) : Bool := c.isAlphanum || c = '+' || c = '.' || c = '-'
  let name := WideText.plain (cs.takeWhile (·.is isPart))
  match cs.dropWhile (·.is isPart) with
  | .char ':' :: rest =>
    if (name.head?.map Char.isAlpha).getD true then (name, rest) else ([], cs)
  | _ => ([], cs)

/-- The authority behind two slashes, and what follows it. -/
def splitAuthority (cs : WideText) : WideText × WideText :=
  match cs with
  | .char '/' :: .char '/' :: rest =>
    (rest.takeWhile (isNone ['/', '?', '#']), rest.dropWhile (isNone ['/', '?', '#']))
  | cs => ([], cs)

/-- What stands behind a mark, if the text begins with it. -/
def behind? (mark : Char) : WideText → Option WideText
  | [] => none
  | c :: cs => if c = .char mark then some cs else none

/-- The user in front of the last `@`, and what follows it. -/
def splitUser (authority : WideText) : WideText × WideText :=
  if authority.contains (.char '@') then
    (((authority.reverse.dropWhile (isNone ['@'])).drop 1).reverse,
      (authority.reverse.takeWhile (isNone ['@'])).reverse)
  else ([], authority)

/-- The host, which may stand in brackets, and the port behind it. -/
def splitHost (cs : WideText) : WideText × WideText :=
  let (host, rest) :=
    if cs.head? = some (.char '[') ∧ cs.contains (.char ']') then
      ((cs.reverse.dropWhile (isNone [']'])).reverse, (cs.reverse.takeWhile (isNone [']'])).reverse)
    else (cs.takeWhile (isNone [':', '@']), cs.dropWhile (isNone [':', '@']))
  (host, (behind? ':' rest).getD rest)

/-! ### Hosts -/

/-- Whether a host looks like an address of four octets: four runs of digits between points. Such a
host is held to be an address, so it has no other reading when a run is no octet. Digits without
points are an ordinary name. -/
def looksLikeFour (host : WideText) : Bool :=
  let runs := Text.split (.char '.') host
  runs.length == 4 && runs.all fun run => !run.isEmpty && run.all (·.is Digits.isDigit)

/-- The normal form of a host. -/
def normalHost (host : WideText) : Except Flaw WideText :=
  if host.isEmpty then .ok []
  else if looksLikeFour host then
    if Ip.isFour host then .ok host else .error (.fourOctets host)
  else if host.head? = some (.char '[') ∧ host.getLast? = some (.char ']') then
    let number := (host.drop 1).dropLast
    if Ip.isSix number then .ok number else .error (.eightGroups host)
  else
    match (Text.lowercase host).chars? with
    | none => .error (.hostName host)
    | some name =>
      if HostName.isAscii host.plain then
        (escape Percent.inHost (.ofChars name)).map WideText.ofChars
      else
        match HostName.encode name with
        | .ok name => .ok (.ofChars name)
        | .error _ => .error (.hostName host)

/-! ### Ports -/

/-- The ports that schemes use unless another one is given. -/
def usualPorts : List (String × Int) :=
  [("ftp", 21), ("http", 80), ("https", 443), ("ws", 80), ("wss", 443)]

/-- The port that a text denotes, if it is not the usual one of the scheme. -/
def normalPort (scheme : List Char) (text : WideText) : Except Flaw (Option Int) :=
  if text.isEmpty then .ok none
  else
    match Numeral.int? text.shown with
    | .ok n => .ok (if usualPorts.lookup (String.ofList scheme) = some n then none else some n)
    | .error _ => .error (.port text)

/-! ### Paths -/

/-- Takes the steps of a path: one to the place itself leads nowhere, one back takes away the step
before it, unless that is the beginning. -/
def takeSteps (taken : List WideText) : List WideText → List WideText
  | [] => taken.reverse
  | step :: rest =>
    if step = "." then takeSteps taken rest
    else if step = ".." then takeSteps (if taken = [[]] then taken else taken.drop 1) rest
    else takeSteps (step :: taken) rest

/-- A path without steps that lead nowhere or back. -/
def normalPath (path : WideText) : WideText :=
  [CodePoint.char '/'].intercalate (takeSteps [] (Text.split (.char '/') path))

/-! ### Addresses -/

/-- The first control character of a text. -/
def control? (position : Nat) : WideText → Option Flaw
  | [] => none
  | .char c :: cs =>
    if c.toNat < 0x20 ∨ c.toNat = 0x7f then some (.control c position)
    else control? (position + 1) cs
  | .half _ :: cs => control? (position + 1) cs

/-- Fails on a path that could be taken for something else where it begins an address. -/
def checkStart (path : WideText) : Except Flaw Unit :=
  if ([.char '/', .char '/'] : WideText).isPrefixOf path then .error .leadingSlashes
  else if path.head? = some (.char ':') then .error .leadingColon
  else .ok ()

/-- The address that a text shows. -/
def ofText (text : WideText) : Except Flaw Url := do
  if text.length > maxLength then throw .tooLong
  if let some flaw := control? 0 text then throw flaw
  let (scheme, rest) := splitScheme text
  let (authority, rest) := splitAuthority rest
  let (path, rest) := (rest.takeWhile (isNone ['?', '#']), rest.dropWhile (isNone ['?', '#']))
  let query := (behind? '?' rest).map (·.takeWhile (isNone ['#']))
  let fragment := behind? '#' (rest.dropWhile (isNone ['#']))
  let (user, place) := splitUser authority
  let (host, port) := splitHost place
  let userInfo ← escape Percent.inUserInfo user
  let host ← normalHost host
  let port ← normalPort scheme port
  let isRelative := scheme.isEmpty && userInfo.isEmpty && host.isEmpty && port.isNone
  if isRelative then checkStart path
  let path ← escape Percent.inPath (if isRelative then path else normalPath path)
  return {
    scheme := scheme.map Char.toLower
    userInfo, host, port, path
    query := ← query.mapM (escape Percent.inQuery)
    fragment := ← fragment.mapM (escape Percent.inFragment) }

/-- The host with its port. Groups of digits stand in brackets. -/
def place (u : Url) : WideText :=
  (if u.host.contains (.char ':') then "[" ++ u.host ++ "]" else u.host) ++
    (match u.port with
      | some n => ":" ++ Digits.text n
      | none => "")

/-- The text of an address. -/
def text (u : Url) : WideText :=
  let user : List Char := if u.userInfo.isEmpty then [] else u.userInfo ++ ['@']
  let authority : WideText := .ofChars user ++ u.place
  let optional (mark : Char) (part : Option (List Char)) : List Char :=
    (part.map (mark :: ·)).getD []
  WideText.ofChars (if u.scheme.isEmpty then [] else u.scheme ++ [':']) ++
    (if authority.isEmpty then [] else .char '/' :: .char '/' :: authority) ++
    WideText.ofChars (u.path ++ optional '?' u.query ++ optional '#' u.fragment)

/-- Where a text leaves ASCII. -/
def beyondAscii? (text : WideText) : Option EncodeFlaw :=
  let isAscii (c : CodePoint) : Bool := c.toNat < 0x80
  match text.dropWhile isAscii with
  | [] => none
  | c :: cs => some {
    encoding := "ascii"
    first := c
    start := (text.takeWhile isAscii).length
    count := 1 + (cs.takeWhile (!isAscii ·)).length
    reason := "ordinal not in range(128)" }

/-- Checks that a request can name the host: encoded labels have to stand for labels, and the host
has to be in ASCII. -/
def checkHost (u : Url) : Except Flaw Unit := do
  let host := u.host.plain
  if HostName.mark.isPrefixOf host then
    if let .error flaw := HostName.checkEncoded host then throw (.label flaw)
  if !host.isEmpty then
    if let some flaw := beyondAscii? u.place then throw (.unencodable flaw)

/-- The address that a request goes to. -/
def ofRequest (text : WideText) : Except Flaw Url := do
  let u ← ofText text
  u.checkHost
  return u

end Url

end ContractOps
