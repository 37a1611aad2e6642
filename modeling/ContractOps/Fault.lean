import ContractOps.Encoding.Flaw
import ContractOps.Json.Display
import ContractOps.Json.Reader
import ContractOps.Toml.Flaw
import ContractOps.Url.Basic

/-!
# Faults

What can go wrong, by its cause. A `Failure` is one that the operator is told about by name: it
belongs to a `Failure.Family`. The other faults are those of values that have the wrong shape, of
numerals, of files and of the network; a few operations turn those they expect into failures and let
the rest pass. `Fault.message` words every fault.
-/

namespace ContractOps

/-- The families of named failures. -/
inductive Failure.Family where
  | lookup
  | client
  | artifact
  | broadcast
  | query
  | funding
  | page
  | extraction
deriving DecidableEq, Repr

/-- The name under which a family is reported. -/
def Failure.Family.name : Failure.Family → String
  | lookup => "ConfigLookupFailure"
  | client => "ClientUnavailable"
  | artifact => "ArtifactReadFailure"
  | broadcast => "BroadcastFailure"
  | query => "QueryFailure"
  | funding => "InvalidFundingParameters"
  | page => "PageFetchFailure"
  | extraction => "EventExtractionMismatch"

/-- A named failure. -/
inductive Failure where
  /-- No option has the chain id. -/
  | chainNotFound (chainId : Json)
  /-- Several options have the chain id. -/
  | chainAmbiguous (chainId : Json) (options : Nat)
  /-- No contract has the label. -/
  | contractNotFound (label : Json)
  /-- The option lists no endpoint under the key. -/
  | endpointMissing (key : String) (chainId : Json)
  | walletsFileMissing (path : WideText)
  | walletSetMissing (set : Json) (path : WideText)
  | unknownEventFormat (format : Json) (chainId : Json)
  /-- Labels were asked for that no contract has. -/
  | labelsUnknown (labels : List Json)
  | nothingToStore (chainId : Json)
  | chainIdNotGiven
  | labelsNotGiven
  /-- An action was called with a wrong number of arguments. -/
  | usage (form : String)
  | unknownAction (action : String)
  /-- The value names no kind of token, or several. -/
  | unknownToken (value : Json)
  /-- The value names a kind of token without what identifies the token. -/
  | malformedToken (value : Json)
  /-- The message lacks its contract, its sender or its payload. -/
  | incompleteMessage (contract sender : String) (payload : Bytes)
  | amountNotInteger (amount : Json)
  | amountNotPositive (amount : Int)
  | tokenNotJson (text : WideText) (cause : Json.ReadFault)
  | unknownSide (text : WideText)
  | noWallet
  | noWalletFor (addressPrefix : Json) (cause : String)
  | noConnection (url cause : WideText)
  | artifactUnreadable (path : WideText) (cause : String)
  /-- The transaction could not be sent, or the answer could not be read. -/
  | unsent (txHash : String) (cause : WideText)
  /-- The node refused the transaction. -/
  | rejected (txHash : String) (log : Json)
  /-- The transaction was included and failed. -/
  | txFailed (txHash : String) (log : Json)
  | txNotFound (txHash : WideText) (attempts : Nat)
  | queryFailed (query : Json) (address : Json) (cause : WideText)
  /-- A failure that a collaborator reports in its own words. -/
  | reported (family : Failure.Family) (text : WideText)
deriving Inhabited

namespace Failure

/-- The family of a failure. -/
def family : Failure → Family
  | chainNotFound .. | chainAmbiguous .. | contractNotFound .. | endpointMissing ..
  | walletsFileMissing .. | walletSetMissing .. | unknownEventFormat .. | labelsUnknown ..
  | nothingToStore .. | chainIdNotGiven | labelsNotGiven | usage .. | unknownAction .. => .lookup
  | unknownToken .. | malformedToken .. | incompleteMessage .. | amountNotInteger ..
  | amountNotPositive .. | tokenNotJson .. | unknownSide .. => .funding
  | noWallet | noWalletFor .. | noConnection .. => .client
  | artifactUnreadable .. => .artifact
  | unsent .. | rejected .. | txFailed .. | txNotFound .. => .broadcast
  | queryFailed .. => .query
  | reported family _ => family

/-- The wording of a failure. -/
def message : Failure → WideText
  | chainNotFound chainId => s!"Chain id {chainId.literal} is not found in config"
  | chainAmbiguous chainId options =>
    s!"Chain id {chainId.literal} is ambiguous: {options} options match"
  | contractNotFound label => s!"Contract {label.literal} is not found in config"
  | endpointMissing key chainId => s!"{key} is empty for {chainId.literal}"
  | walletsFileMissing path => s!"Wallets file {Text.quoted path} is not found"
  | walletSetMissing set path => s!"Wallet set {set.literal} is not found in {Text.quoted path}"
  | unknownEventFormat format chainId =>
    s!"Unknown EVENT_FORMAT {format.literal} for {chainId.literal}"
  | labelsUnknown labels => s!"Contracts {(Json.arr labels).literal} are not found in config"
  | nothingToStore chainId => s!"Nothing to store on {chainId.literal}: no labels requested"
  | chainIdNotGiven => "Must enter a chain id as 1st cli arg."
  | labelsNotGiven => "Must enter contract labels as 2nd cli arg."
  | usage form => s!"Usage: {form}"
  | unknownAction action =>
    s!"Unknown action {Text.quoted action}, expected one of ['deposit', 'flip']"
  | unknownToken value => s!"Unknown token: {value.literal}"
  | malformedToken value => s!"Malformed token: {value.literal}"
  | incompleteMessage contract sender payload =>
    s!"Execute message parameters error: contract={Text.quoted contract}, " ++
      s!"sender={Text.quoted sender}, msg={Text.quotedBytes payload}"
  | amountNotInteger amount => s!"Amount must be an integer, got {amount.literal}"
  | amountNotPositive amount => s!"Amount must be positive, got {Digits.text amount}"
  | tokenNotJson text cause => s!"Token must be JSON, got {Text.quoted text}: {cause.message}"
  | unknownSide text => s!"Side must be head or tail, got {Text.quoted text}"
  | noWallet => "Client has no wallet, it can only query"
  | noWalletFor addressPrefix cause =>
    s!"Can't create wallet with prefix {addressPrefix.literal}: {cause}"
  | noConnection url cause => "Can't connect to " ++ url ++ ": " ++ cause
  | artifactUnreadable path cause => s!"Can't read artifact {Text.quoted path}: {cause}"
  | unsent txHash cause => s!"Broadcast of {txHash} failed: " ++ cause
  | rejected txHash log => s!"Tx {txHash} rejected: " ++ log.display
  | txFailed txHash log => s!"Tx {txHash} failed: " ++ log.display
  | txNotFound txHash attempts => "Tx " ++ txHash ++ s!" was not found after {attempts} attempts"
  | queryFailed query address cause =>
    "Query " ++ query.display ++ " to " ++ address.display ++ " failed: " ++ cause
  | reported _ text => text

end Failure

/-- A value that has no meaning where it stands. -/
inductive ValueFault where
  | notInteger (text : WideText)
  | integerTooLong (digits : Nat)
  /-- An integer has too many digits to be written. -/
  | integerUnwritable
  | notNumber (text : WideText)
  | nanInteger
  | decimalNanInteger
  /-- A code id does not fit into 64 bits. -/
  | outOfRange (n : Int)
  | notASide (value : Json)
  /-- A pair was expected. -/
  | tooFew (got : Nat)
  | tooMany
  | yearOutOfRange (year : Int)
  | embeddedNull
  /-- A date and time lies a day or more from universal time. -/
  | farFromUniversalTime
  /-- A text cannot be written in an encoding. -/
  | unencodable (flaw : EncodeFlaw)
  /-- A fault that a collaborator reports in its own words. -/
  | reported (text : WideText)

/-- The wording of a value fault. Of a text that is no integer, only the beginning is shown. -/
def ValueFault.message : ValueFault → WideText
  | notInteger text =>
    "invalid literal for int() with base 10: " ++ String.ofList ((Text.quotedChars text).take 200)
  | integerTooLong digits => (Json.ReadFault.tooLong digits).message
  | integerUnwritable =>
    "Exceeds the limit (4300 digits) for integer string conversion; " ++
      "use sys.set_int_max_str_digits() to increase the limit"
  | notNumber text => s!"could not convert string to float: {Text.quoted text}"
  | nanInteger => "cannot convert float NaN to integer"
  | decimalNanInteger => "cannot convert NaN to integer"
  | outOfRange n => s!"Value out of range: {Digits.text n}"
  | notASide value => s!"{value.literal} is not a valid Side"
  | tooFew got => s!"not enough values to unpack (expected 2, got {got})"
  | tooMany => "too many values to unpack (expected 2)"
  | yearOutOfRange year => s!"year {Digits.text year} is out of range"
  | embeddedNull => "embedded null byte"
  | farFromUniversalTime =>
    "offset must be a timedelta strictly between -timedelta(hours=24) and timedelta(hours=24)."
  | unencodable flaw => flaw.message
  | reported text => text

/-- A value whose type does not allow what is done with it. -/
inductive TypeFault where
  | notIterable (kind : String)
  | notSubscriptable (kind : String)
  /-- A text has characters, not members. -/
  | textMember
  /-- A list has items, not members. -/
  | listMember
  | unhashable (kind : String)
  | unsupportedToken (kind : String)
  /-- Any other mismatch. -/
  | mismatch

/-- The wording of a type fault. -/
def TypeFault.message : TypeFault → String
  | notIterable kind => s!"'{kind}' object is not iterable"
  | notSubscriptable kind => s!"'{kind}' object is not subscriptable"
  | textMember => "string indices must be integers, not 'str'"
  | listMember => "list indices must be integers or slices, not str"
  | unhashable kind => s!"unhashable type: '{kind}'"
  | unsupportedToken kind => s!"Unsupported token type: {kind}"
  | mismatch => "unsupported type"

/-- Why a file cannot be used. -/
inductive FileFault where
  | notFound
  | isDirectory
  | notDirectory
  | occupied
  | nameTooLong
deriving DecidableEq, Repr

/-- The number and the wording that the operating system has for a file fault. -/
def FileFault.message : FileFault → WideText → String
  | notFound, path => s!"[Errno 2] No such file or directory: {Text.quoted path}"
  | isDirectory, path => s!"[Errno 21] Is a directory: {Text.quoted path}"
  | notDirectory, path => s!"[Errno 20] Not a directory: {Text.quoted path}"
  | occupied, path => s!"[Errno 17] File exists: {Text.quoted path}"
  | nameTooLong, path => s!"[Errno 36] File name too long: {Text.quoted path}"

/-- What went wrong. -/
inductive Fault where
  /-- A named failure. -/
  | failure (f : Failure)
  /-- A member or an entry is missing. -/
  | missingKey (key : Json)
  /-- A list or a text has no item at an index. -/
  | noItem (kind : String)
  | value (v : ValueFault)
  | type (t : TypeFault)
  /-- A value without members was asked for one. -/
  | noMembers (kind : String)
  /-- A number is too large for a conversion. -/
  | overflow
  | decimal (d : Decimal.Fault)
  /-- A text is no JSON. -/
  | json (f : Json.ReadFault)
  /-- Octets are no UTF-8. -/
  | notUtf8
  /-- Octets stand for no text in the encoding that they seem to be in. -/
  | undecodable (flaw : DecodeFlaw)
  /-- A text is no TOML. -/
  | toml (f : Toml.Flaw)
  | file (f : FileFault) (path : WideText)
  /-- A moment lies outside the calendar of the system. -/
  | clock
  /-- A text is no address of a request. -/
  | url (f : Url.Flaw)
  /-- A request got no answer. -/
  | transport (kind : String) (text : WideText)
  /-- A fault of a collaborator that nobody expects. -/
  | foreign (kind : String) (text : WideText)

namespace Fault

/-- The wording of a fault. -/
def message : Fault → WideText
  | failure f => f.message
  | missingKey key => key.literal
  | noItem kind => s!"{kind} index out of range"
  | value v => v.message
  | type t => t.message
  | noMembers kind => s!"'{kind}' object has no members"
  | overflow => "int too large to convert to float"
  | decimal .invalid => "invalid decimal operation"
  | decimal .overflow => "decimal number too large"
  | decimal .nanCeiling => ValueFault.decimalNanInteger.message
  | decimal .infiniteCeiling => "cannot convert Infinity to integer"
  | json f => f.message
  | notUtf8 => "invalid start byte"
  | undecodable flaw => flaw.message
  | toml f => f.message
  | file f path => f.message path
  | clock => "[Errno 75] Value too large for defined data type"
  | url f => f.message
  | transport _ text => text
  | foreign _ text => text

/-- Faults of values: a numeral, a text or an encoding that cannot be read. -/
def isValueFault : Fault → Bool
  | value _ | notUtf8 | undecodable _ | toml .malformed | decimal .nanCeiling => true
  | url (.unencodable _) | url (.label _) => true
  | json f => f.isValueFault
  | _ => false

/-- Faults of the network. -/
def isTransport : Fault → Bool
  | transport .. => true
  | _ => false

/-- A member or an entry is missing. -/
def isMissingKey : Fault → Bool
  | missingKey _ => true
  | _ => false

end Fault

end ContractOps
