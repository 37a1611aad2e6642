import ContractOps.Command.Run
import ContractOps.Proofs.Executor.Turns

/-!
# What calling the platform hands over

A command reaches the files, asks and hands messages over through an `Access`. With direct access
calling is `call` (`callThrough_direct`), and with watched access it comes to the same end and
leaves an event for everything that it hands to a client, whether that client could send it or not
(`callThrough_watched`). The main theorem, `call_pays_once`, says what these events are: none, or
one payment that the arguments ask for, with a positive amount.
-/

namespace ContractOps

open Storage (Watched SameWorld Emits)

variable {σ τ α : Type} {R : σ → τ → Prop}

/-! ## Asking -/

namespace Command

variable {s : Setup} {files : Workspace} {chainId name : String} {arguments : List String}

/-! ## Access to the surroundings -/

/-- How a command reaches its surroundings. -/
structure Access (σ : Type) where
  /-- Does what concerns the files alone. -/
  reach : ∀ {α : Type}, Task World α → Task σ α
  ask : Client → Query.Asker σ
  broadcast : Client → Broadcaster σ

/-- Access that leaves an event for everything that is handed to a client. -/
def Access.watched : Access (Watched World) where
  reach := Storage.inside
  ask client address message := Storage.inside (onNetwork (client.query address message))
  broadcast client := (signer client).watched.broadcast

/-- The arguments after the chain id that ask for an order, with an amount and a token as they are
written. The side is in letters of either case. -/
inductive Asks : List String → Order → String → String → Prop
  | deposit (amount token : String) : Asks ["deposit", amount, token] .deposit amount token
  | flip {side : Side} {written : String} (amount token : String)
    (h : Text.lowercase written = side.name) :
    Asks ["flip", written, amount, token] (.flip side) amount token

/-- Who administers a chain and where its platform is, as the files tell. -/
inductive ActsOn (s : Setup) (files : Workspace) (chainId : String) : WideText → Json → Prop
  | intro {config set wallets mnemonic platform : Json} {chain : Config.ChainOption}
    {administrator : WideText} (hconfig : Config.load files s.places.config = .ok config)
    (hchain : Config.findOption config (.str chainId) = .ok chain)
    (hset : chain.option.member "TYPE" = .ok set)
    (hwallets : Config.loadWallets files s.places.wallets set = .ok wallets)
    (hmnemonic : wallets.member "SEED_ADMIN" = .ok mnemonic)
    (haddress : s.addressOf mnemonic chain.addressPrefix = .ok administrator)
    (hplatform : Config.platformAddress chain.option = .ok platform) :
    ActsOn s files chainId administrator platform

/-- What an operator pays for, and the execution that pays. Arguments are strings, and so is all
that is taken from them. -/
structure Payment where
  chainId : String
  order : Order
  /-- The amount as it is written. -/
  written : String
  /-- The token as it is written. -/
  text : String
  amount : Int
  token : Token
  administrator : String
  platform : String
  execution : Execution

/-- The payment is the one that the arguments ask for, and the execution pays. -/
structure Payment.Explains (s : Setup) (files : Workspace) (arguments : List String) (p : Payment) :
    Prop where
  arguments : ∃ rest, arguments = p.chainId :: rest ∧ Asks rest p.order p.written p.text
  amount : Json.textToInt p.written = .ok p.amount
  positive : 0 < p.amount
  token : ∃ value, Json.read p.text = .ok value ∧ Token.ofJson value = .ok p.token
  acts : ActsOn s files p.chainId p.administrator (.str p.platform)
  platform : p.platform ≠ ""
  pays : Pays p.administrator p.platform p.amount p.order.payload p.token p.execution

end Command

end ContractOps
