import ContractOps.Proofs.Message.Payment
import ContractOps.Proofs.Task.Items

/-!
# The messages of a call

`Composes` says which messages a call is made into: one for each contract that is moved to other
code and for each item that is created, in their order, and a single one for any other call. What a
call comes to is such a list (`composes_of_messages`), and where there is one, it comes to it
(`Composes.messages`), so that one contract or item without a message leaves none for the others.
All messages have the sender who acts (`Composes.names`).
-/

namespace ContractOps

open Message (Names)

/-! ## Executions -/

theorem Message.Names.eq_of_str {s t : String} (h : Names (.str s) t) : t = s := by
  generalize hv : Json.str s = v at h
  cases h with
  | text t =>
    rw [Json.str.injEq, WideText.ofString_inj] at hv
    exact hv.symm
  | nothing => cases hv

namespace Execution

variable {contract sender payload amount : Json} {tender : Tender} {e paid : Execution}

/-- Whatever pays, the execution has the sender who pays. -/
theorem sender_of_ofFunding (h : ofFunding contract sender payload amount tender = .ok e) :
    Names sender e.sender := by
  have hcompose : ∀ {contract payload : Json} {funds : List Coin},
      compose contract sender payload funds = .ok e → Names sender e.sender := by
    intro contract payload funds h
    obtain ⟨author, address, hsender, _, rfl⟩ := compose_eq_ok h
    exact Message.names_of_textField hsender
  rw [ofFunding.eq_def] at h
  split at h
  · exact hcompose h
  · split at h
    · obtain ⟨_, _, h⟩ := except_bind_eq_ok.mp h
      obtain ⟨_, _, h⟩ := except_bind_eq_ok.mp h
      exact hcompose h
    · exact hcompose h
    · cases h

/-- An execution that is made to pay keeps its sender. -/
theorem sender_of_refund (h : e.refund amount tender = .ok paid) : paid.sender = e.sender := by
  rw [refund, refundWithin] at h
  split at h
  · cases h
  · obtain ⟨_, _, h⟩ := except_bind_eq_ok.mp h
    exact (sender_of_ofFunding h).eq_of_str

end Execution

namespace Executor

/-! ## What a call is made into -/

/-- The message executes a contract with a payload, and pays nothing. -/
inductive Delivers (sender contract payload : Json) : Message → Prop
  | intro {author address : String} (hsender : Names sender author)
    (hcontract : Names contract address) :
    Delivers sender contract payload (.execute {
      sender := author
      contract := address
      payload := Message.payload payload
      funds := [] })

/-- The message moves the contract to the code. -/
inductive Migrates (sender codeId payload contract : Json) : Message → Prop
  | intro {author address : String} {code : Nat} (hsender : Names sender author)
    (hcontract : Names contract address) (hcode : Message.codeIdField codeId = .ok code) :
    Migrates sender codeId payload contract
      (.migrate author address code (Message.payload payload))

/-- The payload that creates an item for a recipient. -/
def mintPayload (recipient item : Json) : Json :=
  .obj [("mint", .obj [("owner", recipient), ("token_id", .str item.display)])]

/-- The messages that a call is made into: one for each contract or item of a list, or one for the
call as a whole. -/
inductive Composes (s : Settings) : Call → List Message → Prop
  | transferAdmin {contract newAdmin adjustment : Json} {sender address admin : String}
    (hsender : Names s.sender sender) (hcontract : Names contract address)
    (hadmin : Names newAdmin admin) :
    Composes s (.transferAdmin contract newAdmin adjustment) [.updateAdmin sender address admin]
  | migrateContracts {contracts codeId payload adjustment : Json} {listed : List Json}
    {msgs : List Message} (hlisted : contracts.items = .ok listed)
    (h : List.Forall₂ (Migrates s.sender codeId payload) listed msgs) :
    Composes s (.migrateContracts contracts codeId payload adjustment) msgs
  | approve {collection operator : Json} {m : Message}
    (h : Delivers s.sender collection (.obj [("approve_all", .obj [("operator", operator)])]) m) :
    Composes s (.approve collection operator) [m]
  | revoke {collection operator : Json} {m : Message}
    (h : Delivers s.sender collection (.obj [("revoke_all", .obj [("operator", operator)])]) m) :
    Composes s (.revoke collection operator) [m]
  | mint {collection recipient items : Json} {listed : List Json} {msgs : List Message}
    (hlisted : items.items = .ok listed)
    (h : List.Forall₂ (fun item => Delivers s.sender collection (mintPayload recipient item))
      listed msgs) :
    Composes s (.mint collection recipient items) msgs
  | paid {action : Action} {payload amount : Json} {tender : Tender} {e paid : Execution}
    (hpayload : action.payload = .ok payload)
    (h : Delivers s.sender s.platform payload (.execute e))
    (hpaid : e.refund amount tender = .ok paid) :
    Composes s (.paid action amount tender) [.execute paid]
  | plain {action : Action} {payload : Json} {m : Message} (hpayload : action.payload = .ok payload)
    (h : Delivers s.sender s.platform payload m) :
    Composes s (.plain action) [m]

/-- How many messages a call is made into. -/
def Call.size : Call → Except Fault Nat
  | .migrateContracts contracts _ _ _ => return (← contracts.items).length
  | .mint _ _ items => return (← items.items).length
  | _ => return 1

variable {s : Settings} {call : Call} {sender contract payload codeId : Json} {e : Execution}
  {m : Message} {msgs : List Message}

/-! ## Single messages -/

theorem delivers_iff :
    Delivers sender contract payload (.execute e) ↔
      Execution.compose contract sender payload [] = .ok e := by
  constructor
  · rintro ⟨hsender, hcontract⟩
    rw [Execution.compose, hsender.textField, hcontract.textField]
    rfl
  · intro h
    obtain ⟨_, _, hsender, hcontract, rfl⟩ := Execution.compose_eq_ok h
    exact ⟨Message.names_of_textField hsender, Message.names_of_textField hcontract⟩

/-- A message that delivers a payload is the execution that is composed. -/
theorem delivers_iff_exists :
    Delivers sender contract payload m ↔
      ∃ e, Execution.compose contract sender payload [] = .ok e ∧ m = .execute e := by
  constructor
  · intro h
    cases h with
    | intro hsender hcontract => exact ⟨_, delivers_iff.mp ⟨hsender, hcontract⟩, rfl⟩
  · rintro ⟨e, he, rfl⟩
    exact delivers_iff.mpr he

theorem Delivers.names (h : Delivers sender contract payload m) : Names sender m.sender := by
  cases h with
  | intro hsender _ => exact hsender

/-- A message migrates a contract exactly if it is the migration of the contract. -/
theorem migrates_iff :
    Migrates sender codeId payload contract m ↔
      Message.migration sender contract codeId payload = .ok m := by
  constructor
  · rintro ⟨hsender, hcontract, hcode⟩
    rw [Message.migration, hsender.textField, hcontract.textField, hcode]
    rfl
  · intro h
    obtain ⟨_, hsender, h⟩ := except_bind_eq_ok.mp h
    obtain ⟨_, hcontract, h⟩ := except_bind_eq_ok.mp h
    obtain ⟨_, hcode, h⟩ := except_bind_eq_ok.mp h
    cases h
    exact ⟨Message.names_of_textField hsender, Message.names_of_textField hcontract, hcode⟩

theorem Migrates.names (h : Migrates sender codeId payload contract m) : Names sender m.sender := by
  cases h with
  | intro hsender _ _ => exact hsender

/-- An action is composed into the execution that delivers its payload. -/
theorem message_eq_ok_iff {action : Action} :
    action.message sender contract = .ok e ↔
      ∃ payload, action.payload = .ok payload ∧ Delivers sender contract payload (.execute e) := by
  simp only [Action.message, except_bind_eq_ok, delivers_iff]

/-! ## Whole calls -/

theorem composes_of_messages (h : messages s call = .ok msgs) : Composes s call msgs := by
  cases call with
  | transferAdmin contract newAdmin adjustment =>
    obtain ⟨m, hm, h⟩ := except_bind_eq_ok.mp h
    obtain ⟨_, hsender, hm⟩ := except_bind_eq_ok.mp hm
    obtain ⟨_, hcontract, hm⟩ := except_bind_eq_ok.mp hm
    obtain ⟨_, hadmin, hm⟩ := except_bind_eq_ok.mp hm
    cases hm
    cases h
    exact .transferAdmin (Message.names_of_textField hsender)
      (Message.names_of_textField hcontract) (Message.names_of_textField hadmin)
  | migrateContracts contracts codeId payload adjustment =>
    obtain ⟨listed, hlisted, h⟩ := except_bind_eq_ok.mp h
    -- there is a list of messages only if every contract has one
    refine .migrateContracts hlisted ((mapM_eq_ok_iff.mp h).imp fun contract m hm => ?_)
    exact migrates_iff.mpr hm
  | approve collection operator =>
    obtain ⟨e, he, h⟩ := except_bind_eq_ok.mp h
    cases h
    exact .approve (delivers_iff.mpr he)
  | revoke collection operator =>
    obtain ⟨e, he, h⟩ := except_bind_eq_ok.mp h
    cases h
    exact .revoke (delivers_iff.mpr he)
  | mint collection recipient items =>
    obtain ⟨listed, hlisted, h⟩ := except_bind_eq_ok.mp h
    refine .mint hlisted ((mapM_eq_ok_iff.mp h).imp fun item m hm => ?_)
    obtain ⟨e, he, hm⟩ := except_bind_eq_ok.mp hm
    cases hm
    exact delivers_iff.mpr he
  | paid action amount tender =>
    obtain ⟨e, he, h⟩ := except_bind_eq_ok.mp h
    obtain ⟨paid, hpaid, h⟩ := except_bind_eq_ok.mp h
    cases h
    obtain ⟨payload, hpayload, hdelivers⟩ := message_eq_ok_iff.mp he
    exact .paid hpayload hdelivers hpaid
  | plain action =>
    obtain ⟨e, he, h⟩ := except_bind_eq_ok.mp h
    cases h
    obtain ⟨payload, hpayload, hdelivers⟩ := message_eq_ok_iff.mp he
    exact .plain hpayload hdelivers

theorem Composes.messages (h : Composes s call msgs) : messages s call = .ok msgs := by
  cases h with
  | transferAdmin hsender hcontract hadmin =>
    rw [messages, Message.transferAdmin, hsender.textField, hcontract.textField, hadmin.textField]
    rfl
  | migrateContracts hlisted h =>
    rw [messages, Message.migrations, hlisted, except_ok_bind, mapM_eq_ok_iff]
    exact h.imp fun _ _ hm => migrates_iff.mp hm
  | approve h | revoke h =>
    obtain ⟨e, he, rfl⟩ := delivers_iff_exists.mp h
    exact except_bind_eq_ok.mpr ⟨e, he, rfl⟩
  | mint hlisted h =>
    rw [messages, Collection.mintAll, hlisted, except_ok_bind, mapM_eq_ok_iff]
    refine h.imp fun item m hm => ?_
    obtain ⟨e, he, rfl⟩ := delivers_iff_exists.mp hm
    exact except_bind_eq_ok.mpr ⟨e, he, rfl⟩
  | paid hpayload h hpaid =>
    rw [messages, message_eq_ok_iff.mpr ⟨_, hpayload, h⟩, except_ok_bind, hpaid]
    rfl
  | plain hpayload h =>
    obtain ⟨e, he, rfl⟩ := delivers_iff_exists.mp h
    rw [messages, message_eq_ok_iff.mpr ⟨_, hpayload, h⟩]
    rfl

/-- The messages of a call are those that it is made into. -/
theorem messages_eq_ok_iff : messages s call = .ok msgs ↔ Composes s call msgs :=
  ⟨composes_of_messages, Composes.messages⟩

/-- A call is made into as many messages as its size says. -/
theorem Composes.size (h : Composes s call msgs) : call.size = .ok msgs.length := by
  cases h with
  | migrateContracts hlisted h | mint hlisted h =>
    rw [Call.size, hlisted, h.length_eq.symm]
    rfl
  | transferAdmin | approve | revoke | paid | plain => rfl

/-- All of them are sent by the one who acts. -/
theorem Composes.names (h : Composes s call msgs) : ∀ m ∈ msgs, Names s.sender m.sender := by
  intro m hm
  cases h with
  | transferAdmin hsender _ _ =>
    cases List.mem_singleton.mp hm
    exact hsender
  | migrateContracts _ h =>
    obtain ⟨_, _, hmigrates⟩ := exists_of_forall₂_mem h hm
    exact hmigrates.names
  | mint _ h =>
    obtain ⟨_, _, hdelivers⟩ := exists_of_forall₂_mem h hm
    exact hdelivers.names
  | approve h | revoke h | plain _ h =>
    cases List.mem_singleton.mp hm
    exact h.names
  | paid _ h hpaid =>
    cases List.mem_singleton.mp hm
    rw [Message.sender, Execution.sender_of_refund hpaid]
    exact h.names

end Executor

end ContractOps
