import ContractOps.Client.Basic
import ContractOps.Proofs.Task.Steps

/-!
# What requests do

A request takes the first of the answers to come and is put down in the history, whatever the answer
is. So the network after a run is known once its requests are (`Network.after`), and the answer to a
request is known by how many were made before it (`Network.reply`). With this, one equation for each
task of a client says what it comes to and which network it leaves.
-/

namespace ContractOps

/-- Some answers later, with what happened since. -/
def Network.after (n : Network) (requests : Nat) (events : List Event) : Network :=
  { n with answers := n.answers.drop requests, events := n.events ++ events }

/-- A session in which the network was asked for some answers, and no notices were left. -/
def Session.after (session : Session Network) (requests : Nat) (events : List Event) :
    Session Network :=
  { session with world := session.world.after requests events }

namespace Network

/-- The answer to the request that is made after some others. -/
def reply (n : Network) (others : Nat) : Except Fault Response :=
  n.answers[others]?.getD (.error (.transport "ConnectError" "no route"))

@[simp] theorem reply_after (n : Network) (requests : Nat) (events : List Event) (others : Nat) :
    (n.after requests events).reply others = n.reply (requests + others) := by
  rw [reply, after, List.getElem?_drop]
  rfl

@[simp] theorem after_after (n : Network) (first later : Nat) (events more : List Event) :
    (n.after first events).after later more = n.after (first + later) (events ++ more) := by
  simp [after]

@[simp] theorem after_zero (n : Network) : n.after 0 [] = n := by
  simp [after]

end Network

namespace Session

variable (session : Session Network)

@[simp] theorem world_after (requests : Nat) (events : List Event) :
    (session.after requests events).world = session.world.after requests events :=
  rfl

@[simp] theorem after_after (first later : Nat) (events more : List Event) :
    (session.after first events).after later more =
      session.after (first + later) (events ++ more) := by
  rw [Session.after, Session.after, Session.after, Network.after_after]

@[simp] theorem after_zero : session.after 0 [] = session := by
  rw [Session.after, Network.after_zero]

end Session

namespace Network

/-! ## Requests -/

theorem runIn_record (event : Event) (session : Session Network) :
    (record event).runIn session = (.ok (), session.after 0 [event]) :=
  rfl

theorem runIn_pause (seconds : Nat) (session : Session Network) :
    (pause seconds).runIn session = (.ok (), session.after 0 [.pause seconds]) :=
  rfl

theorem runIn_answer (session : Session Network) :
    answer.runIn session = (session.world.reply 0, session.after 1 []) := by
  obtain ⟨⟨answers, account, signed, events⟩, notices⟩ := session
  rw [answer, Task.runIn_bind_ok (Task.runIn_world _)]
  -- a network without answers left keeps failing, as `reply` has it
  cases answers with
  | nil => simp [reply, Session.after, after]
  | cons first rest =>
    dsimp only
    rw [Task.runIn_bind_ok (Task.runIn_update _ _)]
    cases first <;> simp [reply, Session.after, after]

theorem runIn_get (address : WideText) (timeout : Nat) (session : Session Network) :
    (get address timeout).runIn session =
      (session.world.reply 0 >>= deliver address, session.after 1 [.get address timeout]) := by
  rw [get, Task.runIn_bind_ok (runIn_record _ session)]
  rw [Task.runIn_bind_still (runIn_answer _) fun response => Task.runIn_lift _ _]
  simp

/-- A response with the address that it comes from, which has to be a text. -/
def deliverTo (address : Json) (response : Response) : Except Fault (Response × Url) :=
  match address with
  | .str address => deliver address response
  | _ => .error (.type .mismatch)

theorem runIn_post (address body : Json) (timeout : Nat) (session : Session Network) :
    (post address body timeout).runIn session =
      (session.world.reply 0 >>= deliverTo address,
        session.after 1 [.post address body timeout]) := by
  rw [post, Task.runIn_bind_ok (runIn_record _ session)]
  rw [Task.runIn_bind_still (f := deliverTo address) (runIn_answer _)]
  · simp
  · intro response
    cases address with
    | str address => exact Task.runIn_lift _ _
    | _ => rfl

end Network

namespace Client

/-! ## Failures by name -/

/-- A result where some faults count as a named failure. -/
def named {α : Type} (expected : Fault → Bool) (failure : WideText → Failure) :
    Except Fault α → Except Fault α
  | .ok a => .ok a
  | .error e => if expected e then .error (.failure (failure e.message)) else .error e

theorem runIn_orFail {σ α : Type} (expected : Fault → Bool) (failure : WideText → Failure)
    (step : Task σ α) (session : Session σ) :
    (orFail expected failure step).runIn session =
      (named expected failure (step.runIn session).1, (step.runIn session).2) := by
  rw [orFail, Task.runIn_bind_ok (Task.runIn_attempt step session)]
  cases (step.runIn session).1 with
  | ok a => rfl
  | error e =>
    dsimp only
    rw [named]
    split <;> rfl

theorem named_eq_ok {α : Type} {expected : Fault → Bool} {failure : WideText → Failure}
    {result : Except Fault α} {a : α} : named expected failure result = .ok a ↔ result = .ok a := by
  cases result with
  | ok b => rfl
  | error e =>
    rw [named]
    split <;> simp

variable (c : Client) (session : Session Network)

/-! ## Transactions -/

/-- Making a transaction asks for the account and signs, and no request is made for it. -/
theorem createTx_eq_ok {messages : List Message} {fee : WideText} {gasLimit : Int} {memo : String}
    {bytes : Bytes} {sealed : Session Network}
    (h : (c.createTx messages fee gasLimit memo).runIn session = (.ok bytes, sealed)) :
    ∃ address ledger tx, tx.messages = messages ∧
      sealed = session.after 0 [.account address ledger, .transaction tx] := by
  obtain ⟨ledger, _, h⟩ := Task.runIn_lift_bind_eq_ok.mp h
  obtain ⟨address, _, h⟩ := Task.runIn_lift_bind_eq_ok.mp h
  obtain ⟨account, asked, haccount, h⟩ := Task.runIn_bind_eq_ok.mp h
  -- the history has the question for the account, however it was answered
  have hasked : asked = session.after 0 [.account address ledger] := by
    rw [Network.accountOf, Task.runIn_bind_ok (Network.runIn_record _ session),
      Task.runIn_bind_ok (Task.runIn_world _)] at haccount
    split at haccount
    · exact (Prod.ext_iff.mp haccount).2.symm
    · cases haccount
  rw [Network.sign, Task.runIn_bind_ok (Network.runIn_record _ _), hasked, Session.after_after] at h
  exact ⟨address, ledger, _, rfl, (Prod.ext_iff.mp h).2.symm⟩

/-! ## Submissions and queries -/

/-- The value that a response shows, if its status is a success. -/
def shown (delivered : Except Fault (Response × Url)) : Except Fault Json := do
  let answer ← delivered
  answer.1.check answer.2
  answer.1.json

theorem runIn_submit (hash : String) (bytes : Bytes) :
    (c.submit hash bytes).runIn session =
      (named (fun e => e.isTransport || e.isValueFault) (Failure.unsent hash)
          (shown (session.world.reply 0 >>= Network.deliverTo c.rpcUrl)),
        session.after 1 [.post c.rpcUrl (broadcastRequest bytes) requestTimeout]) := by
  rw [submit, runIn_orFail]
  rw [Task.runIn_bind_still (f := fun d => d.1.check d.2 >>= fun _ => d.1.json)
    (Network.runIn_post _ _ _ session)]
  · rfl
  · intro ⟨response, url⟩
    exact Task.runIn_bind_still (Task.runIn_lift _ _) fun _ => Task.runIn_lift _ _

theorem runIn_query (contract query : Json) :
    (c.query contract query).runIn session =
      (named (fun e => e.isTransport || e.isValueFault || e.isMissingKey)
          (Failure.queryFailed query contract)
          (shown (session.world.reply 0 >>=
              Network.deliverTo (.str (c.queryUrl contract query))) >>=
            fun body => body.member "data"),
        session.after 1 [.get (c.queryUrl contract query) requestTimeout]) := by
  rw [Client.query, runIn_orFail]
  rw [Task.runIn_bind_still
    (f := fun d => d.1.check d.2 >>= fun _ => d.1.json >>= fun body => body.member "data")
    (Network.runIn_get _ _ session)]
  · simp only [shown, bind_assoc, Network.deliverTo]
  · intro ⟨response, url⟩
    refine Task.runIn_bind_still (Task.runIn_lift _ _) fun _ => ?_
    exact Task.runIn_bind_still (Task.runIn_lift _ _) fun _ => Task.runIn_lift _ _

/-! ## What responses show -/

/-- The address is one that requests can go to. -/
def Reachable (address : Json) : Prop :=
  ∃ text url, address = .str text ∧ Url.ofRequest text = .ok url

/-- A response from an address is a success, with a value for its body. -/
structure Shows (address : Json) (response : Response) (body : Json) : Prop where
  reachable : Reachable address
  success : 200 ≤ response.status ∧ response.status ≤ 299
  json : response.json = .ok body

theorem deliverTo_eq_ok {address : Json} {response : Response} {answer : Response × Url} :
    Network.deliverTo address response = .ok answer ↔
      ∃ text, address = .str text ∧ Url.ofRequest text = .ok answer.2 ∧ answer.1 = response := by
  cases address with
  | str text =>
    obtain ⟨first, second⟩ := answer
    rw [Network.deliverTo, Network.deliver]
    split
    · next url hurl => simp [hurl, eq_comm, and_comm]
    · next flaw hurl => simp [hurl]
  | _ => simp [Network.deliverTo]

theorem deliverTo_of_flaw {text : WideText} {flaw : Url.Flaw} (h : Url.ofRequest text = .error flaw)
    (response : Response) : Network.deliverTo (.str text) response = .error (.url flaw) := by
  rw [Network.deliverTo, Network.deliver, h]

theorem check_eq_ok {response : Response} {url : Url} :
    response.check url = .ok () ↔ 200 ≤ response.status ∧ response.status ≤ 299 := by
  rw [Response.check]
  split <;> simp_all

/-- Of a response from a place that can be reached, the status is checked and the body is read. -/
theorem shown_of_reachable {address : Json} (h : Reachable address) (response : Response) :
    ∃ url, shown (.ok response >>= Network.deliverTo address) =
      (response.check url >>= fun _ => response.json) := by
  obtain ⟨text, url, haddress, hurl⟩ := h
  have hdelivered : Network.deliverTo address response = .ok (response, url) :=
    deliverTo_eq_ok.mpr ⟨text, haddress, hurl, rfl⟩
  refine ⟨url, ?_⟩
  rw [except_ok_bind, hdelivered, shown, except_ok_bind]

theorem shown_of_success {address : Json} {response : Response} (hreachable : Reachable address)
    (hsuccess : 200 ≤ response.status ∧ response.status ≤ 299) :
    shown (.ok response >>= Network.deliverTo address) = response.json := by
  obtain ⟨url, hshown⟩ := shown_of_reachable hreachable response
  rw [hshown, check_eq_ok.mpr hsuccess, except_ok_bind]

theorem shown_of_failure {address : Json} {response : Response} (hreachable : Reachable address)
    (hfailure : ¬(200 ≤ response.status ∧ response.status ≤ 299)) :
    ∃ text, shown (.ok response >>= Network.deliverTo address) =
      .error (.transport "HTTPStatusError" text) := by
  obtain ⟨url, hshown⟩ := shown_of_reachable hreachable response
  rw [hshown, Response.check, if_neg hfailure]
  exact ⟨_, rfl⟩

/-- The value of an answer is the one that its response shows. -/
theorem shown_eq_ok {reply : Except Fault Response} {address body : Json} :
    shown (reply >>= Network.deliverTo address) = .ok body ↔
      ∃ response, reply = .ok response ∧ Shows address response body := by
  constructor
  · intro h
    obtain ⟨answer, hdelivered, h⟩ := except_bind_eq_ok.mp h
    obtain ⟨response, hreply, hdelivered⟩ := except_bind_eq_ok.mp hdelivered
    obtain ⟨text, haddress, hurl, rfl⟩ := deliverTo_eq_ok.mp hdelivered
    obtain ⟨_, hcheck, hjson⟩ := except_bind_eq_ok.mp h
    exact ⟨answer.1, hreply, ⟨text, answer.2, haddress, hurl⟩, check_eq_ok.mp hcheck, hjson⟩
  · rintro ⟨response, rfl, hreachable, hsuccess, hjson⟩
    rw [shown_of_success hreachable hsuccess, hjson]

/-! ### A client -/

/-- A client for a chain whose endpoints have short names. -/
def shortClient : Client where
  chainId := .str "X"
  denom := .str "u"
  rpcUrl := .str "http://p"
  restUrl := "http://q"
  wallet := some "w"

/-- A network that gives these texts as the bodies of successes. -/
def answering (bodies : List String) : Network where
  answers := bodies.map fun body => .ok ⟨200, Utf8.ofString body⟩
  account := .ok { number := .int 4, sequence := .int 9 }
  signed := [0]
  events := []

/-- The client seals a transaction without messages. -/
theorem runIn_createTx_shortClient (bodies : List String) :
    (shortClient.createTx [] "0u" 1 "").runIn ⟨answering bodies, []⟩ =
      (.ok [0], Session.after ⟨answering bodies, []⟩ 0 [.account "w" "rest+http://q",
        .transaction ⟨[], .int 9, "0u", 1, "", .str "X", .int 4⟩]) :=
  rfl

end Client

end ContractOps
