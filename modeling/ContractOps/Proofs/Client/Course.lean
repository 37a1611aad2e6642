import ContractOps.Proofs.Client.Polling
import ContractOps.Proofs.Client.Submission

/-!
# The course of a broadcast

A broadcast seals a transaction, submits it (`runIn_send`) and, if the node accepts it, searches for
its result (`runIn_settle`). So the history of a run is known but for the number of look-ups, and
its result by the answers to the submission and to the last look-up (`broadcast_course`).
-/

namespace ContractOps.Client

variable (c : Client)

/-! ## The parts of a broadcast -/

/-- Submits a transaction, and fails if the node does not accept it. -/
def send (hash : String) (bytes : Bytes) : Task Network Unit := do
  checkSubmission hash (← c.submit hash bytes)

/-- Searches for the result of a transaction, and fails if there is none or if it is a failure. -/
def settle (hash : String) : Task Network TxResult := do
  let result ← TxResult.ofResponse (← c.awaitTx (.str hash))
  if result.code ≠ 0 then Task.fail (.txFailed hash result.rawLog)
  Task.info .chain s!"Tx {hash} included at height {Digits.text result.height}"
  return result

theorem broadcast_eq (messages : List Message) (fee : WideText) (gasLimit : Int) (memo : String) :
    c.broadcast messages fee gasLimit memo = (do
      let bytes ← c.createTx messages fee gasLimit memo
      Task.info .chain <|
        s!"Broadcasting {messages.length} messages, tx hash {txHash bytes}, fee " ++ fee
      c.send (txHash bytes) bytes
      c.settle (txHash bytes)) := by
  simp only [broadcast, send, settle, bind_assoc]

/-! ## What becomes of the parts -/

/-- The answer to a submission is a success, and accepts the transaction. -/
def IsAccepted (reply : Except Fault Response) : Prop :=
  ∃ response body, reply = .ok response ∧ Shows c.rpcUrl response body ∧ Accepts body

/-- What becomes of a submission with a certain answer. -/
def submission (hash : String) (reply : Except Fault Response) : Except Fault Unit :=
  named (fun e => e.isTransport || e.isValueFault) (Failure.unsent hash)
    (shown (reply >>= Network.deliverTo c.rpcUrl)) >>= checkSubmission hash

theorem submission_eq_ok {hash : String} {reply : Except Fault Response} :
    c.submission hash reply = .ok () ↔ c.IsAccepted reply := by
  constructor
  · intro h
    obtain ⟨body, hshown, hchecked⟩ := except_bind_eq_ok.mp h
    obtain ⟨response, hreply, hshows⟩ := shown_eq_ok.mp (named_eq_ok.mp hshown)
    exact ⟨response, body, hreply, hshows, checkSubmission_eq_ok.mp hchecked⟩
  · rintro ⟨response, body, hreply, hshows, haccepts⟩
    apply except_bind_eq_ok.mpr
    refine ⟨body, named_eq_ok.mpr ?_, checkSubmission_eq_ok.mpr haccepts⟩
    exact shown_eq_ok.mpr ⟨response, hreply, hshows⟩

theorem runIn_send (hash : String) (bytes : Bytes) (session : Session Network) :
    (c.send hash bytes).runIn session =
      (c.submission hash (session.world.reply 0),
        session.after 1 [.post c.rpcUrl (broadcastRequest bytes) requestTimeout]) :=
  Task.runIn_bind_still (c.runIn_submit session hash bytes) fun _ => Task.runIn_lift _ _

/-- The report that a search has found. -/
def foundReport (hash : Json) : Option Json → Except Fault Json
  | some report => .ok report
  | none => .error (.failure (.txNotFound hash.display pollAttempts))

theorem runIn_awaitTx (hash : Json) (session : Session Network) :
    ∃ lookups found,
      (c.awaitTx hash).runIn session = (found >>= foundReport hash,
        session.after lookups (lookUps (c.txUrl hash) lookups)) ∧
      Ends (c.txUrl hash) session.world.reply pollAttempts lookups found := by
  obtain ⟨lookups, found, hrun, hends⟩ := runIn_poll (c.txUrl hash) pollAttempts session
  refine ⟨lookups, found, ?_, hends⟩
  refine Task.runIn_bind_still hrun fun found => ?_
  cases found <;> rfl

/-- The result of a transaction, if it is no failure. -/
def succeeded (hash : String) (tx : TxResult) : Except Fault TxResult :=
  if tx.code ≠ 0 then .error (.failure (.txFailed hash tx.rawLog)) else .ok tx

/-- What becomes of a transaction that was searched for. -/
def conclusion (hash : String) (found : Except Fault (Option Json)) : Except Fault TxResult :=
  found >>= foundReport (.str hash) >>= TxResult.ofResponse >>= succeeded hash

theorem conclusion_eq_ok {hash : String} {found : Except Fault (Option Json)} {tx : TxResult}
    (h : conclusion hash found = .ok tx) :
    ∃ report, found = .ok (some report) ∧ TxResult.ofResponse report = .ok tx ∧ tx.code = 0 := by
  obtain ⟨read, h, hsucceeded⟩ := except_bind_eq_ok.mp h
  obtain ⟨report, h, hread⟩ := except_bind_eq_ok.mp h
  obtain ⟨known, hfound, hreport⟩ := except_bind_eq_ok.mp h
  rw [succeeded] at hsucceeded
  split at hsucceeded
  · cases hsucceeded
  · next hcode =>
    cases hsucceeded
    cases known with
    | none => cases hreport
    | some known =>
      cases hreport
      exact ⟨report, hfound, hread, not_not.mp hcode⟩

theorem runIn_settle (hash : String) (session : Session Network) :
    ∃ lookups found notices,
      (c.settle hash).runIn session = (conclusion hash found,
        ⟨session.world.after lookups (lookUps (c.txUrl (.str hash)) lookups), notices⟩) ∧
      Ends (c.txUrl (.str hash)) session.world.reply pollAttempts lookups found := by
  obtain ⟨lookups, found, hrun, hends⟩ := c.runIn_awaitTx (.str hash) session
  refine ⟨lookups, found, ?_⟩
  rw [settle, conclusion]
  cases hreport : found >>= foundReport (.str hash) with
  | error e =>
    rw [hreport] at hrun
    exact ⟨_, Task.runIn_bind_error hrun, hends⟩
  | ok report =>
    rw [hreport] at hrun
    rw [Task.runIn_bind_ok hrun, except_ok_bind]
    cases hresult : TxResult.ofResponse report with
    | error e => exact ⟨_, rfl, hends⟩
    | ok tx =>
      rw [Task.runIn_bind_ok (Task.runIn_lift _ _), except_ok_bind, succeeded]
      by_cases hcode : tx.code = 0
      · rw [if_neg (not_not.mpr hcode), if_neg (not_not.mpr hcode)]
        exact ⟨_, rfl, hends⟩
      · rw [if_pos hcode, if_pos hcode]
        exact ⟨_, rfl, hends⟩

variable {c} {messages : List Message} {fee : WideText} {gasLimit : Int} {memo : String}
  {bytes : Bytes} {session sealed : Session Network}

/-- A broadcast fails with its submission, or comes to the conclusion of a search. The first answer
is the one to the submission, because none is taken to seal the transaction. -/
theorem runIn_broadcast
    (hseal : (c.createTx messages fee gasLimit memo).runIn session = (.ok bytes, sealed)) :
    (∃ e notices, c.submission (txHash bytes) (session.world.reply 0) = .error e ∧
      (c.broadcast messages fee gasLimit memo).runIn session = (.error e,
        ⟨sealed.world.after 1 [.post c.rpcUrl (broadcastRequest bytes) requestTimeout],
          notices⟩)) ∨
    (c.submission (txHash bytes) (session.world.reply 0) = .ok () ∧ ∃ lookups found notices,
      (c.broadcast messages fee gasLimit memo).runIn session = (conclusion (txHash bytes) found,
        ⟨sealed.world.after (1 + lookups)
          (.post c.rpcUrl (broadcastRequest bytes) requestTimeout ::
            lookUps (c.txUrl (.str (txHash bytes))) lookups), notices⟩) ∧
      Ends (c.txUrl (.str (txHash bytes))) (fun i => session.world.reply (1 + i)) pollAttempts
        lookups found) := by
  have hreply : ∀ i, sealed.world.reply i = session.world.reply i := by
    obtain ⟨address, ledger, tx, _, rfl⟩ := c.createTx_eq_ok session hseal
    intro i
    rw [Session.world_after, Network.reply_after, Nat.zero_add]
  rw [broadcast_eq, Task.runIn_bind_ok hseal, Task.runIn_bind_ok (Task.runIn_info _ _ _)]
  -- which notices are left does not matter for what is asked and answered
  generalize sealed.notices ++ [_] = notices
  have hsend := c.runIn_send (txHash bytes) bytes ⟨sealed.world, notices⟩
  rw [hreply] at hsend
  cases hsubmission : c.submission (txHash bytes) (session.world.reply 0) with
  | error e =>
    rw [hsubmission] at hsend
    exact .inl ⟨e, notices, rfl, Task.runIn_bind_error hsend⟩
  | ok _ =>
    rw [hsubmission] at hsend
    rw [Task.runIn_bind_ok hsend]
    obtain ⟨lookups, found, after, hrun, hends⟩ := c.runIn_settle (txHash bytes)
      (Session.after ⟨sealed.world, notices⟩ 1
        [.post c.rpcUrl (broadcastRequest bytes) requestTimeout])
    refine .inr ⟨rfl, lookups, found, after, ?_, ?_⟩
    · rw [hrun, Session.world_after, Network.after_after]
      rfl
    · have hlater : (sealed.world.after 1
          [.post c.rpcUrl (broadcastRequest bytes) requestTimeout]).reply =
            fun i => session.world.reply (1 + i) := by
        funext i
        rw [Network.reply_after, hreply]
      rwa [Session.world_after, hlater] at hends

/-- How a broadcast goes, by the answers of the network. The first of them answers the submission,
and the others the look-ups. -/
structure Course (c : Client) (hash : String) (network : Network) (lookups : Nat)
    (result : Except Fault TxResult) : Prop where
  bounded : lookups ≤ pollAttempts
  /-- The transaction is looked up if and only if the node has accepted it. -/
  accepted : 0 < lookups ↔ c.IsAccepted (network.reply 0)
  /-- No look-up is made after one that was answered. -/
  passed : ∀ i, 0 < i → i < lookups → Passes (c.txUrl (.str hash)) (network.reply i)
  /-- Unless all attempts are made, the last look-up was answered. -/
  answered : 0 < lookups → lookups < pollAttempts →
    ¬Passes (c.txUrl (.str hash)) (network.reply lookups)
  /-- A result is the one of the last look-up, and no failure. -/
  included : ∀ tx, result = .ok tx → 0 < lookups ∧ ∃ response body report,
    network.reply lookups = .ok response ∧ response.status = 200 ∧ response.json = .ok body ∧
    body.member "tx_response" = .ok report ∧ TxResult.ofResponse report = .ok tx ∧ tx.code = 0
  /-- If no attempt is answered, the broadcast fails by name. -/
  lost : lookups = pollAttempts → Passes (c.txUrl (.str hash)) (network.reply lookups) →
    result = .error (.failure (.txNotFound hash pollAttempts))

theorem Course.refused {hash : String} {network : Network} {e : Fault}
    (h : c.submission hash (network.reply 0) = .error e) : Course c hash network 0 (.error e) where
  bounded := Nat.zero_le _
  accepted := by
    refine iff_of_false (Nat.lt_irrefl 0) fun haccepted => ?_
    cases (c.submission_eq_ok.mpr haccepted).symm.trans h
  passed := fun i hpos hlt => absurd hlt (Nat.not_lt_zero i)
  answered := fun hpos => absurd hpos (Nat.lt_irrefl 0)
  included := nofun
  lost := nofun

theorem Course.searched {hash : String} {network : Network} {lookups : Nat}
    {found : Except Fault (Option Json)} (h : c.submission hash (network.reply 0) = .ok ())
    (hends : Ends (c.txUrl (.str hash)) (fun i => network.reply (1 + i)) pollAttempts lookups
      found) :
    Course c hash network lookups (conclusion hash found) := by
  have haccepted := c.submission_eq_ok.mp h
  -- the answers to the look-ups are those behind the answer to the submission
  have hpassed : ∀ {others : Nat},
      (∀ i < others, Passes (c.txUrl (.str hash)) (network.reply (1 + i))) →
      ∀ i, 0 < i → i < others + 1 → Passes (c.txUrl (.str hash)) (network.reply i) := by
    intro others hpass i hpos hlt
    obtain ⟨i, rfl⟩ := Nat.exists_eq_add_of_le hpos
    exact hpass i (by omega)
  cases hends with
  | found hbound hpass hlast =>
    -- the last look-up is the one that was answered
    rw [Nat.add_comm 1] at hlast
    refine ⟨hbound, iff_of_true (Nat.succ_pos _) haccepted, hpassed hpass, fun _ _ => hlast, ?_,
      fun _ hpasses => absurd hpasses hlast⟩
    intro tx htx
    obtain ⟨found, hfound, hread, hcode⟩ := conclusion_eq_ok htx
    obtain ⟨_, hreport, hsome⟩ := except_bind_eq_ok.mp hfound
    cases hsome
    rw [Nat.add_comm 1] at hreport
    obtain ⟨response, body, hreply, hstatus, hjson, hmember⟩ := report_eq_ok hlast hreport
    exact ⟨Nat.succ_pos _, response, body, found, hreply, hstatus, hjson, hmember, hread, hcode⟩
  | lost hpass =>
    refine ⟨Nat.le_refl _, iff_of_true (by decide) haccepted, ?_,
      fun _ hlt => absurd hlt (Nat.lt_irrefl _), nofun, fun _ _ => rfl⟩
    intro i hpos hlt
    exact hpassed hpass i hpos (Nat.lt_succ_of_lt hlt)

/-- A broadcast whose transaction is sealed makes one submission and, if it is accepted, look-ups of
this transaction. -/
theorem broadcast_course
    (hseal : (c.createTx messages fee gasLimit memo).runIn session = (.ok bytes, sealed)) :
    ∃ address ledger tx lookups result after, tx.messages = messages ∧
      (c.broadcast messages fee gasLimit memo).runIn session = (result, after) ∧
      after.world.events = session.world.events ++
        .account address ledger :: .transaction tx ::
          .post c.rpcUrl (broadcastRequest bytes) requestTimeout ::
            lookUps (c.txUrl (.str (txHash bytes))) lookups ∧
      Course c (txHash bytes) session.world lookups result := by
  obtain ⟨address, ledger, tx, hmessages, hsealed⟩ := c.createTx_eq_ok session hseal
  refine ⟨address, ledger, tx, ?_⟩
  obtain ⟨e, notices, hsubmission, hrun⟩ |
    ⟨hsubmission, lookups, found, notices, hrun, hends⟩ := runIn_broadcast hseal
  · refine ⟨0, .error e, _, hmessages, hrun, ?_, .refused hsubmission⟩
    simp [hsealed, Network.after, lookUps]
  · refine ⟨lookups, _, _, hmessages, hrun, ?_, .searched hsubmission hends⟩
    simp [hsealed, Network.after]

/-! ### A transaction that is accepted and never shown -/

theorem isAccepted_emptyObject :
    shortClient.IsAccepted (.ok ⟨200, Utf8.ofString "\x7b\x7d"⟩) := by
  have hjson : Response.json ⟨200, Utf8.ofString "\x7b\x7d"⟩ = .ok (.obj []) :=
    eq_ok_of_toOption (by decide +kernel)
  exact ⟨_, _, rfl, ⟨⟨_, _, rfl, rfl⟩, by decide, hjson⟩, [], [], rfl, rfl, rfl, rfl⟩

theorem broadcast_course_lost :
    ∃ sealed, (shortClient.createTx [] "0u" 1 "").runIn ⟨answering ["\x7b\x7d"], []⟩ =
        (.ok [0], sealed) ∧
      ∃ address ledger tx after,
        (shortClient.broadcast [] "0u" 1 "").runIn ⟨answering ["\x7b\x7d"], []⟩ =
          (.error (.failure (.txNotFound (txHash [0]) pollAttempts)), after) ∧
        after.world.events = .account address ledger :: .transaction tx ::
          .post (.str "http://p") (broadcastRequest [0]) requestTimeout ::
            lookUps (shortClient.txUrl (.str (txHash [0]))) pollAttempts := by
  have hseal := runIn_createTx_shortClient ["\x7b\x7d"]
  refine ⟨_, hseal, ?_⟩
  obtain ⟨address, ledger, tx, lookups, result, after, _, hrun, hevents, hcourse⟩ :=
    broadcast_course hseal
  have hlooked : 0 < lookups := hcourse.accepted.mpr isAccepted_emptyObject
  have hpasses : Passes (shortClient.txUrl (.str (txHash [0])))
      ((answering ["\x7b\x7d"]).reply lookups) := by
    obtain ⟨others, rfl⟩ := Nat.exists_eq_add_of_le' hlooked
    rfl
  have hall : lookups = pollAttempts := by
    apply Nat.le_antisymm hcourse.bounded
    apply Nat.le_of_not_lt
    intro hfewer
    exact hcourse.answered hlooked hfewer hpasses
  subst hall
  rw [hcourse.lost rfl hpasses] at hrun
  exact ⟨address, ledger, tx, after, hrun, hevents⟩

end ContractOps.Client
