import ContractOps.Proofs.Client.Answers
import ContractOps.Proofs.Client.Course

/-!
# Faults that escape a broadcast

A broadcast is meant to come to a result or to fail by name. It does so unless an answer was not
foreseen (`Unforeseen`): one to the submission that baffles or is garbled, or one to a look-up that
came from nowhere or holds no report that can be read. Then a fault without a name escapes
(`broadcast_concludes_iff`), although the transaction may be on its way.
-/

namespace ContractOps

/-! ## Reading without names -/

theorem Response.unnamed_json (response : Response) : Unnamed response.json := by
  intro f h
  obtain hvalue | ⟨container, he⟩ := json_eq_error h
  · cases hvalue
  · cases he

namespace TxResult

theorem unnamed_groupedEvents (logs : List Json) : Unnamed (groupedEvents logs) := by
  induction logs with
  | nil => exact .ok _
  | cons log logs ih =>
    refine .bind (Json.unnamed_getD _ _ _) fun events => ?_
    refine .bind (Json.unnamed_items events) fun events => ?_
    exact .bind ih fun _ => .ok _

theorem unnamed_ofResponse (response : Json) : Unnamed (ofResponse response) := by
  rw [ofResponse]
  have hrest : ∀ events, Unnamed (do return {
      txHash := ← response.getD "txhash" (.str "")
      height := ← (← response.getD "height" (.int 0)).toInt
      code := ← (← response.getD "code" (.int 0)).toInt
      rawLog := ← response.getD "raw_log" (.str "")
      events } : Except Fault TxResult) := by
    intro events
    refine .bind (Json.unnamed_getD _ _ _) fun hash => ?_
    refine .bind (Json.unnamed_getD _ _ _) fun height => .bind (Json.unnamed_toInt _) fun _ => ?_
    refine .bind (Json.unnamed_getD _ _ _) fun code => .bind (Json.unnamed_toInt _) fun _ => ?_
    exact .bind (Json.unnamed_getD _ _ _) fun rawLog => .ok _
  refine .bind (Json.unnamed_getD _ _ _) fun logs => ?_
  split
  · refine .bind (Json.unnamed_items _) fun items => ?_
    exact .bind (unnamed_groupedEvents _) fun events => hrest _
  · exact .bind (Json.unnamed_getD _ _ _) hrest

end TxResult

namespace Client

variable {c : Client} {hash : String} {network : Network}

/-! ## Answers that are not foreseen -/

/-- The node has accepted a transaction, and another look-up is made after so many that have
passed. -/
structure Searches (c : Client) (hash : String) (network : Network) (others : Nat) : Prop where
  accepted : c.IsAccepted (network.reply 0)
  bound : others < pollAttempts
  passed : ∀ i < others, Passes (c.txUrl (.str hash)) (network.reply (1 + i))

/-- The result of a transaction, as a response reports it. -/
def reported (response : Response) : Except Fault TxResult := do
  TxResult.ofResponse (← (← response.json).member "tx_response")

/-- An answer is not foreseen by a broadcast. -/
inductive Unforeseen (c : Client) (hash : String) (network : Network) : Prop
  /-- The answer to the submission baffles. -/
  | baffling {response : Response} (hreply : network.reply 0 = .ok response)
      (hbaffles : Baffles c.rpcUrl response)
  /-- The answer to the submission is garbled. -/
  | garbled {response : Response} {body : Json} (hreply : network.reply 0 = .ok response)
      (hshows : Shows c.rpcUrl response body) (hgarbled : Garbled body)
  /-- A look-up is answered, but not from an address. -/
  | misplaced {others : Nat} {response : Response} (hsearches : Searches c hash network others)
      (hreply : network.reply (1 + others) = .ok response)
      (haddress : ¬Reachable (.str (c.txUrl (.str hash))))
  /-- A look-up is answered, and no report can be read from the answer. -/
  | illegible {others : Nat} {response : Response} {e : Fault}
      (hsearches : Searches c hash network others)
      (hreply : network.reply (1 + others) = .ok response) (hstatus : response.status = 200)
      (hreport : reported response = .error e)

/-! ## Submissions -/

variable {reply : Except Fault Response} {response : Response}

theorem submission_of_baffles (h : Baffles c.rpcUrl response) :
    ∃ e, c.submission hash (.ok response) = .error e ∧ ∀ f, e ≠ .failure f := by
  obtain ⟨e, hshown, he⟩ | ⟨body, hshown, hbody⟩ := h.shown
  · refine ⟨e, ?_, he.name⟩
    rw [submission, hshown, named, he.transport, he.value]
    rfl
  · rw [submission, hshown]
    exact checkSubmission_of_ne_obj hbody

theorem submission_of_shows {body : Json} (h : Shows c.rpcUrl response body) :
    c.submission hash (.ok response) = checkSubmission hash body := by
  rw [submission, shown_eq_ok.mpr ⟨response, rfl, h⟩]
  rfl

/-- A submission is accepted, or fails by name, or its answer was not foreseen. -/
theorem submission_cases (c : Client) (hash : String) (network : Network)
    (http : IsHttp (network.reply 0)) :
    c.IsAccepted (network.reply 0) ∨
    (∃ f, c.submission hash (network.reply 0) = .error (.failure f) ∧ f.family = .broadcast) ∨
    Unforeseen c hash network := by
  obtain ⟨response, members, hreply, hshows⟩ | ⟨e, hshown, hexpected⟩ |
    ⟨response, hreply, hbaffles⟩ := shown_cases c.rpcUrl http
  · obtain haccepts | ⟨f, hrefused, hfamily⟩ | hgarbled := checkSubmission_cases hash members
    · exact .inl ⟨response, _, hreply, hshows, haccepts⟩
    · refine .inr (.inl ⟨f, ?_, hfamily⟩)
      rw [hreply, submission_of_shows hshows, hrefused]
    · exact .inr (.inr (.garbled hreply hshows hgarbled))
  · refine .inr (.inl ⟨.unsent hash e.message, ?_, rfl⟩)
    rw [submission, hshown, named, hexpected]
    rfl
  · exact .inr (.inr (.baffling hreply hbaffles))

/-! ## Searches -/

/-- What was found in the answer to a look-up is read and judged. -/
theorem conclusion_report (hash : String) (url : WideText) (reply : Except Fault Response) :
    conclusion hash (report url reply >>= fun found => .ok (some found)) =
      report url reply >>= TxResult.ofResponse >>= succeeded hash := by
  rw [conclusion]
  cases report url reply <;> rfl

theorem report_eq_reported {url : WideText} (h : Reachable (.str url)) :
    report url (.ok response) >>= TxResult.ofResponse = reported response := by
  rw [report_of_reachable h, bind_assoc]
  rfl

theorem unnamed_reported (response : Response) : Unnamed (reported response) :=
  .bind (response.unnamed_json) fun body =>
    .bind (Json.unnamed_member body _) fun report => TxResult.unnamed_ofResponse report

theorem succeeded_concludes (hash : String) (tx : TxResult) :
    Concludes .broadcast (succeeded hash tx) := by
  rw [succeeded]
  split
  · exact .inr ⟨_, rfl, rfl⟩
  · exact .inl ⟨tx, rfl⟩

/-- A search comes to a result or fails by name, or the last answer to it was not foreseen. -/
theorem conclusion_cases {lookups : Nat} {found : Except Fault (Option Json)}
    (http : ∀ i, IsHttp (network.reply i)) (haccepted : c.IsAccepted (network.reply 0))
    (hends : Ends (c.txUrl (.str hash)) (fun i => network.reply (1 + i)) pollAttempts lookups
      found) :
    Concludes .broadcast (conclusion hash found) ∨ Unforeseen c hash network := by
  cases hends with
  | lost hpass => exact .inl (.inr ⟨_, rfl, rfl⟩)
  | @found others hbound hpass hlast =>
    have hsearches : Searches c hash network others := ⟨haccepted, hbound, hpass⟩
    cases hreply : network.reply (1 + others) with
    | error e =>
      -- a fault of the network would have passed
      rw [hreply] at hlast
      exact absurd (http _ e hreply) hlast
    | ok response =>
      rw [hreply] at hlast
      by_cases hreachable : Reachable (.str (c.txUrl (.str hash)))
      · have hstatus : response.status = 200 := status_of_not_passes hlast hreachable
        rw [conclusion_report, report_eq_reported hreachable]
        cases hread : reported response with
        | error e => exact .inr (.illegible hsearches hreply hstatus hread)
        | ok tx =>
          rw [except_ok_bind]
          exact .inl (succeeded_concludes hash tx)
      · exact .inr (.misplaced hsearches hreply hreachable)

/-! ## Broadcasts -/

/-- What was not foreseen is a fault without a name, of the submission or of the look-up that ends
the search. -/
theorem Unforeseen.fault (h : Unforeseen c hash network) :
    (∃ e, c.submission hash (network.reply 0) = .error e ∧ ∀ f, e ≠ .failure f) ∨
    ∃ others e, Searches c hash network others ∧
      ¬Passes (c.txUrl (.str hash)) (network.reply (1 + others)) ∧
      report (c.txUrl (.str hash)) (network.reply (1 + others)) >>= TxResult.ofResponse = .error e ∧
      ∀ f, e ≠ .failure f := by
  cases h with
  | baffling hreply hbaffles =>
    rw [hreply]
    exact .inl (submission_of_baffles hbaffles)
  | garbled hreply hshows hgarbled =>
    rw [hreply, submission_of_shows hshows]
    exact .inl hgarbled.checkSubmission
  | @misplaced others response hsearches hreply haddress =>
    -- such a look-up does not pass, whatever the status of the response
    obtain ⟨flaw, hreport⟩ := report_of_not_reachable response haddress
    refine .inr ⟨others, .url flaw, hsearches, ?_, ?_, nofun⟩
    · rw [hreply]
      exact fun hpasses => haddress hpasses.2
    · rw [hreply, hreport]
      rfl
  | @illegible others response e hsearches hreply hstatus hreport =>
    have hlast : ¬Passes (c.txUrl (.str hash)) (.ok response) := fun hpasses => hpasses.1 hstatus
    by_cases hreachable : Reachable (.str (c.txUrl (.str hash)))
    · refine .inr ⟨others, e, hsearches, ?_, ?_, ?_⟩
      · rwa [hreply]
      · rw [hreply, report_eq_reported hreachable, hreport]
      · rintro f rfl
        exact unnamed_reported response f hreport
    · obtain ⟨flaw, hflaw⟩ := report_of_not_reachable response hreachable
      refine .inr ⟨others, .url flaw, hsearches, ?_, ?_, nofun⟩
      · rwa [hreply]
      · rw [hreply, hflaw]
        rfl

variable {messages : List Message} {fee : WideText} {gasLimit : Int} {memo : String}
  {bytes : Bytes} {session sealed : Session Network}

/-- Once its transaction is sealed, a broadcast comes to a result or fails by name, unless an answer
was not foreseen. -/
theorem broadcast_concludes_iff
    (hseal : (c.createTx messages fee gasLimit memo).runIn session = (.ok bytes, sealed))
    (http : ∀ i, IsHttp (session.world.reply i)) :
    Concludes .broadcast ((c.broadcast messages fee gasLimit memo).runIn session).1 ↔
      ¬Unforeseen c (txHash bytes) session.world := by
  obtain ⟨e, notices, hsubmission, hrun⟩ |
    ⟨hsubmission, lookups, found, notices, hrun, hends⟩ := runIn_broadcast hseal
  · -- the submission failed, so that no look-up was made whose answer could matter
    rw [hrun]
    constructor
    · intro hconcludes hunforeseen
      obtain ⟨e', hfault, hname⟩ | ⟨others, e', hsearches, _⟩ := hunforeseen.fault
      · cases hsubmission.symm.trans hfault
        exact not_concludes hname hconcludes
      · cases hsubmission.symm.trans (c.submission_eq_ok.mpr hsearches.accepted)
    · intro hforeseen
      obtain haccepted | ⟨f, hnamed, hfamily⟩ | hunforeseen :=
        submission_cases c (txHash bytes) session.world (http 0)
      · cases hsubmission.symm.trans (c.submission_eq_ok.mpr haccepted)
      · cases hsubmission.symm.trans hnamed
        exact .inr ⟨f, rfl, hfamily⟩
      · exact absurd hunforeseen hforeseen
  · -- the submission was accepted, and the search decides
    rw [hrun]
    constructor
    · intro hconcludes hunforeseen
      obtain ⟨e, hfault, _⟩ | ⟨others, e, hsearches, hlast, hreport, hname⟩ := hunforeseen.fault
      · cases hsubmission.symm.trans hfault
      · rw [hends.eq_found hsearches.bound hsearches.passed hlast, conclusion_report,
          hreport] at hconcludes
        exact not_concludes hname hconcludes
    · intro hforeseen
      have haccepted := c.submission_eq_ok.mp hsubmission
      exact (conclusion_cases http haccepted hends).resolve_right hforeseen

/-! ### A page in place of a report -/

theorem unforeseen_page :
    Unforeseen shortClient (txHash [0]) (answering ["\x7b\x7d", "<html>"]) := by
  have hunread : (Response.json ⟨200, Utf8.ofString "<html>"⟩).toOption = none := by decide +kernel
  cases hjson : Response.json ⟨200, Utf8.ofString "<html>"⟩ with
  | ok body =>
    rw [hjson] at hunread
    cases hunread
  | error e =>
    have hsearches : Searches shortClient (txHash [0]) (answering ["\x7b\x7d", "<html>"]) 0 :=
      ⟨isAccepted_emptyObject, by decide, nofun⟩
    have hreported : reported ⟨200, Utf8.ofString "<html>"⟩ = .error e := by
      rw [reported, hjson]
      rfl
    exact .illegible hsearches rfl rfl hreported

theorem broadcast_concludes_iff_page :
    ∃ sealed,
      (shortClient.createTx [] "0u" 1 "").runIn ⟨answering ["\x7b\x7d", "<html>"], []⟩ =
        (.ok [0], sealed) ∧
      (∀ i, IsHttp ((answering ["\x7b\x7d", "<html>"]).reply i)) ∧
      ¬Concludes .broadcast ((shortClient.broadcast [] "0u" 1 "").runIn
        ⟨answering ["\x7b\x7d", "<html>"], []⟩).1 := by
  have hseal := runIn_createTx_shortClient ["\x7b\x7d", "<html>"]
  have http := isHttp_answering ["\x7b\x7d", "<html>"]
  refine ⟨_, hseal, http, fun hconcludes => ?_⟩
  exact (broadcast_concludes_iff hseal http).mp hconcludes unforeseen_page

end Client

end ContractOps
