import ContractOps.Proofs.Client.Requests

/-!
# Looking a transaction up

A look-up passes if the network fails or the node answers with a status other than 200: then it is
repeated, while attempts are left. The first look-up that does not pass ends the search, with the
report that its response holds or with a fault (`Ends`). So the search is described by how many
look-ups it makes, and every one of them is a pause and a request for the same address
(`runIn_poll`).
-/

namespace ContractOps.Client

/-- What so many look-ups of an address leave in the history. -/
def lookUps (url : WideText) : Nat → List Event
  | 0 => []
  | lookups + 1 => .pause pollInterval :: .get url requestTimeout :: lookUps url lookups

/-- The answer to a look-up leaves everything open. -/
def Passes (url : WideText) : Except Fault Response → Prop
  | .error e => e.isTransport = true
  | .ok response => response.status ≠ 200 ∧ Reachable (.str url)

/-- The report on a transaction in the answer to a look-up. -/
def report (url : WideText) (reply : Except Fault Response) : Except Fault Json := do
  let answer ← reply >>= Network.deliver url
  (← answer.1.json).member "tx_response"

/-- How a search goes: some look-ups pass, and then one does not, or they are as many as it may
make. -/
inductive Ends (url : WideText) (replies : Nat → Except Fault Response) (attempts : Nat) :
    Nat → Except Fault (Option Json) → Prop
  | found {others : Nat} (hbound : others < attempts)
      (hpass : ∀ i < others, Passes url (replies i)) (hlast : ¬Passes url (replies others)) :
      Ends url replies attempts (others + 1)
        (report url (replies others) >>= fun found => .ok (some found))
  | lost (hpass : ∀ i < attempts, Passes url (replies i)) :
      Ends url replies attempts attempts (.ok none)

variable {url : WideText} {attempts : Nat} {session : Session Network}

theorem status_of_not_passes {response : Response} (h : ¬Passes url (.ok response))
    (hreachable : Reachable (.str url)) : response.status = 200 := by
  apply Decidable.byContradiction
  intro hother
  exact h ⟨hother, hreachable⟩

/-- A look-up that does not pass gives a report from a response with the status 200. -/
theorem report_eq_ok {reply : Except Fault Response} {found : Json} (h : ¬Passes url reply)
    (hfound : report url reply = .ok found) :
    ∃ response body, reply = .ok response ∧ response.status = 200 ∧ response.json = .ok body ∧
      body.member "tx_response" = .ok found := by
  obtain ⟨answer, hanswer, hread⟩ := except_bind_eq_ok.mp hfound
  obtain ⟨response, rfl, hanswer⟩ := except_bind_eq_ok.mp hanswer
  have hdelivered : Network.deliverTo (.str url) response = .ok answer := hanswer
  obtain ⟨text, htext, hurl, rfl⟩ := deliverTo_eq_ok.mp hdelivered
  obtain ⟨body, hjson, hmember⟩ := except_bind_eq_ok.mp hread
  have hstatus : answer.1.status = 200 := status_of_not_passes h ⟨text, answer.2, htext, hurl⟩
  exact ⟨answer.1, body, rfl, hstatus, hjson, hmember⟩

/-- From an address that requests can go to, the report is the member of the body. -/
theorem report_of_reachable {response : Response} (h : Reachable (.str url)) :
    report url (.ok response) = response.json >>= fun body => body.member "tx_response" := by
  obtain ⟨text, u, htext, hurl⟩ := h
  cases htext
  rw [report, except_ok_bind, Network.deliver, hurl]
  rfl

theorem report_of_not_reachable (response : Response) (h : ¬Reachable (.str url)) :
    ∃ flaw, report url (.ok response) = .error (.url flaw) := by
  rw [report, except_ok_bind, Network.deliver]
  cases hurl : Url.ofRequest url with
  | ok u => exact absurd ⟨url, u, rfl, hurl⟩ h
  | error flaw => exact ⟨flaw, rfl⟩

/-! ## One look-up -/

theorem runIn_lookUp (url : WideText) (session : Session Network) :
    (Network.get url requestTimeout).attempt.runIn (session.after 0 [.pause pollInterval]) =
      (.ok (session.world.reply 0 >>= Network.deliver url), session.after 1 (lookUps url 1)) := by
  rw [Task.runIn_attempt, Network.runIn_get]
  simp [lookUps]

theorem runIn_poll_passes (h : Passes url (session.world.reply 0)) :
    (poll url (attempts + 1)).runIn session =
      (poll url attempts).runIn (session.after 1 (lookUps url 1)) := by
  rw [poll, Task.runIn_bind_ok (Network.runIn_pause _ session),
    Task.runIn_bind_ok (runIn_lookUp url session)]
  cases hreply : session.world.reply 0 with
  | error e =>
    rw [hreply, Passes] at h
    show (if e.isTransport then poll url attempts else throw e).runIn _ = _
    rw [if_pos h]
  | ok response =>
    rw [hreply] at h
    obtain ⟨hstatus, text, u, htext, hurl⟩ := h
    cases htext
    rw [except_ok_bind, Network.deliver, hurl]
    dsimp only
    rw [if_neg hstatus]

theorem runIn_poll_ends (h : ¬Passes url (session.world.reply 0)) :
    (poll url (attempts + 1)).runIn session =
      (report url (session.world.reply 0) >>= fun found => .ok (some found),
        session.after 1 (lookUps url 1)) := by
  rw [poll, Task.runIn_bind_ok (Network.runIn_pause _ session),
    Task.runIn_bind_ok (runIn_lookUp url session)]
  cases hreply : session.world.reply 0 with
  | error e =>
    rw [hreply, Passes] at h
    show (if e.isTransport then poll url attempts else throw e).runIn _ = _
    rw [if_neg h]
    rfl
  | ok response =>
    rw [hreply] at h
    rw [except_ok_bind, report, except_ok_bind, Network.deliver]
    cases hurl : Url.ofRequest url with
    | error flaw => rfl
    | ok u =>
      have hstatus : response.status = 200 := status_of_not_passes h ⟨url, u, rfl, hurl⟩
      dsimp only
      rw [if_pos hstatus, except_ok_bind]
      cases response.json with
      | error e => rfl
      | ok body =>
        rw [Task.runIn_bind_ok (Task.runIn_lift _ _), except_ok_bind, Task.runIn_bind,
          Task.runIn_lift]
        cases body.member "tx_response" <;> rfl

/-! ## The search -/

theorem Ends.cons {replies : Nat → Except Fault Response} {lookups : Nat}
    {result : Except Fault (Option Json)} (hfirst : Passes url (replies 0))
    (h : Ends url (fun i => replies (i + 1)) attempts lookups result) :
    Ends url replies (attempts + 1) (lookups + 1) result := by
  have hpasses : ∀ {n}, (∀ i < n, Passes url (replies (i + 1))) →
      ∀ i < n + 1, Passes url (replies i) := by
    intro n hpass i hi
    cases i with
    | zero => exact hfirst
    | succ i => exact hpass i (Nat.lt_of_succ_lt_succ hi)
  cases h with
  | found hbound hpass hlast => exact .found (Nat.succ_lt_succ hbound) (hpasses hpass) hlast
  | lost hpass => exact .lost (hpasses hpass)

/-- Where a look-up is answered, a search ends. -/
theorem Ends.eq_found {replies : Nat → Except Fault Response} {lookups others : Nat}
    {result : Except Fault (Option Json)} (h : Ends url replies attempts lookups result)
    (hbound : others < attempts) (hpass : ∀ i < others, Passes url (replies i))
    (hlast : ¬Passes url (replies others)) :
    result = report url (replies others) >>= fun found => .ok (some found) := by
  cases h with
  | @found others' hbound' hpass' hlast' =>
    -- all look-ups before the last one pass, so that only one can be the last
    obtain hlt | rfl | hlt := Nat.lt_trichotomy others others'
    · exact absurd (hpass' others hlt) hlast
    · rfl
    · exact absurd (hpass others' hlt) hlast'
  | lost hpass' => exact absurd (hpass' others hbound) hlast

/-- A search makes some look-ups and ends by them. -/
theorem runIn_poll (url : WideText) (attempts : Nat) (session : Session Network) :
    ∃ lookups result,
      (poll url attempts).runIn session =
        (result, session.after lookups (lookUps url lookups)) ∧
      Ends url session.world.reply attempts lookups result := by
  -- what follows a look-up that passes is a search among the later answers
  induction attempts generalizing session with
  | zero => exact ⟨0, .ok none, by simp [poll, lookUps], .lost (by simp)⟩
  | succ attempts ih =>
    by_cases hfirst : Passes url (session.world.reply 0)
    · obtain ⟨lookups, result, hrun, hends⟩ := ih (session.after 1 (lookUps url 1))
      refine ⟨lookups + 1, result, ?_, .cons hfirst ?_⟩
      · rw [runIn_poll_passes hfirst, hrun]
        simp [lookUps, Nat.add_comm]
      · have hlater : (session.after 1 (lookUps url 1)).world.reply =
            fun i => session.world.reply (i + 1) := by
          funext i
          rw [Session.world_after, Network.reply_after, Nat.add_comm]
        rwa [hlater] at hends
    · exact ⟨1, _, runIn_poll_ends hfirst, .found (Nat.succ_pos attempts) (by simp) hfirst⟩

end ContractOps.Client
