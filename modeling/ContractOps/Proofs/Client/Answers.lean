import ContractOps.Proofs.Client.Requests
import ContractOps.Proofs.Json.Accesses

/-!
# Answers to requests

A request is answered by a response or by a fault of the network (`IsHttp`), and a client reads an
object from the response. Most of what can go wrong there is foreseen: faults of the network,
statuses that are no success, and texts that are no JSON have a name in the end. What is left are
the answers that baffle a client (`Baffles`): then the fault has no name, and nobody expects it
(`Baffles.shown`).
-/

namespace ContractOps

/-- A request comes to a response, or fails in the network. -/
def IsHttp (reply : Except Fault Response) : Prop := ∀ e, reply = .error e → e.isTransport = true

/-- A task comes to a result, or fails with a name of the family. -/
def Concludes {α : Type} (family : Failure.Family) (result : Except Fault α) : Prop :=
  (∃ a, result = .ok a) ∨ ∃ f, result = .error (.failure f) ∧ f.family = family

theorem not_concludes {α : Type} {family : Failure.Family} {e : Fault} (h : ∀ f, e ≠ .failure f) :
    ¬Concludes family (.error e : Except Fault α) := by
  rintro (⟨a, ha⟩ | ⟨f, hf, _⟩)
  · cases ha
  · exact h f (Except.error.inj hf)

/-! ## Bodies that are no JSON -/

theorem Body.text_eq_error {body : Bytes} {e : Fault} (h : Body.text body = .error e) :
    e.isValueFault = true := by
  have hlift : ∀ {result : Except DecodeFlaw WideText}, Body.lift result = .error e →
      e.isValueFault = true := by
    intro result hresult
    cases result with
    | ok text => cases hresult
    | error flaw =>
      cases hresult
      rfl
  rw [Body.text] at h
  dsimp only at h
  split at h
  · split at h
    · cases h
    · cases h
      rfl
  · exact hlift h
  · exact hlift h

/-- A body is read as JSON, unless it is written wrongly or nested too deeply. -/
theorem Response.json_eq_error {response : Response} {e : Fault} (h : response.json = .error e) :
    e.isValueFault = true ∨ ∃ container, e = .json (.tooDeep container) := by
  rw [Response.json, Body.json] at h
  cases htext : Body.text response.body with
  | error flaw =>
    rw [htext] at h
    cases h
    exact .inl (Body.text_eq_error htext)
  | ok text =>
    rw [htext, except_ok_bind] at h
    split at h
    · cases h
    · next fault hread =>
      cases h
      cases fault with
      | tooDeep container => exact .inr ⟨container, rfl⟩
      | _ => exact .inl rfl

namespace Client

/-! ## Answers that baffle -/

/-- No object is read from a response to a request, and the reason is none of those that a client
expects: the address is none, the body is nested too deeply, or it holds another value. -/
inductive Baffles (address : Json) (response : Response) : Prop
  | noText (haddress : ∀ text, address ≠ .str text)
  | noAddress {text : WideText} {flaw : Url.Flaw} (haddress : address = .str text)
      (hurl : Url.ofRequest text = .error flaw) (hflaw : (Fault.url flaw).isValueFault = false)
  | tooDeep {container : Json.Container} (hreachable : Reachable address)
      (hsuccess : 200 ≤ response.status ∧ response.status ≤ 299)
      (hjson : response.json = .error (.json (.tooDeep container)))
  | noObject {body : Json} (hshows : Shows address response body)
      (hbody : ∀ members, body ≠ .obj members)

/-- A fault that has no name, and that no request gives one. -/
structure Unexpected (e : Fault) : Prop where
  transport : e.isTransport = false
  value : e.isValueFault = false
  missingKey : e.isMissingKey = false
  name : ∀ f, e ≠ .failure f

variable {address : Json} {response : Response} {reply : Except Fault Response}

/-- What baffles comes to a fault that is not expected, or to something that is no object. -/
theorem Baffles.shown (h : Baffles address response) :
    (∃ e, Client.shown (.ok response >>= Network.deliverTo address) = .error e ∧ Unexpected e) ∨
    ∃ body, Client.shown (.ok response >>= Network.deliverTo address) = .ok body ∧
      ∀ members, body ≠ .obj members := by
  cases h with
  | noText haddress =>
    refine .inl ⟨.type .mismatch, ?_, rfl, rfl, rfl, nofun⟩
    cases address with
    | str text => exact absurd rfl (haddress text)
    | _ => rfl
  | @noAddress text flaw haddress hurl hflaw =>
    refine .inl ⟨.url flaw, ?_, rfl, hflaw, rfl, nofun⟩
    rw [haddress, except_ok_bind, deliverTo_of_flaw hurl]
    rfl
  | @tooDeep container hreachable hsuccess hjson =>
    refine .inl ⟨.json (.tooDeep container), ?_, rfl, rfl, rfl, nofun⟩
    rw [shown_of_success hreachable hsuccess, hjson]
  | @noObject body hshows hbody =>
    exact .inr ⟨body, shown_eq_ok.mpr ⟨response, rfl, hshows⟩, hbody⟩

/-- From an address that is none, nothing is shown. -/
theorem shown_of_not_reachable (h : ¬Reachable address) :
    (∃ e, Client.shown (.ok response >>= Network.deliverTo address) = .error e ∧
      e.isValueFault = true) ∨ Baffles address response := by
  by_cases htext : ∃ text, address = .str text
  · obtain ⟨text, rfl⟩ := htext
    cases hurl : Url.ofRequest text with
    | ok url => exact absurd ⟨text, url, rfl, hurl⟩ h
    | error flaw =>
      by_cases hflaw : (Fault.url flaw).isValueFault = true
      · refine .inl ⟨.url flaw, ?_, hflaw⟩
        rw [except_ok_bind, deliverTo_of_flaw hurl]
        rfl
      · exact .inr (.noAddress rfl hurl (Bool.eq_false_iff.mpr hflaw))
  · exact .inr (.noText fun text heq => htext ⟨text, heq⟩)

/-- A response shows an object, or fails as expected, or baffles. -/
theorem shown_cases (address : Json) (http : IsHttp reply) :
    (∃ response members, reply = .ok response ∧ Shows address response (.obj members)) ∨
    (∃ e, Client.shown (reply >>= Network.deliverTo address) = .error e ∧
      (e.isTransport || e.isValueFault) = true) ∨
    (∃ response, reply = .ok response ∧ Baffles address response) := by
  cases reply with
  | error e => exact .inr (.inl ⟨e, rfl, by simp [http e rfl]⟩)
  | ok response =>
    by_cases hreachable : Reachable address
    · by_cases hsuccess : 200 ≤ response.status ∧ response.status ≤ 299
      · cases hjson : response.json with
        | error e =>
          obtain hvalue | ⟨container, rfl⟩ := Response.json_eq_error hjson
          · refine .inr (.inl ⟨e, ?_, by simp [hvalue]⟩)
            rw [shown_of_success hreachable hsuccess, hjson]
          · exact .inr (.inr ⟨response, rfl, .tooDeep hreachable hsuccess hjson⟩)
        | ok body =>
          have hshows : Shows address response body := ⟨hreachable, hsuccess, hjson⟩
          by_cases hobject : ∃ members, body = .obj members
          · obtain ⟨members, rfl⟩ := hobject
            exact .inl ⟨response, members, rfl, hshows⟩
          · refine .inr (.inr ⟨response, rfl, .noObject hshows fun members heq => ?_⟩)
            exact hobject ⟨members, heq⟩
      · obtain ⟨text, hshown⟩ := shown_of_failure hreachable hsuccess
        exact .inr (.inl ⟨_, hshown, rfl⟩)
    · obtain ⟨e, hshown, hvalue⟩ | hbaffles := shown_of_not_reachable hreachable
      · exact .inr (.inl ⟨e, hshown, by simp [hvalue]⟩)
      · exact .inr (.inr ⟨response, rfl, hbaffles⟩)

theorem isHttp_answering (bodies : List String) (others : Nat) :
    IsHttp ((answering bodies).reply others) := by
  intro e he
  rw [Network.reply, answering, List.getElem?_map] at he
  cases hbody : bodies[others]? with
  | none =>
    rw [hbody] at he
    cases he
    rfl
  | some body =>
    rw [hbody] at he
    cases he

end Client

end ContractOps
