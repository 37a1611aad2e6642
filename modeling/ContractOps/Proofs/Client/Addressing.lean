import ContractOps.Proofs.Client.Requests
import ContractOps.Proofs.Message.Distinction

/-!
# Where queries go

A query is a single request, and the message stands in its address (`Client.asks_iff`). A client has
the REST endpoint of its option without the slashes at the end (`trims_trimSlashes`). The message is
the last segment of the path, written in characters that mean nothing else in an address
(`Client.holds_segment`), and it is read back from there. So the requests to a contract tell its
queries apart (`Client.ofOption_asks`).
-/

namespace ContractOps

/-! ## Slashes at the end -/

/-- A text is the other one without the slashes at its end. -/
structure Trims (text trimmed : WideText) : Prop where
  slashes : ∃ n, text = trimmed ++ List.replicate n (.char '/')
  last : trimmed.getLast? ≠ some (.char '/')

theorem trims_trimSlashes (text : WideText) : Trims text (Client.trimSlashes text) := by
  let slashes := text.reverse.takeWhile (· == .char '/')
  have hslashes : slashes = List.replicate slashes.length (.char '/') := by
    refine List.eq_replicate_of_mem fun c hc => ?_
    exact beq_iff_eq.mp (List.all_eq_true.mp List.all_takeWhile c hc)
  constructor
  · refine ⟨slashes.length, ?_⟩
    calc text
      _ = (slashes ++ text.reverse.dropWhile (· == .char '/')).reverse := by
        rw [List.takeWhile_append_dropWhile, List.reverse_reverse]
      _ = Client.trimSlashes text ++ slashes.reverse := by rw [List.reverse_append]; rfl
      _ = _ := by rw [hslashes, List.reverse_replicate, List.length_replicate]
  · rw [Client.trimSlashes, List.getLast?_reverse]
    intro h
    -- where dropping stops there is no slash
    have hstop := List.head?_dropWhile_not (· == CodePoint.char '/') text.reverse
    rw [h] at hstop
    exact absurd hstop (by decide)

theorem trims_iff {text trimmed : WideText} :
    Trims text trimmed ↔ trimmed = Client.trimSlashes text := by
  refine ⟨?_, fun h => h ▸ trims_trimSlashes text⟩
  rintro ⟨⟨n, rfl⟩, hlast⟩
  have hdropped : ∀ c ∈ List.replicate n (CodePoint.char '/'), (c == .char '/') = true :=
    fun c hc => beq_iff_eq.mpr (List.eq_of_mem_replicate hc)
  have hstop : trimmed.reverse.dropWhile (· == .char '/') = trimmed.reverse := by
    rw [← List.head?_reverse] at hlast
    cases h : trimmed.reverse with
    | nil => rfl
    | cons c rest =>
      rw [h, List.head?_cons, ne_eq, Option.some.injEq] at hlast
      exact List.dropWhile_cons_of_neg fun hc => hlast (beq_iff_eq.mp hc)
  rw [Client.trimSlashes, List.reverse_append, List.reverse_replicate,
    List.dropWhile_append_of_pos hdropped, hstop, List.reverse_reverse]

namespace Client

/-! ## Segments -/

/-- A segment of a path has a value in it, in Base64, and nothing that ends the segment. -/
structure Holds (segment : String) (v : Json) : Prop where
  alphabet : ∀ c ∈ segment.toList, c.isAlphanum = true ∨ c = '-' ∨ c = '_' ∨ c = '='
  content : ∃ octets, Base64.decode? Base64.urlSafe segment.toList = some octets ∧
    Execution.Carries octets v ∧
    (v.Fits Json.Spelled Json.maxDepth → Execution.decodePayload octets = .ok v)

/-- The segment of a query. -/
def segment (query : Json) : String :=
  String.ofList (Base64.encode Base64.urlSafe (Message.payload query))

theorem holds_segment (query : Json) : Holds (segment query) query := by
  constructor
  · rw [segment, String.toList_ofList]
    exact Base64.forall_mem_encode (by decide) (by decide) _
  · refine ⟨Message.payload query, ?_, Execution.carries_payload query,
      Execution.decodePayload_payload⟩
    rw [segment, String.toList_ofList, Base64.decode?_encode (.inr rfl)]

/-- Different values are different segments. -/
theorem segment_inj {query query' : Json} {levels levels' : Nat}
    (h : query.Fits Json.Spelled levels) (h' : query'.Fits Json.Spelled levels') :
    segment query = segment query' ↔ query = query' := by
  rw [segment, segment, String.ofList_inj, Base64.encode_inj (.inr rfl), Execution.payload_inj h h']

/-! ## Requests of queries -/

/-- All that a query does in any session is to request an address. -/
def Asks (c : Client) (contract query : Json) (url : WideText) : Prop :=
  ∀ session, ((c.query contract query).runIn session).2 =
    session.after 1 [.get url requestTimeout]

theorem asks_iff {c : Client} {contract query : Json} {url : WideText} :
    c.Asks contract query url ↔ url = c.queryUrl contract query := by
  constructor
  · intro h
    have hevents := congrArg (·.world.events) (h ⟨answering [], []⟩)
    rw [runIn_query] at hevents
    simp only [Session.after, Network.after, List.append_cancel_left_eq, List.cons.injEq,
      Event.get.injEq, and_true] at hevents
    exact hevents.symm
  · rintro rfl session
    rw [runIn_query]

theorem queryUrl_eq (c : Client) (contract : WideText) (query : Json) :
    c.queryUrl (.str contract) query =
      c.restUrl ++ "/cosmwasm/wasm/v1/contract/" ++ contract ++ "/smart/" ++ segment query :=
  rfl

/-- Queries of a contract at the same address have the same segment. -/
theorem queryUrl_inj {c : Client} {contract : WideText} {query query' : Json} :
    c.queryUrl (.str contract) query = c.queryUrl (.str contract) query' ↔
      segment query = segment query' := by
  rw [queryUrl_eq, queryUrl_eq, List.append_cancel_left_eq, WideText.ofString_inj]

/-- What a client has from its option. -/
theorem ofOption_eq_ok {option : Json} {wallet : Option WideText} {c : Client}
    (h : ofOption option wallet = .ok c) :
    ∃ endpoint : WideText, Config.endpoint option "REST_LIST" = .ok (.str endpoint) ∧
      c.restUrl = trimSlashes endpoint := by
  obtain ⟨chainId, _, h⟩ := except_bind_eq_ok.mp h
  obtain ⟨denom, _, h⟩ := except_bind_eq_ok.mp h
  obtain ⟨rpcUrl, _, h⟩ := except_bind_eq_ok.mp h
  obtain ⟨endpoint, hendpoint, h⟩ := except_bind_eq_ok.mp h
  cases endpoint with
  | str text =>
    cases h
    exact ⟨text, hendpoint, rfl⟩
  | _ => cases h

/-- A query that is legible when it is printed goes to the REST endpoint, and is the last segment of
the path there. Queries of one contract that request the same address are the same. -/
theorem ofOption_asks {option : Json} {wallet : Option WideText} {c : Client}
    (hclient : ofOption option wallet = .ok c) :
    ∃ endpoint base : WideText,
      Config.endpoint option "REST_LIST" = .ok (.str endpoint) ∧ Trims endpoint base ∧
      ∀ (contract : WideText) (query : Json), (∃ levels, query.Fits Json.Spelled levels) →
        (∃ segment : String, Holds segment query ∧ c.Asks (.str contract) query
          (base ++ "/cosmwasm/wasm/v1/contract/" ++ contract ++ "/smart/" ++ segment)) ∧
        ∀ query', (∃ levels, query'.Fits Json.Spelled levels) →
          ∀ url, c.Asks (.str contract) query url → c.Asks (.str contract) query' url →
            query = query' := by
  obtain ⟨endpoint, hendpoint, hrest⟩ := ofOption_eq_ok hclient
  refine ⟨endpoint, c.restUrl, hendpoint, hrest ▸ trims_trimSlashes endpoint, ?_⟩
  rintro contract query ⟨levels, hfits⟩
  constructor
  · refine ⟨segment query, holds_segment query, ?_⟩
    rw [← queryUrl_eq, asks_iff]
  · rintro query' ⟨levels', hfits'⟩ url hasks hasks'
    have hurl := (asks_iff.mp hasks).symm.trans (asks_iff.mp hasks')
    exact (segment_inj hfits hfits').mp (queryUrl_inj.mp hurl)

/-! ### An endpoint with two slashes at its end -/

/-- An option whose REST endpoint ends in slashes. -/
def slashedOption : Json :=
  .obj [("CHAIN_ID", .str "X"), ("DENOM", .str "u"), ("RPC_LIST", .arr [.str "http://p"]),
    ("REST_LIST", .arr [.str "http://q//"])]

/-- A query for one user. -/
def userQuery (address : String) : Json := .obj [("user", .str address)]

theorem fits_userQuery (address : String) : (userQuery address).Fits Json.Spelled 1 :=
  .obj (List.nodup_singleton _) (List.forall_mem_singleton.mpr (Json.spelled_ofString _))
    (List.forall_mem_singleton.mpr (.str (Json.spelled_ofString _)))

theorem ofOption_asks_slashed :
    ofOption slashedOption (some "w") = .ok shortClient ∧
    (∃ segment : String, Holds segment (userQuery "é") ∧
      shortClient.Asks (.str "a/b") (userQuery "é")
        (("http://q/cosmwasm/wasm/v1/contract/a/b/smart/" : String) ++ segment)) ∧
    ∀ url, shortClient.Asks (.str "a/b") (userQuery "é") url →
      ¬shortClient.Asks (.str "a/b") (userQuery "e") url := by
  have hclient : ofOption slashedOption (some "w") = .ok shortClient := rfl
  refine ⟨hclient, ?_⟩
  obtain ⟨endpoint, base, hendpoint, hbase, hqueries⟩ := ofOption_asks hclient
  have hshort : base = "http://q" := by
    cases hendpoint
    exact trims_iff.mp hbase
  obtain ⟨hasks, hdistinct⟩ := hqueries "a/b" (userQuery "é") ⟨1, fits_userQuery _⟩
  constructor
  · rwa [hshort] at hasks
  · intro url hfirst hsecond
    have heq := hdistinct (userQuery "e") ⟨1, fits_userQuery _⟩ url hfirst hsecond
    simp only [userQuery, Json.obj.injEq, List.cons.injEq, Prod.mk.injEq, Json.str.injEq,
      WideText.ofString_inj] at heq
    exact absurd heq (by decide)

end Client

end ContractOps
