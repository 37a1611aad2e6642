import ContractOps.Proofs.Config.Changes

/-!
# One update after the other

Recoding the contracts of a chain twice is recoding them once with all code ids, the later ones last
(`recode_recode`), and recodings of different chains do not meet (`recode_comm`). A configuration of
the documented shape keeps it (`isDocument_recode`), so that updates can follow one another, and
what is known of recoding is known of updates (`update_composes`). An update that repeats the one
before finds every code id in its place and has nothing to notice (`silent_update`).

Both recodings exchange listed items at every level, so each level is settled by what two exchanges
under one name come to (`exchange_exchange`).
-/

namespace ContractOps.Config.CodeIds

variable {σ : Type} {codes first second : Assignment} {name : WideText}

/-! ## Exchanging listed items -/

/-- The value with the items under a name exchanged one by one. A list that is missing is added. -/
def exchange (name : WideText) (f : Json → Json) (v : Json) : Json :=
  match v.getD name (.arr []) >>= Json.items with
  | .ok items => withMember v name (.arr (items.map f))
  | .error _ => v

theorem exchange_of_items {v : Json} {items : List Json} (f : Json → Json)
    (h : (v.getD name (.arr []) >>= Json.items) = .ok items) :
    exchange name f v = withMember v name (.arr (items.map f)) := by
  simp only [exchange, h]

theorem withMember_withMember (v : Json) (name : WideText) (old value : Json) :
    withMember (withMember v name old) name value = withMember v name value := by
  cases v with
  | obj ms => simp only [withMember_obj, Members.put_put]
  | _ => rfl

/-- A member that is put back changes nothing. -/
theorem withMember_of_member {v value : Json} (h : v.member name = .ok value) :
    withMember v name value = v := by
  cases v with
  | obj ms =>
    rw [Json.member] at h
    cases hget : Members.get? ms name with
    | none => simp [hget] at h
    | some w =>
      simp only [hget, Except.ok.injEq] at h
      rw [withMember_obj, put_of_get? (hget.trans (congrArg some h))]
  | _ => rfl

/-- Items that were exchanged are there to be exchanged again. -/
theorem exchange_exchange (name : WideText) (f g : Json → Json) (v : Json) :
    exchange name g (exchange name f v) = exchange name (g ∘ f) v := by
  unfold exchange
  cases hread : v.getD name (.arr []) >>= Json.items with
  | error e => simp only [hread]
  | ok items =>
    obtain ⟨listed, hlisted, _⟩ := except_bind_eq_ok.mp hread
    have hput : ∀ value : Json,
        (withMember v name value).getD name (.arr []) = .ok value := fun value =>
      getD_withMember_self name hlisted _
    simp only [hput, except_ok_bind, Json.items, withMember_withMember, List.map_map]

/-! ## Recoding twice -/

theorem recodeContract_recodeContract (first second : Assignment) (contract : Json) :
    recodeContract second (recodeContract first contract) =
      recodeContract (first ++ second) contract := by
  have hfield := field_recodeContract first contract
  cases hlabel : field contract "LABEL" with
  | error e =>
    rw [hlabel] at hfield
    simp [recodeContract, hlabel]
  | ok label =>
    rw [hlabel] at hfield
    have hboth := Assignment.get?_append first second label
    rw [recodeContract, hfield]
    -- whichever of the two has a code id for the label, the second goes before the first
    cases hsecond : second.get? label with
    | none => simp [recodeContract, hlabel, hboth, hsecond]
    | some later =>
      cases hfirst : first.get? label with
      | none => simp [recodeContract, hlabel, hboth, hsecond, hfirst]
      | some earlier =>
        simp [recodeContract, hlabel, hboth, hsecond, hfirst, withMember_withMember]

theorem recodeOption_eq (codes : Assignment) (chainId option : Json) :
    recodeOption codes chainId option =
      if isOn chainId option then exchange "CONTRACTS" (recodeContract codes) option else option :=
  rfl

theorem isOn_recodeOption (codes : Assignment) (chainId other option : Json) :
    isOn other (recodeOption codes chainId option) = isOn other option := by
  have hfield : field (recodeOption codes chainId option) "CHAIN_ID" = field option "CHAIN_ID" :=
    getD_recodeOption codes chainId option .null (by decide)
  rw [isOn, isOn, hfield]

theorem recodeOption_recodeOption (first second : Assignment) (chainId option : Json) :
    recodeOption second chainId (recodeOption first chainId option) =
      recodeOption (first ++ second) chainId option := by
  rw [recodeOption_eq second, isOn_recodeOption]
  by_cases hon : isOn chainId option = true
  · have hcontracts : recodeContract second ∘ recodeContract first =
        recodeContract (first ++ second) :=
      funext (recodeContract_recodeContract first second)
    simp only [recodeOption_eq, if_pos hon, exchange_exchange, hcontracts]
  · simp only [recodeOption_eq, if_neg hon]

/-- Whether one of the options of a chain has the chain id. -/
def holds (chainId chain : Json) : Bool :=
  match optionsOf chain with
  | .ok options => options.any (isOn chainId)
  | .error _ => false

theorem recodeChain_eq (codes : Assignment) (chainId chain : Json) :
    recodeChain codes chainId chain =
      if holds chainId chain then exchange "OPTIONS" (recodeOption codes chainId) chain
      else chain := by
  have hexchange : exchange "OPTIONS" (recodeOption codes chainId) chain =
      match optionsOf chain with
      | .ok options => withMember chain "OPTIONS" (.arr (options.map (recodeOption codes chainId)))
      | .error _ => chain := rfl
  rw [hexchange, recodeChain, holds]
  cases optionsOf chain <;> simp

theorem holds_recodeChain (codes : Assignment) (chainId other chain : Json) :
    holds other (recodeChain codes chainId chain) = holds other chain := by
  rw [holds, holds, optionsOf_recodeChain]
  cases optionsOf chain with
  | error e => rfl
  | ok options =>
    simp only [Except.map, List.any_map]
    congr 1
    funext option
    exact isOn_recodeOption codes chainId other option

theorem recodeChain_recodeChain (first second : Assignment) (chainId chain : Json) :
    recodeChain second chainId (recodeChain first chainId chain) =
      recodeChain (first ++ second) chainId chain := by
  rw [recodeChain_eq second, holds_recodeChain]
  by_cases hholds : holds chainId chain = true
  · have hoptions : recodeOption second chainId ∘ recodeOption first chainId =
        recodeOption (first ++ second) chainId :=
      funext (recodeOption_recodeOption first second chainId)
    simp only [recodeChain_eq, if_pos hholds, exchange_exchange, hoptions]
  · simp only [recodeChain_eq, if_neg hholds]

theorem recode_eq (codes : Assignment) (config chainId : Json) :
    recode codes config chainId = exchange "CHAINS" (recodeChain codes chainId) config :=
  rfl

/-- The later code ids count. -/
theorem recode_recode (first second : Assignment) (config chainId : Json) :
    recode second (recode first config chainId) chainId =
      recode (first ++ second) config chainId := by
  have hchains : recodeChain second chainId ∘ recodeChain first chainId =
      recodeChain (first ++ second) chainId :=
    funext (recodeChain_recodeChain first second chainId)
  simp only [recode_eq, exchange_exchange, hchains]

/-! ### The same code ids again -/

theorem Assignment.get?_append_self (codes : Assignment) :
    Assignment.get? (codes ++ codes) = codes.get? := by
  funext label
  rw [Assignment.get?_append]
  cases codes.get? label <;> rfl

theorem recodeContract_congr (h : first.get? = second.get?) :
    recodeContract first = recodeContract second := by
  funext contract
  simp only [recodeContract, h]

/-- Recoding again with the same code ids changes nothing. -/
theorem recode_self (codes : Assignment) (config chainId : Json) :
    recode codes (recode codes config chainId) chainId = recode codes config chainId := by
  have hcontract := recodeContract_congr (Assignment.get?_append_self codes)
  have hoption : recodeOption (codes ++ codes) chainId = recodeOption codes chainId := by
    funext option
    simp only [recodeOption_eq, hcontract]
  have hchain : recodeChain (codes ++ codes) chainId = recodeChain codes chainId := by
    funext chain
    simp only [recodeChain_eq, hoption]
  rw [recode_recode, recode_eq, hchain, recode_eq]

/-! ## Recoding two chains -/

theorem not_isOn_of_ne {x y : WideText} (hne : x ≠ y) {option : Json}
    (hon : isOn (.str x) option = true) : isOn (.str y) option = false := by
  have hx := isOn_str_iff.mp hon
  by_contra hy
  have := hx.symm.trans (isOn_str_iff.mp (by simpa using hy))
  simp [hne] at this

theorem recodeOption_comm (first second : Assignment) {x y : WideText} (hne : x ≠ y)
    (option : Json) :
    recodeOption second (.str y) (recodeOption first (.str x) option) =
      recodeOption first (.str x) (recodeOption second (.str y) option) := by
  -- an option has one chain id at most, so one of the two recodings leaves it alone
  by_cases hx : isOn (.str x) option = true
  · have hy : isOn (.str y) option = false := not_isOn_of_ne hne hx
    rw [recodeOption_of_not_isOn second hy,
      recodeOption_of_not_isOn second (by rw [isOn_recodeOption, hy])]
  · have hx : isOn (.str x) option = false := by simpa using hx
    rw [recodeOption_of_not_isOn first hx,
      recodeOption_of_not_isOn first (by rw [isOn_recodeOption, hx])]

theorem recodeChain_comm (first second : Assignment) {x y : WideText} (hne : x ≠ y)
    (chain : Json) :
    recodeChain second (.str y) (recodeChain first (.str x) chain) =
      recodeChain first (.str x) (recodeChain second (.str y) chain) := by
  have hoptions : recodeOption second (.str y) ∘ recodeOption first (.str x) =
      recodeOption first (.str x) ∘ recodeOption second (.str y) :=
    funext (recodeOption_comm first second hne)
  rw [recodeChain_eq second, recodeChain_eq first (.str x) (recodeChain second (.str y) chain),
    holds_recodeChain, holds_recodeChain]
  by_cases hx : holds (.str x) chain = true
  · by_cases hy : holds (.str y) chain = true
    · simp only [recodeChain_eq, if_pos hx, if_pos hy, exchange_exchange, hoptions]
    · simp only [recodeChain_eq, if_pos hx, if_neg hy]
  · simp only [recodeChain_eq, if_neg hx]

/-- Recodings of two chains can change places. -/
theorem recode_comm (first second : Assignment) (config : Json) {x y : WideText} (hne : x ≠ y) :
    recode second (recode first config (.str x)) (.str y) =
      recode first (recode second config (.str y)) (.str x) := by
  have hchains : recodeChain second (.str y) ∘ recodeChain first (.str x) =
      recodeChain first (.str x) ∘ recodeChain second (.str y) :=
    funext (recodeChain_comm first second hne)
  simp only [recode_eq, exchange_exchange, hchains]

/-! ## Recoding keeps the shape -/

variable {shape : Json → Prop}

theorem hasMember_withMember_of_ne {v : Json} {other : WideText} (value : Json)
    (hne : other ≠ name) (h : HasMember other shape v) :
    HasMember other shape (withMember v name value) := by
  obtain ⟨ms, rfl, hms⟩ := h.exists_members
  show ∀ w ∈ Members.get? (Members.put ms name value) other, shape w
  rwa [Members.get?_put_of_ne ms value hne]

theorem hasMember_exchange_of_ne {v : Json} {other : WideText} (f : Json → Json)
    (hne : other ≠ name) (h : HasMember other shape v) :
    HasMember other shape (exchange name f v) := by
  unfold exchange
  split
  · exact hasMember_withMember_of_ne _ hne h
  · exact h

/-- Items that keep their shape make up a list that keeps it. -/
theorem hasMember_exchange {v : Json} {f : Json → Json} (hkept : ∀ x, shape x → shape (f x))
    (h : HasMember name (IsListOf shape) v) :
    HasMember name (IsListOf shape) (exchange name f v) := by
  obtain ⟨listed, items, hlisted, hitems, hshape⟩ := h.exists_items
  obtain ⟨ms, rfl, _⟩ := h.exists_members
  rw [exchange_of_items f (except_bind_eq_ok.mpr ⟨listed, hlisted, hitems⟩)]
  show ∀ w ∈ Members.get? (Members.put ms name _) name, IsListOf shape w
  rw [Members.get?_put_self]
  intro w hw
  cases hw
  intro item hitem
  obtain ⟨x, hx, rfl⟩ := List.mem_map.mp hitem
  exact hkept x (hshape x hx)

theorem isContract_recode (codes : Assignment) {contract : Json} (h : IsContract contract) :
    IsContract (recodeContract codes contract) := by
  unfold recodeContract
  split
  · split
    · exact hasMember_withMember_of_ne _ (by decide) h
    · exact h
  · exact h

theorem isOption_recode (codes : Assignment) (chainId : Json) {option : Json}
    (h : IsOption option) : IsOption (recodeOption codes chainId option) := by
  rw [recodeOption_eq]
  split
  · exact ⟨hasMember_exchange_of_ne _ (by decide) h.1,
      hasMember_exchange (fun _ => isContract_recode codes) h.2⟩
  · exact h

theorem isChain_recode (codes : Assignment) (chainId : Json) {chain : Json} (h : IsChain chain) :
    IsChain (recodeChain codes chainId chain) := by
  rw [recodeChain_eq]
  split
  · exact hasMember_exchange (fun _ => isOption_recode codes chainId) h
  · exact h

theorem isDocument_recode (codes : Assignment) (chainId : Json) {config : Json}
    (h : IsDocument config) : IsDocument (recode codes config chainId) :=
  hasMember_exchange (fun _ => isChain_recode codes chainId) h

/-! ## Updating again -/

/-- The code ids of pairs equal themselves if those of the pairs do. -/
theorem Assignment.same_of_ofPairs {pairs : List (WideText × Json)}
    (h : ∀ p ∈ pairs, p.2.same p.2 = true) {label codeId : Json}
    (hcode : (Assignment.ofPairs pairs).get? label = some codeId) :
    codeId.same codeId = true := by
  obtain ⟨_, hmem, _, rfl⟩ := Assignment.mem_of_get? hcode
  obtain ⟨p, hp, rfl⟩ := List.mem_map.mp hmem
  show (orZero p.2).same (orZero p.2) = true
  unfold orZero
  split
  · exact h p hp
  · simp

variable {pairs : List (WideText × Json)}

/-- A contract that has its code id is left as it is, and there is nothing to notice. -/
theorem silent_updateContract (hself : ∀ p ∈ pairs, p.2.same p.2 = true) (chainId : Json)
    {contract : Json} (h : IsContract contract) :
    (updateContract (.ofPairs pairs) chainId (recodeContract (.ofPairs pairs) contract) :
      Task σ Json).Silent (recodeContract (.ofPairs pairs) contract) := by
  rcases h.field_eq with hnull | ⟨label, hlabel⟩
  · refine .lift_bind ((field_recodeContract _ contract).trans hnull) (.lift_bind rfl ?_)
    rw [Assignment.get?_ofPairs_null]
    exact .pure _
  · have hlabel' := (label_recodeContract (.ofPairs pairs) contract).trans hlabel
    refine .lift_bind (field_of_member hlabel') (.lift_bind rfl ?_)
    cases hcode : (Assignment.ofPairs pairs).get? (.str label) with
    | none => exact .pure _
    | some codeId =>
      have hput := member_recodeContract hlabel hcode
      refine .lift_bind (Json.getD_of_member _ hput) (.lift_bind hlabel' ?_)
      -- the previous code id is the new one
      rw [if_neg (by simp [Assignment.same_of_ofPairs hself hcode])]
      show Task.Silent (pure (withMember _ "CODE" codeId)) _
      rw [withMember_of_member hput]
      exact .pure _

theorem silent_updateOption (hself : ∀ p ∈ pairs, p.2.same p.2 = true) (chainId : Json)
    {option : Json} (h : IsOption option) :
    (updateOption (.ofPairs pairs) chainId (recodeOption (.ofPairs pairs) chainId option) :
      Task σ Json).Silent (recodeOption (.ofPairs pairs) chainId option) := by
  obtain ⟨id, hid⟩ := h.1.exists_getD "CHAIN_ID" .null
  have hid' : field (recodeOption (.ofPairs pairs) chainId option) "CHAIN_ID" = .ok id :=
    (getD_recodeOption _ chainId option .null (by decide)).trans hid
  refine .lift_bind hid' ?_
  by_cases hsame : id.same chainId = true
  · obtain ⟨listed, contracts, hlisted, hcontracts, hshape⟩ := h.2.exists_items
    have hon : isOn chainId option = true := by rw [isOn_eq chainId hid, hsame]
    have hread : contractsOf option = .ok contracts :=
      except_bind_eq_ok.mpr ⟨listed, hlisted, hcontracts⟩
    rw [hsame, recodeOption_eq, if_pos hon, exchange_of_items _ hread]
    refine .lift_bind (getD_withMember_self "CONTRACTS" hlisted _) (.lift_bind rfl
      (.bind (.mapM ?_) ?_))
    · intro contract hmem
      obtain ⟨c, hc, rfl⟩ := List.mem_map.mp hmem
      exact silent_updateContract hself chainId (hshape c hc)
    · rw [withMember_withMember]
      exact .pure _
  · rw [Bool.eq_false_iff.mpr hsame]
    exact .pure _

theorem silent_updateChain (hself : ∀ p ∈ pairs, p.2.same p.2 = true) (chainId : Json)
    {chain : Json} (h : IsChain chain) :
    (updateChain (.ofPairs pairs) chainId (recodeChain (.ofPairs pairs) chainId chain) :
      Task σ Json).Silent (recodeChain (.ofPairs pairs) chainId chain) := by
  obtain ⟨listed, options, hlisted, hoptions, hshape⟩ := h.exists_items
  have hread : optionsOf chain = .ok options := except_bind_eq_ok.mpr ⟨listed, hlisted, hoptions⟩
  have hread' : optionsOf (recodeChain (.ofPairs pairs) chainId chain) =
      .ok (options.map (recodeOption (.ofPairs pairs) chainId)) := by
    rw [optionsOf_recodeChain, hread]
    rfl
  obtain ⟨listed', hlisted', hoptions'⟩ := except_bind_eq_ok.mp hread'
  have hids : ∀ option ∈ options.map (recodeOption (.ofPairs pairs) chainId),
      ∃ id, field option "CHAIN_ID" = .ok id := by
    intro option hmem
    obtain ⟨o, ho, rfl⟩ := List.mem_map.mp hmem
    exact (isOption_recode _ chainId (hshape o ho)).1.exists_getD "CHAIN_ID" .null
  obtain ⟨has, hhas⟩ := exists_hasChain chainId hids
  refine .lift_bind hlisted' (.lift_bind hoptions' (.lift_bind hhas ?_))
  cases has with
  | false => exact .pure _
  | true =>
    refine .bind (.mapM ?_) ?_
    · intro option hmem
      obtain ⟨o, ho, rfl⟩ := List.mem_map.mp hmem
      exact silent_updateOption hself chainId (hshape o ho)
    · -- the options are put back where they are
      have hholds : holds chainId chain = true := by
        rw [← holds_recodeChain (.ofPairs pairs) chainId chainId chain, holds, hread']
        exact hasChain_eq_ok hhas
      rw [recodeChain_eq, if_pos hholds, exchange_of_items _ hread, withMember_withMember]
      exact .pure _

/-- Assigning the same code ids again changes nothing, and there is nothing to notice. -/
theorem silent_update (hself : ∀ p ∈ pairs, p.2.same p.2 = true) (chainId : Json) {config : Json}
    (h : IsDocument config) :
    (update (recode (.ofPairs pairs) config chainId) chainId (pairsValue pairs) :
      Task σ Json).Silent (recode (.ofPairs pairs) config chainId) := by
  obtain ⟨listed, chains, hlisted, hchains, hshape⟩ := h.exists_items
  obtain ⟨ms, rfl, _⟩ := h.exists_members
  have hread : chainsOf (.obj ms) = .ok chains :=
    except_bind_eq_ok.mpr ⟨listed, hlisted, hchains⟩
  refine .lift_bind (Assignment.ofJson_pairsValue pairs) ?_
  rw [recode_eq, exchange_of_items _ hread]
  refine .lift_bind (getD_withMember_self "CHAINS" hlisted _) (.lift_bind rfl
    (.bind (.mapM ?_) ?_))
  · intro chain hmem
    obtain ⟨c, hc, rfl⟩ := List.mem_map.mp hmem
    exact silent_updateChain hself chainId (hshape c hc)
  · rw [withMember_withMember]
    exact .pure _

/-! ## Updates that follow one another -/

theorem yields_update (pairs : List (WideText × Json)) (chainId : Json) {config : Json}
    (h : IsDocument config) :
    (update config chainId (pairsValue pairs) : Task σ Json).Yields
      (recode (.ofPairs pairs) config chainId) :=
  runIn_update pairs chainId h

theorem yields_update_update (a b : List (WideText × Json)) (x y : Json) {config : Json}
    (h : IsDocument config) :
    (update config x (pairsValue a) >>= fun config' => update config' y (pairsValue b) :
      Task σ Json).Yields (recode (.ofPairs b) (recode (.ofPairs a) config x) y) :=
  (yields_update a x h).bind (yields_update b y (isDocument_recode _ x h))

/-- Updates of a configuration of the documented shape compose. Two updates of one chain are one
update with the pairs of both, updates of two chains can change places, and an update that is made
again changes nothing. It notices nothing either, if its code ids equal themselves, as integers
do. -/
theorem update_composes (config : Json) (x y : WideText) (a b : List (WideText × Json))
    (h : IsDocument config) :
    (∃ config',
      (update config (.str x) (pairsValue a) >>= fun c => update c (.str x) (pairsValue b) :
        Task σ Json).Yields config' ∧
      (update config (.str x) (pairsValue (a ++ b)) : Task σ Json).Yields config') ∧
    (x ≠ y → ∃ config',
      (update config (.str x) (pairsValue a) >>= fun c => update c (.str y) (pairsValue b) :
        Task σ Json).Yields config' ∧
      (update config (.str y) (pairsValue b) >>= fun c => update c (.str x) (pairsValue a) :
        Task σ Json).Yields config') ∧
    ∃ config',
      (update config (.str x) (pairsValue a) : Task σ Json).Yields config' ∧
      (update config' (.str x) (pairsValue a) : Task σ Json).Yields config' ∧
      ((∀ p ∈ a, p.2.same p.2 = true) →
        (update config' (.str x) (pairsValue a) : Task σ Json).Silent config') := by
  refine ⟨⟨_, yields_update_update a b (.str x) (.str x) h, ?_⟩, ?_, _, yields_update a (.str x) h,
    ?_, fun hself => silent_update hself (.str x) h⟩
  · have hpairs : Assignment.ofPairs (a ++ b) = .ofPairs a ++ .ofPairs b := List.map_append
    rw [recode_recode, ← hpairs]
    exact yields_update (a ++ b) (.str x) h
  · intro hne
    refine ⟨_, yields_update_update a b (.str x) (.str y) h, ?_⟩
    rw [recode_comm _ _ config hne]
    exact yields_update_update b a (.str y) (.str x) h
  · have hagain := yields_update (σ := σ) a (.str x) (isDocument_recode (.ofPairs a) (.str x) h)
    rwa [recode_self] at hagain

/-! ### Two options of one chain, and another one beside them -/

theorem update_composes_scattered :
    IsDocument scattered ∧ ("X" : WideText) ≠ "Y" ∧
    (∀ p ∈ [(("a" : WideText), Json.int 3), ("b", .null)], p.2.same p.2 = true) ∧
    (update scattered (.str "X") (pairsValue [("a", .int 3), ("b", .null)]) >>= fun c =>
      update c (.str "X") (pairsValue [("a", .int 9)]) : Task Unit Json).Yields scatteredAfter ∧
    (update scattered (.str "X") (pairsValue [("a", .int 3), ("b", .null), ("a", .int 9)]) :
      Task Unit Json).Yields scatteredAfter ∧
    (∃ config',
      (update scattered (.str "X") (pairsValue [("a", .int 3), ("b", .null)]) >>= fun c =>
        update c (.str "Y") (pairsValue [("a", .int 9)]) : Task Unit Json).Yields config' ∧
      (update scattered (.str "Y") (pairsValue [("a", .int 9)]) >>= fun c =>
        update c (.str "X") (pairsValue [("a", .int 3), ("b", .null)]) :
          Task Unit Json).Yields config') ∧
    ∃ config',
      (update scattered (.str "X") (pairsValue [("a", .int 3), ("b", .null)]) :
        Task Unit Json).Yields config' ∧
      (update config' (.str "X") (pairsValue [("a", .int 3), ("b", .null)]) :
        Task Unit Json).Silent config' := by
  have hshape : IsDocument scattered := by decide
  have hne : ("X" : WideText) ≠ "Y" := by decide
  have hself : ∀ p ∈ [(("a" : WideText), Json.int 3), ("b", .null)], p.2.same p.2 = true := by
    decide
  obtain ⟨⟨config', hboth, hone⟩, hcomm, again, honce, _, hsilent⟩ := update_composes (σ := Unit)
    scattered "X" "Y" [("a", .int 3), ("b", .null)] [("a", .int 9)] hshape
  have hresult : ((update scattered (.str "X")
      (pairsValue [("a", .int 3), ("b", .null), ("a", .int 9)]) : Task Unit Json).runIn
        ⟨(), []⟩).1 = .ok scatteredAfter := by rfl
  obtain ⟨notices, hrun⟩ := hone ⟨(), []⟩
  have hafter : config' = scatteredAfter := by
    rw [List.cons_append, List.cons_append, List.nil_append] at hrun
    rw [hrun] at hresult
    exact Except.ok.inj hresult
  subst hafter
  exact ⟨hshape, hne, hself, hboth, hone, hcomm hne, again, honce, hsilent hself⟩

end ContractOps.Config.CodeIds
