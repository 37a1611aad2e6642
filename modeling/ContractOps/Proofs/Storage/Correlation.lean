import ContractOps.Proofs.Storage.Course

/-!
# Every contract gets its own code id

Selection, batch, correlation and assignment go through the same contracts by order, by place and by
label. A `Deployment` is a run as its caller sees it: the contracts of the option, what was read and
sent for those whose label was asked for, and what came back. For every run that gives an outcome
there is one that explains it (`run_explained`): the code id of a place is that of the contract of
this place, in the outcome and in its configuration.
-/

namespace ContractOps.Storage

variable {σ : Type}

/-! ## Places -/

/-- The pair of a place holds the label and the code id of the place. -/
theorem getElem?_correlate {α : Type} (missing : α) (labels : List Json) (codeIds : List α)
    (i : Nat) :
    (correlate missing labels codeIds)[i]? =
      labels[i]?.map fun label => (label, codeIds[i]?.getD missing) := by
  induction labels generalizing codeIds i with
  | nil => rfl
  | cons label labels ih =>
    cases codeIds with
    | nil =>
      cases i with
      | zero => rfl
      | succ i => simpa [correlate] using ih [] i
    | cons codeId codeIds =>
      cases i with
      | zero => rfl
      | succ i => simpa [correlate] using ih codeIds i

/-- With unique labels, a label stands at one place. -/
theorem eq_of_same_label {contracts : List Json} (h : Config.CodeIds.UniqueLabels contracts)
    {i j : Nat} {first second label : Json} (hi : contracts[i]? = some first)
    (hj : contracts[j]? = some second) (hfirst : first.member "LABEL" = .ok label)
    (hsecond : second.member "LABEL" = .ok label) : i = j := by
  obtain ⟨hilt, rfl⟩ := List.getElem?_eq_some_iff.mp hi
  obtain ⟨hjlt, rfl⟩ := List.getElem?_eq_some_iff.mp hj
  have hapart := List.pairwise_iff_getElem.mp h
  rcases Nat.lt_trichotomy i j with hlt | heq | hgt
  · exact absurd hsecond (hapart i j hilt hjlt hlt label hfirst)
  · exact heq
  · exact absurd hfirst (hapart j i hjlt hilt hgt label hsecond)

/-! ## Deployments -/

/-- The permission of a contract. -/
def permissionOf (contract : Json) : Except Fault Permission :=
  contract.getD "PERMISSION" .null >>= Permission.ofJson

/-- A run as its caller sees it. -/
structure Deployment where
  chain : Config.ChainOption
  contracts : List Json
  sender : Json
  codes : List Bytes
  messages : List Message
  gas : Int
  fee : WideText
  tx : TxResult
  extracted : List Int
  /-- What the new configuration has in place of `chain` and its `contracts`. -/
  newChain : Config.ChainOption
  newContracts : List Json

namespace Deployment

/-- The contracts whose label was asked for. -/
def chosen (d : Deployment) (labels : List WideText) : List Json := d.contracts.filter (asked labels)

/-- The size of the code, compressed. -/
def size (compress : Compressor) (d : Deployment) : Nat :=
  (d.codes.map fun code => (compress code).length).foldr (· + ·) 0

/-- What was read: the file of every contract chosen. -/
structure Reads (d : Deployment) (chosen : List Json) (events : List Event) : Prop where
  length : events.length = chosen.length
  codes : d.codes.length = chosen.length
  event : ∀ (i : Nat) (contract : Json), chosen[i]? = some contract →
    ∃ file code, contract.member "WASM" = .ok file ∧ d.codes[i]? = some code ∧
      events[i]? = some (.read file (.ok code))

/-- What was sent: the compressed code of every contract chosen, paid for by its size. -/
structure Sends (compress : Compressor) (d : Deployment) (chosen : List Json) : Prop where
  length : d.messages.length = chosen.length
  message : ∀ (i : Nat) (contract : Json), chosen[i]? = some contract →
    ∃ code author permission, d.codes[i]? = some code ∧
      Message.textField d.sender = .ok author ∧ permissionOf contract = .ok permission ∧
      d.messages[i]? = some (.storeCode author (compress code) permission)
  gas : ∃ multiplier, d.chain.option.member "STORE_CODE_GAS_MULTIPLIER" = .ok multiplier ∧
    Gas.forSize (.int (d.size compress)) multiplier = .ok d.gas
  fee : ∃ gasPrice denom, d.chain.option.member "GAS_PRICE_AMOUNT" = .ok gasPrice ∧
    d.chain.option.member "DENOM" = .ok denom ∧ Fee.text (.int d.gas) gasPrice denom = .ok d.fee

/-- What came back: a code id for every contract chosen, or zero where there are too few. -/
structure Pairs (d : Deployment) (chosen : List Json) (o : Outcome) : Prop where
  format : ∃ format, TxResult.EventFormat.ofOption d.chain.option = .ok format ∧
    d.tx.codeIds format = .ok d.extracted
  length : o.codeIds.length = chosen.length
  pair : ∀ (i : Nat) (contract : Json), chosen[i]? = some contract →
    ∃ label, contract.member "LABEL" = .ok label ∧
      o.codeIds[i]? = some (label, d.extracted[i]?.getD 0)
  mismatch : o.mismatch.isSome = true ↔ d.extracted.length ≠ chosen.length

/-- What became of the configuration: the code ids of the contracts chosen, and nothing else. -/
structure Updates (config chainId : Json) (labels : List WideText) (d : Deployment) (o : Outcome) :
    Prop where
  found : Config.findOption o.config chainId = .ok d.newChain
  listed : d.newChain.option.getD "CONTRACTS" (.arr []) = .ok (.arr d.newContracts)
  code : Config.CodeIds.UniqueLabels d.contracts →
    ∀ (i : Nat) (label : Json) (codeId : Int), o.codeIds[i]? = some (label, codeId) →
      ∃ contract, Config.findContract (.arr d.newContracts) label = .ok contract ∧
        contract.member "CODE" = .ok (.int codeId)
  length : d.newContracts.length = d.contracts.length
  kept : ∀ (i : Nat) (contract : Json), d.contracts[i]? = some contract →
    asked labels contract = false → d.newContracts[i]? = some contract
  members : ∀ (i : Nat) (contract contract' : Json), d.contracts[i]? = some contract →
    d.newContracts[i]? = some contract' → ∀ (name : WideText) (dflt : Json), name ≠ "CODE" →
      contract'.getD name dflt = contract.getD name dflt
  chain : d.newChain.name = d.chain.name ∧ d.newChain.addressPrefix = d.chain.addressPrefix ∧
    ∀ (name : WideText) (dflt : Json), name ≠ "CONTRACTS" →
      d.newChain.option.getD name dflt = d.chain.option.getD name dflt
  others : ∀ (other : Json) (found : Config.ChainOption),
    Config.findOption config other = .ok found →
      Config.CodeIds.isOn chainId found.option = false →
        Config.findOption o.config other = .ok found

/-- The deployment says what the run has done and what its outcome holds. -/
structure Explains (compress : Compressor) (address : Except Fault Json) (config chainId : Json)
    (labels : List WideText) (events : List Event) (o : Outcome) (d : Deployment) : Prop where
  chain : Config.findOption config chainId = .ok d.chain
  contracts : Config.CodeIds.contractsOf d.chain.option = .ok d.contracts
  sender : address = .ok d.sender
  events : ∃ reads, events = reads ++ [.broadcast d.messages d.fee d.gas "" (.ok d.tx)] ∧
    d.Reads (d.chosen labels) reads
  sends : d.Sends compress (d.chosen labels)
  pairs : d.Pairs (d.chosen labels) o
  updates : d.Updates config chainId labels o

end Deployment

/-! ## The deployment of a course -/

namespace Course

/-- The deployment of a course. -/
def deployment (c : Course) (chainId : Json) : Deployment where
  chain := c.chain
  contracts := c.contracts
  sender := c.sender
  codes := c.taken.map Prod.snd
  messages := c.batch.map Entry.message
  gas := c.gas
  fee := c.fee
  tx := c.tx
  extracted := c.extracted
  newChain := Config.CodeIds.recodeFound c.assigned chainId c.chain
  newContracts := c.contracts.map (Config.CodeIds.recodeContract c.assigned)

variable {compress : Compressor} {address : Except Fault Json} {config chainId : Json}
  {labels : List WideText} {c : Course}

/-- The entry of a contract chosen stands at its place. -/
theorem Holds.taken_of_chosen (h : c.Holds compress address config chainId labels) {i : Nat}
    {contract : Json} (hi : (c.contracts.filter (asked labels))[i]? = some contract) :
    ∃ e code, c.taken[i]? = some (e, code) ∧ e.contract = contract ∧
      e.Packs compress c.sender code := by
  rw [← h.requested, batch, List.map_map, List.getElem?_map] at hi
  obtain ⟨⟨e, code⟩, htaken, rfl⟩ := Option.map_eq_some_iff.mp hi
  exact ⟨e, code, htaken, rfl, h.packs _ (List.mem_of_getElem? htaken)⟩

theorem Holds.length_taken (h : c.Holds compress address config chainId labels) :
    c.taken.length = (c.contracts.filter (asked labels)).length := by
  rw [← h.requested, batch, List.length_map, List.length_map]

theorem Holds.reads (h : c.Holds compress address config chainId labels) :
    (c.deployment chainId).Reads ((c.deployment chainId).chosen labels) (c.taken.map readOf) where
  length := by rw [List.length_map, h.length_taken]; rfl
  codes := by rw [deployment, List.length_map, h.length_taken]; rfl
  event := by
    intro i contract hi
    obtain ⟨e, code, htaken, rfl, hpacks⟩ := h.taken_of_chosen hi
    refine ⟨e.file, code, hpacks.file, ?_, ?_⟩
    · rw [deployment, List.getElem?_map, htaken]
      rfl
    · rw [List.getElem?_map, htaken]
      rfl

/-- The size of a batch is that of its compressed code. -/
theorem Holds.totalSize_batch (h : c.Holds compress address config chainId labels) :
    totalSize c.batch = (c.deployment chainId).size compress := by
  rw [totalSize, batch, Deployment.size, deployment, List.map_map, List.map_map]
  congr 1
  exact List.map_congr_left fun t ht => (h.packs t ht).size

theorem Holds.sends (h : c.Holds compress address config chainId labels) :
    (c.deployment chainId).Sends compress ((c.deployment chainId).chosen labels) := by
  have hprice := h.price
  rw [h.totalSize_batch] at hprice
  obtain ⟨multiplier, hmultiplier, hprice⟩ := except_bind_eq_ok.mp hprice
  obtain ⟨gas, hgas, hprice⟩ := except_bind_eq_ok.mp hprice
  obtain ⟨gasPrice, hgasPrice, hprice⟩ := except_bind_eq_ok.mp hprice
  obtain ⟨denom, hdenom, hprice⟩ := except_bind_eq_ok.mp hprice
  obtain ⟨fee, hfee, hprice⟩ := except_bind_eq_ok.mp hprice
  obtain ⟨rfl, rfl⟩ : gas = c.gas ∧ fee = c.fee := by
    cases hprice
    exact ⟨rfl, rfl⟩
  refine ⟨?_, ?_, ⟨multiplier, hmultiplier, hgas⟩, ⟨gasPrice, denom, hgasPrice, hdenom, hfee⟩⟩
  · rw [deployment, batch, List.length_map, List.length_map, h.length_taken]
    rfl
  · intro i contract hi
    obtain ⟨e, code, htaken, rfl, hpacks⟩ := h.taken_of_chosen hi
    obtain ⟨author, permission, hauthor, hpermission, hmessage⟩ := hpacks.message
    refine ⟨code, author, permission, ?_, hauthor, hpermission, ?_⟩
    · rw [deployment, List.getElem?_map, htaken]
      rfl
    · rw [deployment, batch, List.map_map, List.getElem?_map, htaken, ← hmessage]
      rfl

theorem Holds.getElem?_codeIds (h : c.Holds compress address config chainId labels) {i : Nat}
    {label : Json} {codeId : Int} (hi : c.codeIds[i]? = some (label, codeId)) :
    ∃ contract, (c.contracts.filter (asked labels))[i]? = some contract ∧
      contract.member "LABEL" = .ok label := by
  rw [codeIds, getElem?_correlate, batch, List.map_map, List.getElem?_map] at hi
  obtain ⟨found, hfound, hpair⟩ := Option.map_eq_some_iff.mp hi
  obtain ⟨⟨e, code⟩, htaken, rfl⟩ := Option.map_eq_some_iff.mp hfound
  cases hpair
  refine ⟨e.contract, ?_, (h.packs _ (List.mem_of_getElem? htaken)).label⟩
  rw [← h.requested, batch, List.map_map, List.getElem?_map, htaken]
  rfl

theorem Holds.pairs (h : c.Holds compress address config chainId labels) :
    (c.deployment chainId).Pairs ((c.deployment chainId).chosen labels)
      (c.outcome config chainId) where
  format := ⟨c.format, h.format, h.extracted⟩
  length := by
    have hlength := congrArg List.length (map_fst_correlate 0 (c.batch.map Entry.label) c.extracted)
    rw [List.length_map, List.length_map, batch, List.length_map, h.length_taken] at hlength
    exact hlength
  pair := by
    intro i contract hi
    obtain ⟨e, code, htaken, rfl, hpacks⟩ := h.taken_of_chosen hi
    refine ⟨e.label, hpacks.label, ?_⟩
    rw [outcome, codeIds, getElem?_correlate, batch, List.map_map, List.getElem?_map, htaken]
    rfl
  mismatch := by
    have hbatch : c.batch.length = ((c.deployment chainId).chosen labels).length := by
      rw [batch, List.length_map, h.length_taken]
      rfl
    rw [outcome, Mismatch.of?, hbatch]
    show (if c.extracted.length = _ then _ else _ : Option Mismatch).isSome = true ↔
      c.extracted.length ≠ _
    split
    · next heq => simp [heq]
    · next hne => simp [hne]

/-- Every contract of the option has a label. -/
theorem Holds.labelled (h : c.Holds compress address config chainId labels) {contract : Json}
    (hcontract : contract ∈ c.contracts) : ∃ label, contract.member "LABEL" = .ok label := by
  obtain ⟨e, rest, hbatch⟩ := List.exists_cons_of_ne_nil h.nonempty
  have hchosen : e.contract ∈ c.contracts.filter (asked labels) := by
    rw [← h.requested, hbatch]
    exact List.mem_cons_self
  obtain ⟨label, hlabel, _⟩ := (asked_iff labels e.contract).mp (List.mem_filter.mp hchosen).2
  exact member_label_of_checkLabels h.contracts h.known hlabel hcontract

/-- The code ids are assigned to labels that were asked for. -/
theorem Holds.mem_assigned (h : c.Holds compress address config chainId labels)
    {p : Json × Json} (hp : p ∈ c.assigned) :
    ∃ (i : Nat) (contract : Json) (label : WideText) (codeId : Int),
      (c.contracts.filter (asked labels))[i]? = some contract ∧ label ∈ labels ∧
      contract.member "LABEL" = .ok (.str label) ∧ c.codeIds[i]? = some (.str label, codeId) ∧
      p = (.str label, .int codeId) := by
  obtain ⟨⟨label, codeId⟩, hmem, rfl⟩ := List.mem_map.mp hp
  obtain ⟨i, hi⟩ := List.mem_iff_getElem?.mp hmem
  obtain ⟨contract, hcontract, hlabel⟩ := h.getElem?_codeIds hi
  have hasked : asked labels contract = true :=
    (List.mem_filter.mp (List.mem_of_getElem? hcontract)).2
  obtain ⟨text, htext, hmember⟩ := (asked_iff labels contract).mp hasked
  cases hlabel.symm.trans hmember
  exact ⟨i, contract, text, codeId, hcontract, htext, hmember, hi, rfl⟩

/-- With unique labels, every label gets the code id of its place. -/
theorem Holds.get?_assigned (h : c.Holds compress address config chainId labels)
    (hunique : Config.CodeIds.UniqueLabels c.contracts) {i : Nat} {label : Json} {codeId : Int}
    (hi : c.codeIds[i]? = some (label, codeId)) : c.assigned.get? label = some (.int codeId) := by
  have hmem : (label, Json.int codeId) ∈ c.assigned :=
    List.mem_map_of_mem (List.mem_of_getElem? hi)
  obtain ⟨_, _, text, _, _, _, _, _, hp⟩ := h.mem_assigned hmem
  obtain ⟨rfl, _⟩ := Prod.mk.inj hp
  refine Config.CodeIds.Assignment.get?_eq_some hmem (Json.same_str_right.mpr rfl) ?_
  intro q hq hsame
  obtain ⟨j, second, text', codeId', hsecond, _, hlabel', hj, rfl⟩ := h.mem_assigned hq
  obtain ⟨first, hfirst, hlabel⟩ := h.getElem?_codeIds hi
  cases Json.same_str_right.mp hsame
  have hplace : i = j :=
    eq_of_same_label (hunique.sublist List.filter_sublist) hfirst hsecond hlabel hlabel'
  subst hplace
  cases hi.symm.trans hj
  rfl

/-- With unique labels, the contract found by the label of a place has the code id of the place. -/
theorem Holds.findContract_recoded (h : c.Holds compress address config chainId labels)
    (hunique : Config.CodeIds.UniqueLabels c.contracts) {i : Nat} {label : Json} {codeId : Int}
    (hi : c.codeIds[i]? = some (label, codeId)) :
    ∃ contract,
      Config.findContract (.arr (c.contracts.map (Config.CodeIds.recodeContract c.assigned)))
        label = .ok contract ∧ contract.member "CODE" = .ok (.int codeId) := by
  have hcode := h.get?_assigned hunique hi
  obtain ⟨_, _, text, _, _, _, _, _, hp⟩ :=
    h.mem_assigned (List.mem_map_of_mem (List.mem_of_getElem? hi))
  obtain ⟨rfl, _⟩ := Prod.mk.inj hp
  obtain ⟨contract, hchosen, hlabel⟩ := h.getElem?_codeIds hi
  have hmem : contract ∈ c.contracts := (List.mem_filter.mp (List.mem_of_getElem? hchosen)).1
  have hfirst : Config.firstLabelled (.str text) c.contracts = .ok contract :=
    Config.CodeIds.firstLabelled_eq_ok (fun _ => h.labelled) hunique hmem hlabel
  refine ⟨Config.CodeIds.recodeContract c.assigned contract, ?_,
    Config.CodeIds.member_recodeContract hlabel hcode⟩
  show Config.firstLabelled (.str text) (c.contracts.map _) = _
  rw [Config.CodeIds.firstLabelled_recode, hfirst]
  rfl

/-- A contract that was not asked for is as it was. -/
theorem Holds.recodeContract_of_not_asked (h : c.Holds compress address config chainId labels)
    {contract : Json} (hmem : contract ∈ c.contracts) (hasked : asked labels contract = false) :
    Config.CodeIds.recodeContract c.assigned contract = contract := by
  obtain ⟨label, hlabel⟩ := h.labelled hmem
  refine Config.CodeIds.recodeContract_of_get?_eq_none hlabel
    (Config.CodeIds.Assignment.get?_eq_none fun p hp => ?_)
  obtain ⟨_, _, text, _, _, htext, _, _, rfl⟩ := h.mem_assigned hp
  apply Bool.eq_false_iff.mpr
  intro hsame
  cases Json.same_str_left.mp hsame
  rw [(asked_iff labels contract).mpr ⟨text, htext, hlabel⟩] at hasked
  cases hasked

theorem Holds.contractsOf_chain (h : c.Holds compress address config chainId labels) :
    Config.CodeIds.contractsOf c.chain.option = .ok c.contracts :=
  except_bind_eq_ok.mpr ⟨c.listed, h.listed, h.contracts⟩

theorem Holds.updates (h : c.Holds compress address config chainId labels) :
    (c.deployment chainId).Updates config chainId labels (c.outcome config chainId) where
  found := (Config.CodeIds.findOption_recode_self c.assigned h.chain h.contractsOf_chain).1
  listed := (Config.CodeIds.findOption_recode_self c.assigned h.chain h.contractsOf_chain).2
  code hunique i label codeId hi := h.findContract_recoded hunique hi
  length := List.length_map _
  kept := by
    intro i contract hi hasked
    replace hi : c.contracts[i]? = some contract := hi
    rw [deployment, List.getElem?_map, hi, Option.map_some,
      h.recodeContract_of_not_asked (List.mem_of_getElem? hi) hasked]
  members := by
    intro i contract contract' hi hi' name dflt hname
    replace hi : c.contracts[i]? = some contract := hi
    rw [deployment, List.getElem?_map, hi] at hi'
    cases hi'
    exact Config.CodeIds.getD_recodeContract c.assigned contract dflt hname
  chain := ⟨rfl, rfl, fun name dflt hname =>
    Config.CodeIds.getD_recodeOption c.assigned chainId c.chain.option dflt hname⟩
  others other found hother hapart :=
    Config.CodeIds.findOption_recode_other c.assigned hother hapart

end Course

/-! ## Every run -/

/-- For every run that gives an outcome there is a deployment that explains it, with the events that
watching the run shows. -/
theorem run_explained (compress : Compressor) (read : CodeReader σ) (signer : Signer σ)
    (config chainId : Json) (labels : List WideText) (world : σ) (o : Outcome) (after : Session σ)
    (h : (run compress read signer config chainId (.arr (labels.map .str))).start world =
      (.ok o, after)) :
    ∃ events d,
      (run compress read.watched signer.watched config chainId
        (.arr (labels.map .str))).start ⟨world, []⟩ =
          (.ok o, ⟨⟨after.world, events⟩, after.notices⟩) ∧
      Deployment.Explains compress signer.address config chainId labels events o d := by
  have hstart : SameWorld (⟨world, []⟩ : Watched σ) world := rfl
  obtain ⟨result, watched, after', notices, hrun, hplain, hsame⟩ :=
    run_watched compress read signer config chainId (.arr (labels.map .str)) [] hstart
  cases h.symm.trans hplain
  subst hsame
  obtain ⟨c, hc, rfl, hevents⟩ := run_eq_ok hrun
  exact ⟨watched.events, c.deployment chainId, hrun, hc.chain, hc.contractsOf_chain, hc.sender,
    ⟨c.taken.map readOf, hevents, hc.reads⟩, hc.sends, hc.pairs, hc.updates⟩

/-! ### Labels in another order, and one code id too few -/

/-- A contract with a label, whose code lies in a file of the same name. -/
def labelled (label : WideText) : Json := .obj [("LABEL", .str label), ("WASM", .str label)]

/-- A chain with three contracts. -/
def threeContracts : Json :=
  .obj [("CHAINS", .arr [.obj [("OPTIONS", .arr [.obj [("CHAIN_ID", .str "X"),
    ("STORE_CODE_GAS_MULTIPLIER", .int 2), ("GAS_PRICE_AMOUNT", .str "1"), ("DENOM", .str "u"),
    ("CONTRACTS", .arr [labelled "a", labelled "b", labelled "c"])]])]])]

/-- The same code in every file. -/
def sameCode : CodeReader Unit := fun _ => return [1, 2, 3]

/-- Answers with one code id, whatever is sent. -/
def oneCodeId : Signer Unit where
  address := .ok (.str "me")
  broadcast _ _ _ _ := return {
    txHash := .str "T"
    events := .arr [.obj [("type", .str "store_code"), ("attributes",
      .arr [.obj [("key", .str "code_id"), ("value", .str "7")]])]] }

theorem run_explained_in_another_order :
    ((run id sameCode oneCodeId threeContracts (.str "X")
      (.arr (List.map .str ["c", "a"]))).start ()).1.toOption.map
        (fun o => o.codeIds.map Prod.snd) = some [7, 0] ∧
    ∃ o after events d,
      (run id sameCode oneCodeId threeContracts (.str "X")
        (.arr (List.map .str ["c", "a"]))).start () = (.ok o, after) ∧
      (run id sameCode.watched oneCodeId.watched threeContracts (.str "X")
        (.arr (List.map .str ["c", "a"]))).start ⟨(), []⟩ =
          (.ok o, ⟨⟨after.world, events⟩, after.notices⟩) ∧
      Deployment.Explains id oneCodeId.address threeContracts (.str "X") ["c", "a"] events o d := by
  have hcodes : ((run id sameCode oneCodeId threeContracts (.str "X")
      (.arr (List.map .str ["c", "a"]))).start ()).1.toOption.map
        (fun o => o.codeIds.map Prod.snd) = some [7, 0] := by decide +kernel
  refine ⟨hcodes, ?_⟩
  cases hrun : (run id sameCode oneCodeId threeContracts (.str "X")
    (.arr (List.map .str ["c", "a"]))).start () with
  | mk result after =>
    cases result with
    | error fault =>
      rw [hrun] at hcodes
      cases hcodes
    | ok o =>
      obtain ⟨events, d, hwatched, hexplains⟩ :=
        run_explained id sameCode oneCodeId threeContracts (.str "X") ["c", "a"] () o after hrun
      exact ⟨o, after, events, d, rfl, hwatched, hexplains⟩

end ContractOps.Storage
