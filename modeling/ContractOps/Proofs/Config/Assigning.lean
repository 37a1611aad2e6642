import ContractOps.Proofs.Config.Recoding

/-!
# When code ids can be assigned

Assigning code ids looks at the chain id of every option, and at the contracts of those options that
have it. Where all that it looks at is there (`Updatable`), it succeeds and leaves nothing but
notices (`runIn_assign`). Finding an option has looked at most of this already, so that for the
chain id of an option that was found only its contracts count (`updatable_of_findOption`).
-/

namespace ContractOps.Config.CodeIds

variable {σ : Type} {codes : Assignment} {chainId : Json}

/-! ## What is looked at -/

/-- A contract shows its label, which can be looked up. A contract that gets a code id has one. -/
def UpdatableContract (codes : Assignment) (contract : Json) : Prop :=
  ∃ label, field contract "LABEL" = .ok label ∧ label.hashable = .ok () ∧
    (codes.get? label = none ∨ contract.member "LABEL" = .ok label)

/-- An option shows its chain id and, if it is the one that is meant, its contracts. -/
structure UpdatableOption (codes : Assignment) (chainId option : Json) : Prop where
  id : ∃ id, field option "CHAIN_ID" = .ok id
  contracts : isOn chainId option = true → ∃ contracts, contractsOf option = .ok contracts ∧
    ∀ contract ∈ contracts, UpdatableContract codes contract

/-- A chain shows its options. -/
def UpdatableChain (codes : Assignment) (chainId chain : Json) : Prop :=
  ∃ options, optionsOf chain = .ok options ∧
    ∀ option ∈ options, UpdatableOption codes chainId option

/-- A configuration shows its chains. -/
def Updatable (codes : Assignment) (config chainId : Json) : Prop :=
  ∃ chains, chainsOf config = .ok chains ∧ ∀ chain ∈ chains, UpdatableChain codes chainId chain

/-! ## Assigning succeeds -/

/-- What has one member can be asked for any. -/
theorem exists_getD_of_member {v w : Json} {name : WideText} (h : v.member name = .ok w)
    (other : WideText) (dflt : Json) : ∃ found, v.getD other dflt = .ok found := by
  cases v with
  | obj ms => exact ⟨_, Json.getD_obj ms other dflt⟩
  | _ => cases h

theorem succeeds_updateContract {contract : Json} (h : UpdatableContract codes contract) :
    (updateContract codes chainId contract : Task σ Json).Succeeds := by
  obtain ⟨label, hlabel, hhashable, hcode⟩ := h
  refine .lift_bind hlabel (.lift_bind hhashable ?_)
  rcases hcode with hnone | hmember
  · rw [hnone]
    exact .pure contract
  · obtain ⟨previous, hprevious⟩ := exists_getD_of_member hmember "CODE" (.int 0)
    split
    · exact .pure contract
    · refine .lift_bind hprevious (.lift_bind hmember ?_)
      split
      · exact .bind (.note _) fun _ => .pure _
      · exact .pure _

theorem succeeds_updateOption {option : Json} (h : UpdatableOption codes chainId option) :
    (updateOption codes chainId option : Task σ Json).Succeeds := by
  obtain ⟨id, hid⟩ := h.id
  refine .lift_bind hid ?_
  by_cases hsame : id.same chainId = true
  · obtain ⟨contracts, hcontracts, hall⟩ := h.contracts ((isOn_eq chainId hid).trans hsame)
    obtain ⟨listed, hlisted, hitems⟩ := except_bind_eq_ok.mp hcontracts
    rw [hsame]
    exact .lift_bind hlisted (.lift_bind hitems (.bind
      (.mapM fun contract hmem => succeeds_updateContract (hall contract hmem)) fun _ => .pure _))
  · rw [Bool.eq_false_iff.mpr hsame]
    exact .pure option

theorem exists_hasChain (chainId : Json) {options : List Json}
    (h : ∀ option ∈ options, ∃ id, field option "CHAIN_ID" = .ok id) :
    ∃ has, hasChain chainId options = .ok has := by
  induction options with
  | nil => exact ⟨false, rfl⟩
  | cons option rest ih =>
    obtain ⟨⟨id, hid⟩, hrest⟩ := List.forall_mem_cons.mp h
    rw [hasChain, hid]
    show ∃ has, (if id.same chainId then Except.ok true else hasChain chainId rest) = .ok has
    split
    · exact ⟨true, rfl⟩
    · exact ih hrest

theorem succeeds_updateChain {chain : Json} (h : UpdatableChain codes chainId chain) :
    (updateChain codes chainId chain : Task σ Json).Succeeds := by
  obtain ⟨options, hoptions, hall⟩ := h
  obtain ⟨listed, hlisted, hitems⟩ := except_bind_eq_ok.mp hoptions
  obtain ⟨has, hhas⟩ := exists_hasChain chainId fun option hmem => (hall option hmem).id
  refine .lift_bind hlisted (.lift_bind hitems (.lift_bind hhas ?_))
  split
  · exact .bind (.mapM fun option hmem => succeeds_updateOption (hall option hmem))
      fun _ => .pure _
  · exact .pure chain

theorem succeeds_assign {config : Json} (h : Updatable codes config chainId) :
    (assign config chainId codes : Task σ Json).Succeeds := by
  obtain ⟨chains, hchains, hall⟩ := h
  obtain ⟨listed, hlisted, hitems⟩ := except_bind_eq_ok.mp hchains
  cases config with
  | obj ms =>
    exact .lift_bind hlisted (.lift_bind hitems (.bind
      (.mapM fun chain hmem => succeeds_updateChain (hall chain hmem)) fun _ => .pure _))
  | _ => cases hlisted

/-- Assigning gives the recoded configuration, and leaves nothing but notices. -/
theorem runIn_assign {config : Json} (h : Updatable codes config chainId) (session : Session σ) :
    ∃ notices, (assign config chainId codes : Task σ Json).runIn session =
      (.ok (recode codes config chainId), ⟨session.world, notices⟩) :=
  (succeeds_assign h).runIn_eq (gives_assign config chainId codes) session

/-! ## Options that were found -/

theorem exists_field_of_matching {options found : List Json}
    (h : matching chainId options = .ok found) :
    ∀ option ∈ options, ∃ id, field option "CHAIN_ID" = .ok id := by
  induction options generalizing found with
  | nil => simp
  | cons option rest ih =>
    obtain ⟨id, hid, h⟩ := except_bind_eq_ok.mp h
    obtain ⟨others, hothers, _⟩ := except_bind_eq_ok.mp h
    exact List.forall_mem_cons.mpr ⟨⟨id, hid⟩, ih hothers⟩

theorem exists_matching_of_inChains {chains : List Json} {found : List ChainOption}
    (h : inChains chainId chains = .ok found) : ∀ chain ∈ chains, ∃ options matched,
      optionsOf chain = .ok options ∧ matching chainId options = .ok matched := by
  induction chains generalizing found with
  | nil => simp
  | cons chain rest ih =>
    obtain ⟨here, hhere, h⟩ := except_bind_eq_ok.mp h
    obtain ⟨others, hothers, _⟩ := except_bind_eq_ok.mp h
    rw [inChain_eq] at hhere
    obtain ⟨options, hoptions, hhere⟩ := except_bind_eq_ok.mp hhere
    obtain ⟨matched, hmatched, _⟩ := except_bind_eq_ok.mp hhere
    exact List.forall_mem_cons.mpr ⟨⟨options, matched, hoptions, hmatched⟩, ih hothers⟩

/-- If the chain id resolves to an option, its contracts decide. -/
theorem updatable_of_findOption {config : Json} {found : ChainOption} {contracts : List Json}
    (hfound : findOption config chainId = .ok found)
    (hcontracts : contractsOf found.option = .ok contracts)
    (hall : ∀ contract ∈ contracts, UpdatableContract codes contract) :
    Updatable codes config chainId := by
  have honly := optionsWith_of_findOption hfound
  rw [findOption_eq] at hfound
  obtain ⟨chains, hchains, hfound⟩ := except_bind_eq_ok.mp hfound
  obtain ⟨_, hinChains, _⟩ := except_bind_eq_ok.mp hfound
  rw [optionsWith, hchains, Except.toOption, Option.getD_some] at honly
  refine ⟨chains, hchains, fun chain hchain => ?_⟩
  obtain ⟨options, matched, hoptions, hmatched⟩ := exists_matching_of_inChains hinChains chain hchain
  refine ⟨options, hoptions, fun option hoption => ⟨exists_field_of_matching hmatched option hoption,
    fun hon => ?_⟩⟩
  -- an option with the chain id is the one that was found
  have hmem : option ∈ chains.flatMap (optionsOn chainId) := by
    refine List.mem_flatMap.mpr ⟨chain, hchain, ?_⟩
    rw [optionsOn, hoptions]
    exact List.mem_filter.mpr ⟨hoption, hon⟩
  rw [honly, List.mem_singleton] at hmem
  subst hmem
  exact ⟨contracts, hcontracts, hall⟩

end ContractOps.Config.CodeIds
