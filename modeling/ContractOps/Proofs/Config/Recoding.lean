import ContractOps.Config.CodeIds
import ContractOps.Proofs.Json.Members
import ContractOps.Proofs.Task.Steps

/-!
# Recoding

`recode` is what `CodeIds.assign` makes of a configuration, without the notices and the faults: the
contracts of the options that have the chain id get new code ids, and all else is as it was
(`gives_assign`). Looking something up commutes with it: an option is found in the new configuration
as it was found in the old one, recoded (`findOption_recode`), and so is a contract
(`firstLabelled_recode`).
-/

namespace ContractOps.Config.CodeIds

variable {σ : Type}

/-! ## Members -/

@[simp] theorem withMember_obj (ms : Members Json) (name : WideText) (value : Json) :
    withMember (.obj ms) name value = .obj (ms.put name value) := rfl

/-- A member that was put is there. -/
theorem getD_withMember_self {v : Json} (name : WideText) {value other old : Json}
    (h : v.getD name old = .ok other) (dflt : Json) :
    (withMember v name value).getD name dflt = .ok value := by
  cases v with
  | obj ms => rw [withMember_obj, Json.getD_obj, Members.get?_put_self]; rfl
  | _ => cases h

/-- The other members are as they were. -/
theorem getD_withMember_of_ne (v : Json) {name other : WideText} (value dflt : Json)
    (h : other ≠ name) : (withMember v name value).getD other dflt = v.getD other dflt := by
  cases v with
  | obj ms => rw [withMember_obj, Json.getD_obj, Json.getD_obj, Members.get?_put_of_ne ms value h]
  | _ => rfl

/-- A member that is there is read the same way as one that may be missing. -/
theorem field_of_member {v w : Json} {name : WideText} (h : v.member name = .ok w) :
    field v name = .ok w :=
  Json.getD_of_member .null h

theorem member_withMember_self {v w : Json} {name other : WideText} (value : Json)
    (h : v.member other = .ok w) : (withMember v name value).member name = .ok value := by
  cases v with
  | obj ms => rw [withMember_obj, Json.member, Members.get?_put_self]
  | _ => cases h

/-! ## Code ids of labels -/

/-- A code id that is found is paired with an equal label. -/
theorem Assignment.mem_of_get? {codes : Assignment} {label codeId : Json}
    (h : codes.get? label = some codeId) : ∃ p ∈ codes, p.1.same label = true ∧ p.2 = codeId := by
  induction codes with
  | nil => cases h
  | cons entry rest ih =>
    obtain ⟨first, value⟩ := entry
    rw [Assignment.get?] at h
    cases hrest : Assignment.get? rest label with
    | some later =>
      rw [hrest] at h
      obtain ⟨p, hp, hsame, hvalue⟩ := ih (hrest.trans h)
      exact ⟨p, List.mem_cons_of_mem _ hp, hsame, hvalue⟩
    | none =>
      rw [hrest] at h
      dsimp only at h
      split at h
      · next hsame =>
        cases h
        exact ⟨(first, codeId), List.mem_cons_self, hsame, rfl⟩
      · cases h

/-- A label that occurs has a code id. -/
theorem Assignment.exists_get? {codes : Assignment} {label : Json} {p : Json × Json}
    (hp : p ∈ codes) (hsame : p.1.same label = true) : ∃ codeId, codes.get? label = some codeId := by
  induction codes with
  | nil => cases hp
  | cons entry rest ih =>
    obtain ⟨first, value⟩ := entry
    rw [Assignment.get?]
    cases hrest : Assignment.get? rest label with
    | some later => exact ⟨later, rfl⟩
    | none =>
      rcases List.mem_cons.mp hp with rfl | hmem
      · exact ⟨value, if_pos hsame⟩
      · obtain ⟨codeId, hcode⟩ := ih hmem
        rw [hrest] at hcode
        cases hcode

/-- If all code ids of a label agree, it has this one. -/
theorem Assignment.get?_eq_some {codes : Assignment} {label : Json} {p : Json × Json}
    (hp : p ∈ codes) (hsame : p.1.same label = true)
    (hall : ∀ q ∈ codes, q.1.same label = true → q.2 = p.2) : codes.get? label = some p.2 := by
  obtain ⟨codeId, hcode⟩ := Assignment.exists_get? hp hsame
  obtain ⟨q, hq, hqsame, rfl⟩ := Assignment.mem_of_get? hcode
  rw [hcode, hall q hq hqsame]

/-- A label that does not occur has no code id. -/
theorem Assignment.get?_eq_none {codes : Assignment} {label : Json}
    (h : ∀ p ∈ codes, p.1.same label = false) : codes.get? label = none := by
  cases hcode : codes.get? label with
  | none => rfl
  | some codeId =>
    obtain ⟨p, hp, hsame, _⟩ := Assignment.mem_of_get? hcode
    rw [h p hp] at hsame
    cases hsame

/-! ## Recoding level by level -/

/-- The contract with the code id of its label, if its label has one. -/
def recodeContract (codes : Assignment) (contract : Json) : Json :=
  match field contract "LABEL" with
  | .ok label =>
    match codes.get? label with
    | some codeId => withMember contract "CODE" codeId
    | none => contract
  | .error _ => contract

/-- Whether an option has a chain id. -/
def isOn (chainId option : Json) : Bool :=
  match field option "CHAIN_ID" with
  | .ok id => id.same chainId
  | .error _ => false

theorem isOn_eq (chainId : Json) {option id : Json} (h : field option "CHAIN_ID" = .ok id) :
    isOn chainId option = id.same chainId := by
  rw [isOn, h]

/-- The contracts of an option. -/
def contractsOf (option : Json) : Except Fault (List Json) := do
  (← option.getD "CONTRACTS" (.arr [])).items

/-- The option with its contracts recoded, if it has the chain id. -/
def recodeOption (codes : Assignment) (chainId option : Json) : Json :=
  if isOn chainId option then
    match contractsOf option with
    | .ok contracts => withMember option "CONTRACTS" (.arr (contracts.map (recodeContract codes)))
    | .error _ => option
  else option

/-- The options of a chain. -/
def optionsOf (chain : Json) : Except Fault (List Json) := do
  (← chain.getD "OPTIONS" (.arr [])).items

/-- The chain with its options recoded, if one of them has the chain id. -/
def recodeChain (codes : Assignment) (chainId chain : Json) : Json :=
  match optionsOf chain with
  | .ok options =>
    if options.any (isOn chainId) then
      withMember chain "OPTIONS" (.arr (options.map (recodeOption codes chainId)))
    else chain
  | .error _ => chain

/-- The chains of a configuration. -/
def chainsOf (config : Json) : Except Fault (List Json) := do
  (← config.getD "CHAINS" (.arr [])).items

/-- The configuration with its chains recoded. -/
def recode (codes : Assignment) (config chainId : Json) : Json :=
  match chainsOf config with
  | .ok chains => withMember config "CHAINS" (.arr (chains.map (recodeChain codes chainId)))
  | .error _ => config

/-! ## Looking up what was recoded -/

theorem getD_recodeContract (codes : Assignment) (contract : Json) {name : WideText} (dflt : Json)
    (h : name ≠ "CODE") :
    (recodeContract codes contract).getD name dflt = contract.getD name dflt := by
  rw [recodeContract]
  split
  · split
    · exact getD_withMember_of_ne contract _ dflt h
    · rfl
  · rfl

theorem field_recodeContract (codes : Assignment) (contract : Json) :
    field (recodeContract codes contract) "LABEL" = field contract "LABEL" :=
  getD_recodeContract codes contract .null (by decide)

theorem member_withMember_of_ne (v : Json) {name other : WideText} (value : Json)
    (h : other ≠ name) : (withMember v name value).member other = v.member other := by
  cases v with
  | obj ms => rw [withMember_obj, Json.member, Json.member, Members.get?_put_of_ne ms value h]
  | _ => rfl

theorem label_recodeContract (codes : Assignment) (contract : Json) :
    (recodeContract codes contract).member "LABEL" = contract.member "LABEL" := by
  rw [recodeContract]
  split
  · split
    · exact member_withMember_of_ne contract _ (by decide)
    · rfl
  · rfl

/-- A contract whose label has no code id is as it was. -/
theorem recodeContract_of_get?_eq_none {codes : Assignment} {contract label : Json}
    (hlabel : contract.member "LABEL" = .ok label) (h : codes.get? label = none) :
    recodeContract codes contract = contract := by
  rw [recodeContract, field_of_member hlabel]
  dsimp only
  rw [h]

/-- A contract whose label has a code id gets it. -/
theorem member_recodeContract {codes : Assignment} {contract label codeId : Json}
    (hlabel : contract.member "LABEL" = .ok label) (h : codes.get? label = some codeId) :
    (recodeContract codes contract).member "CODE" = .ok codeId := by
  rw [recodeContract, field_of_member hlabel]
  dsimp only
  rw [h]
  exact member_withMember_self codeId hlabel

/-- No label is that of two contracts. -/
def UniqueLabels (contracts : List Json) : Prop :=
  contracts.Pairwise fun first second =>
    ∀ label, first.member "LABEL" = .ok label → second.member "LABEL" ≠ .ok label

/-- A contract is found by its label if no other contract has it. -/
theorem firstLabelled_eq_ok {contracts : List Json} {contract : Json} {label : WideText}
    (hlabelled : ∀ c ∈ contracts, ∃ found, c.member "LABEL" = .ok found)
    (hunique : UniqueLabels contracts) (hmem : contract ∈ contracts)
    (hlabel : contract.member "LABEL" = .ok (.str label)) :
    firstLabelled (.str label) contracts = .ok contract := by
  induction contracts with
  | nil => cases hmem
  | cons first rest ih =>
    obtain ⟨hfirst, hrest⟩ := List.pairwise_cons.mp hunique
    obtain ⟨found, hfound⟩ := hlabelled first List.mem_cons_self
    rw [firstLabelled, field_of_member hfound]
    show (if found.same (.str label) then Except.ok first else firstLabelled (.str label) rest) =
      .ok contract
    rcases List.mem_cons.mp hmem with rfl | hlater
    · cases hlabel.symm.trans hfound
      rw [if_pos (Json.same_str_right.mpr rfl)]
    · have hother : found ≠ .str label := by
        rintro rfl
        exact hfirst contract hlater _ hfound hlabel
      rw [if_neg (by rwa [Json.same_str_right])]
      exact ih (fun c hc => hlabelled c (List.mem_cons_of_mem first hc)) hrest hlater

/-- A contract is found by its label as it was found before, recoded. -/
theorem firstLabelled_recode (codes : Assignment) (label : Json) (contracts : List Json) :
    firstLabelled label (contracts.map (recodeContract codes)) =
      (firstLabelled label contracts).map (recodeContract codes) := by
  induction contracts with
  | nil => rfl
  | cons contract rest ih =>
    rw [List.map_cons, firstLabelled, firstLabelled, field_recodeContract]
    cases field contract "LABEL" with
    | error e => rfl
    | ok found =>
      show (if found.same label then _ else _ : Except Fault Json) =
        (if found.same label then _ else _ : Except Fault Json).map (recodeContract codes)
      split
      · rfl
      · exact ih

theorem getD_recodeOption (codes : Assignment) (chainId option : Json) {name : WideText}
    (dflt : Json) (h : name ≠ "CONTRACTS") :
    (recodeOption codes chainId option).getD name dflt = option.getD name dflt := by
  rw [recodeOption]
  split
  · split
    · exact getD_withMember_of_ne option _ dflt h
    · rfl
  · rfl

/-- An option of another chain is as it was. -/
theorem recodeOption_of_not_isOn (codes : Assignment) {chainId option : Json}
    (h : isOn chainId option = false) : recodeOption codes chainId option = option := by
  rw [recodeOption, h]
  rfl

/-- The contracts of an option that has the chain id, recoded. -/
theorem contractsOf_recodeOption (codes : Assignment) {chainId option : Json}
    {contracts : List Json} (hon : isOn chainId option = true)
    (hcontracts : contractsOf option = .ok contracts) :
    contractsOf (recodeOption codes chainId option) =
      .ok (contracts.map (recodeContract codes)) := by
  rw [recodeOption, if_pos hon, hcontracts]
  obtain ⟨listed, hlisted, _⟩ := except_bind_eq_ok.mp hcontracts
  rw [contractsOf, getD_withMember_self "CONTRACTS" hlisted]
  rfl

theorem matching_recode (codes : Assignment) (chainId other : Json) (options : List Json) :
    matching other (options.map (recodeOption codes chainId)) =
      (matching other options).map (List.map (recodeOption codes chainId)) := by
  induction options with
  | nil => rfl
  | cons option rest ih =>
    have hfield : field (recodeOption codes chainId option) "CHAIN_ID" = field option "CHAIN_ID" :=
      getD_recodeOption codes chainId option .null (by decide)
    rw [List.map_cons, matching, matching, hfield, ih]
    cases field option "CHAIN_ID" with
    | error e => rfl
    | ok found =>
      cases matching other rest with
      | error e => rfl
      | ok others =>
        show (Except.ok (if found.same other then _ else _) : Except Fault (List Json)) =
          .ok ((if found.same other then _ else _ : List Json).map _)
        split <;> rfl

/-- If no option of a chain has the chain id, recoding its options changes nothing. -/
theorem map_recodeOption_of_not_any (codes : Assignment) {chainId : Json} {options : List Json}
    (h : options.any (isOn chainId) = false) :
    options.map (recodeOption codes chainId) = options := by
  have hsame : ∀ option ∈ options, recodeOption codes chainId option = id option := by
    intro option hoption
    exact recodeOption_of_not_isOn codes (by simpa using List.any_eq_false.mp h option hoption)
  rw [List.map_congr_left hsame, List.map_id]

theorem getD_recodeChain (codes : Assignment) (chainId chain : Json) {name : WideText}
    (dflt : Json) (h : name ≠ "OPTIONS") :
    (recodeChain codes chainId chain).getD name dflt = chain.getD name dflt := by
  rw [recodeChain]
  split
  · split
    · exact getD_withMember_of_ne chain _ dflt h
    · rfl
  · rfl

/-- The options of a recoded chain are its options, recoded. -/
theorem optionsOf_recodeChain (codes : Assignment) (chainId chain : Json) :
    optionsOf (recodeChain codes chainId chain) =
      (optionsOf chain).map (List.map (recodeOption codes chainId)) := by
  rw [recodeChain]
  cases hoptions : optionsOf chain with
  | error e => exact hoptions
  | ok options =>
    dsimp only
    split
    · obtain ⟨listed, hlisted, _⟩ := except_bind_eq_ok.mp hoptions
      rw [optionsOf, getD_withMember_self "OPTIONS" hlisted]
      rfl
    · next hany =>
      rw [hoptions, Except.map, map_recodeOption_of_not_any codes (by simpa using hany)]

/-- What is known of an option, with the option recoded. -/
def recodeFound (codes : Assignment) (chainId : Json) (found : ChainOption) : ChainOption :=
  { found with option := recodeOption codes chainId found.option }

/-- The options of a chain that have a chain id, read from the list of all of them. -/
theorem inChain_eq (other chain : Json) :
    inChain other chain = optionsOf chain >>= fun options => matching other options >>= fun found =>
      chain.getD "NAME" (.str "") >>= fun name =>
        chain.getD "PREFIX" (.str "") >>= fun addressPrefix =>
          .ok (found.map fun option => { name, addressPrefix, option }) := by
  rw [inChain, optionsOf]
  cases chain.getD "OPTIONS" (.arr []) <;> rfl

theorem inChain_recode (codes : Assignment) (chainId other chain : Json) :
    inChain other (recodeChain codes chainId chain) =
      (inChain other chain).map (List.map (recodeFound codes chainId)) := by
  have hname : (recodeChain codes chainId chain).getD "NAME" (.str "") =
      chain.getD "NAME" (.str "") := getD_recodeChain codes chainId chain _ (by decide)
  have hhead : (recodeChain codes chainId chain).getD "PREFIX" (.str "") =
      chain.getD "PREFIX" (.str "") := getD_recodeChain codes chainId chain _ (by decide)
  rw [inChain_eq, inChain_eq, optionsOf_recodeChain, hname, hhead]
  cases optionsOf chain with
  | error e => rfl
  | ok options =>
    simp only [bind, Except.bind, Except.map, matching_recode]
    cases matching other options with
    | error e => rfl
    | ok found =>
      simp only
      cases chain.getD "NAME" (.str "") with
      | error e => rfl
      | ok name =>
        simp only
        cases chain.getD "PREFIX" (.str "") with
        | error e => rfl
        | ok addressPrefix =>
          simp [recodeFound]

theorem inChains_recode (codes : Assignment) (chainId other : Json) (chains : List Json) :
    inChains other (chains.map (recodeChain codes chainId)) =
      (inChains other chains).map (List.map (recodeFound codes chainId)) := by
  induction chains with
  | nil => rfl
  | cons chain rest ih =>
    rw [List.map_cons, inChains, inChains, inChain_recode, ih]
    cases inChain other chain with
    | error e => rfl
    | ok here =>
      cases inChains other rest with
      | error e => rfl
      | ok others => simp [bind, Except.bind, Except.map, pure, Except.pure]

/-- The only one of the options found. -/
def only (chainId : Json) : List ChainOption → Except Fault ChainOption
  | [option] => .ok option
  | [] => .error (.failure (.chainNotFound chainId))
  | options => .error (.failure (.chainAmbiguous chainId options.length))

theorem only_map (chainId : Json) (f : ChainOption → ChainOption) (found : List ChainOption) :
    only chainId (found.map f) = (only chainId found).map f := by
  match found with
  | [] => rfl
  | [_] => rfl
  | _ :: _ :: _ => simp [only, Except.map]

theorem findOption_eq (config other : Json) :
    findOption config other =
      chainsOf config >>= fun chains => inChains other chains >>= only other := by
  rw [findOption, chainsOf]
  cases config.getD "CHAINS" (.arr []) with
  | error e => rfl
  | ok listed =>
    simp only [bind, Except.bind]
    cases listed.items with
    | error e => rfl
    | ok chains =>
      simp only
      rcases inChains other chains with e | (_ | ⟨found, _ | ⟨next, rest⟩⟩) <;> rfl

theorem chainsOf_recode (codes : Assignment) (config chainId : Json) :
    chainsOf (recode codes config chainId) =
      (chainsOf config).map (List.map (recodeChain codes chainId)) := by
  rw [recode]
  cases hchains : chainsOf config with
  | error e => exact hchains
  | ok chains =>
    obtain ⟨listed, hlisted, _⟩ := except_bind_eq_ok.mp hchains
    rw [chainsOf, getD_withMember_self "CHAINS" hlisted]
    rfl

/-- An option is found as it was found before, recoded. -/
theorem findOption_recode (codes : Assignment) (config chainId other : Json) :
    findOption (recode codes config chainId) other =
      (findOption config other).map (recodeFound codes chainId) := by
  rw [findOption_eq, findOption_eq, chainsOf_recode]
  cases chainsOf config with
  | error e => rfl
  | ok chains =>
    simp only [bind, Except.bind, Except.map, inChains_recode]
    cases inChains other chains with
    | error e => rfl
    | ok found => exact only_map other (recodeFound codes chainId) found

/-! ## Options that are found -/

/-- The options of a chain that have a chain id. -/
def optionsOn (chainId chain : Json) : List Json :=
  ((optionsOf chain).toOption.getD []).filter (isOn chainId)

/-- The options of a configuration that have a chain id, on whatever chain. -/
def optionsWith (config chainId : Json) : List Json :=
  ((chainsOf config).toOption.getD []).flatMap (optionsOn chainId)

theorem filter_isOn_of_matching {chainId : Json} {options found : List Json}
    (h : matching chainId options = .ok found) : options.filter (isOn chainId) = found := by
  induction options generalizing found with
  | nil =>
    cases h
    rfl
  | cons first rest ih =>
    obtain ⟨id, hid, h⟩ := except_bind_eq_ok.mp h
    obtain ⟨others, hothers, h⟩ := except_bind_eq_ok.mp h
    have hfirst := isOn_eq chainId hid
    split at h
    · next hsame =>
      cases h
      rw [List.filter_cons_of_pos (hfirst.trans hsame), ih hothers]
    · next hother =>
      cases h
      rw [List.filter_cons_of_neg (by rwa [hfirst]), ih hothers]

theorem optionsOn_of_inChain {chainId chain : Json} {found : List ChainOption}
    (h : inChain chainId chain = .ok found) :
    optionsOn chainId chain = found.map ChainOption.option := by
  rw [inChain_eq] at h
  obtain ⟨options, hoptions, h⟩ := except_bind_eq_ok.mp h
  obtain ⟨matched, hmatched, h⟩ := except_bind_eq_ok.mp h
  obtain ⟨_, _, h⟩ := except_bind_eq_ok.mp h
  obtain ⟨_, _, h⟩ := except_bind_eq_ok.mp h
  cases h
  rw [optionsOn, hoptions, Except.toOption, Option.getD_some, filter_isOn_of_matching hmatched,
    List.map_map]
  exact (List.map_id matched).symm

theorem flatMap_optionsOn_of_inChains {chainId : Json} {chains : List Json}
    {found : List ChainOption} (h : inChains chainId chains = .ok found) :
    chains.flatMap (optionsOn chainId) = found.map ChainOption.option := by
  induction chains generalizing found with
  | nil =>
    cases h
    rfl
  | cons chain rest ih =>
    obtain ⟨here, hhere, h⟩ := except_bind_eq_ok.mp h
    obtain ⟨others, hothers, h⟩ := except_bind_eq_ok.mp h
    cases h
    rw [List.flatMap_cons, optionsOn_of_inChain hhere, ih hothers, List.map_append]

/-- The option that is found is the only one that has the chain id. -/
theorem optionsWith_of_findOption {config chainId : Json} {found : ChainOption}
    (h : findOption config chainId = .ok found) : optionsWith config chainId = [found.option] := by
  rw [findOption_eq] at h
  obtain ⟨chains, hchains, h⟩ := except_bind_eq_ok.mp h
  obtain ⟨options, hoptions, h⟩ := except_bind_eq_ok.mp h
  rw [optionsWith, hchains, Except.toOption, Option.getD_some,
    flatMap_optionsOn_of_inChains hoptions]
  match options, h with
  | [_], rfl => rfl

/-- The option that is found has the chain id. -/
theorem isOn_of_findOption {config chainId : Json} {found : ChainOption}
    (h : findOption config chainId = .ok found) : isOn chainId found.option = true := by
  have hmem : found.option ∈ optionsWith config chainId := by
    rw [optionsWith_of_findOption h]
    exact List.mem_singleton_self _
  obtain ⟨chain, _, hchain⟩ := List.mem_flatMap.mp hmem
  exact (List.mem_filter.mp hchain).2

/-- The option of the chain id is found with its contracts recoded. -/
theorem findOption_recode_self (codes : Assignment) {config chainId : Json} {found : ChainOption}
    {contracts : List Json} (hfound : findOption config chainId = .ok found)
    (hcontracts : contractsOf found.option = .ok contracts) :
    findOption (recode codes config chainId) chainId = .ok (recodeFound codes chainId found) ∧
      (recodeFound codes chainId found).option.getD "CONTRACTS" (.arr []) =
        .ok (.arr (contracts.map (recodeContract codes))) := by
  have hon : isOn chainId found.option = true := isOn_of_findOption hfound
  constructor
  · rw [findOption_recode, hfound]
    rfl
  · obtain ⟨listed, hlisted, _⟩ := except_bind_eq_ok.mp hcontracts
    rw [recodeFound, recodeOption, if_pos hon, hcontracts]
    exact getD_withMember_self "CONTRACTS" hlisted _

/-- An option of another chain id is found as before. -/
theorem findOption_recode_other (codes : Assignment) {config chainId other : Json}
    {found : ChainOption} (hfound : findOption config other = .ok found)
    (hother : isOn chainId found.option = false) :
    findOption (recode codes config chainId) other = .ok found := by
  rw [findOption_recode, hfound, Except.map, recodeFound, recodeOption_of_not_isOn codes hother]

theorem isOn_str_iff {s : WideText} {option : Json} :
    isOn (.str s) option = true ↔ field option "CHAIN_ID" = .ok (.str s) := by
  rw [isOn]
  cases field option "CHAIN_ID" with
  | error e => simp
  | ok id => simp [Json.same_str_right]

/-- What is found for another chain id that is a text is as before. -/
theorem findOption_recode_of_ne (codes : Assignment) (config : Json) {chainId other : WideText}
    (h : other ≠ chainId) :
    findOption (recode codes config (.str chainId)) (.str other) =
      findOption config (.str other) := by
  rw [findOption_recode]
  cases hfound : findOption config (.str other) with
  | error e => rfl
  | ok found =>
    have hon := isOn_str_iff.mp (isOn_of_findOption hfound)
    have hoff : isOn (.str chainId) found.option = false := by
      rw [Bool.eq_false_iff, Ne, isOn_str_iff, hon]
      simpa using h
    rw [Except.map, recodeFound, recodeOption_of_not_isOn codes hoff]

/-! ## Assigning recodes -/

theorem hasChain_eq_ok {chainId : Json} {options : List Json} {has : Bool}
    (h : hasChain chainId options = .ok has) : options.any (isOn chainId) = has := by
  induction options with
  | nil =>
    cases h
    rfl
  | cons option rest ih =>
    obtain ⟨id, hid, hrest⟩ := except_bind_eq_ok.mp h
    rw [List.any_cons, isOn, hid]
    dsimp only
    split at hrest
    · next hsame =>
      cases hrest
      rw [hsame, Bool.true_or]
    · next hother => rw [ih hrest, Bool.eq_false_iff.mpr hother, Bool.false_or]

theorem gives_updateContract (codes : Assignment) (chainId contract : Json) :
    (updateContract codes chainId contract : Task σ Json).Gives (recodeContract codes contract) := by
  refine .lift_bind fun label hlabel => .lift_bind fun _ _ => ?_
  rw [recodeContract, hlabel]
  dsimp only
  split
  · next hcode =>
    rw [hcode]
    exact .pure contract
  · next codeId hcode =>
    rw [hcode]
    refine .lift_bind fun previous _ => .lift_bind fun _ _ => ?_
    split
    · exact .bind (.note _) (.pure _)
    · exact .pure _

theorem gives_updateOption (codes : Assignment) (chainId option : Json) :
    (updateOption codes chainId option : Task σ Json).Gives (recodeOption codes chainId option) := by
  refine .lift_bind fun id hid => ?_
  by_cases hsame : id.same chainId = true
  · have hon : isOn chainId option = true := by rw [isOn_eq chainId hid, hsame]
    rw [hsame, recodeOption, if_pos hon]
    refine .lift_bind fun listed hlisted => .lift_bind fun contracts hcontracts => ?_
    have hread : contractsOf option = .ok contracts :=
      except_bind_eq_ok.mpr ⟨listed, hlisted, hcontracts⟩
    rw [hread]
    exact .bind (.mapM (gives_updateContract codes chainId) contracts) (.pure _)
  · have hoff : isOn chainId option = false := by
      rw [isOn_eq chainId hid, Bool.eq_false_iff.mpr hsame]
    rw [recodeOption_of_not_isOn codes hoff, Bool.eq_false_iff.mpr hsame]
    exact .pure option

theorem gives_updateChain (codes : Assignment) (chainId chain : Json) :
    (updateChain codes chainId chain : Task σ Json).Gives (recodeChain codes chainId chain) := by
  refine .lift_bind fun listed hlisted => .lift_bind fun options hoptions =>
    .lift_bind fun has hhas => ?_
  have hread : optionsOf chain = .ok options := except_bind_eq_ok.mpr ⟨listed, hlisted, hoptions⟩
  rw [recodeChain, hread]
  dsimp only
  rw [hasChain_eq_ok hhas]
  cases has with
  | false => exact .pure chain
  | true => exact .bind (.mapM (gives_updateOption codes chainId) options) (.pure _)

/-- Assigning code ids gives the recoded configuration, or nothing. -/
theorem gives_assign (config chainId : Json) (codes : Assignment) :
    (assign config chainId codes : Task σ Json).Gives (recode codes config chainId) := by
  cases config with
  | obj ms =>
    refine .lift_bind fun listed hlisted => .lift_bind fun chains hchains => ?_
    have hread : chainsOf (.obj ms) = .ok chains :=
      except_bind_eq_ok.mpr ⟨listed, hlisted, hchains⟩
    rw [recode, hread]
    exact .bind (.mapM (gives_updateChain codes chainId) chains) (.pure _)
  | _ => exact .throw _ _

end ContractOps.Config.CodeIds
