import ContractOps.Proofs.Config.Documented
import Mathlib.Data.List.Forall2

/-!
# What new code ids change

The relations here say level by level what may become of a configuration when labels of a chain get
new code ids: contracts with such a label have it under `CODE`, lists of chains or contracts that
were missing are there, and nothing else is changed, added, dropped or moved. That is what becomes
of every configuration of the documented shape (`update_changes`).
-/

namespace ContractOps.Config.CodeIds

/-! ## Changes -/

/-- A value is put under a name, in the place of the one there or at the end. The other members stay
where and what they are. -/
inductive Puts (name : WideText) (value : Json) : Members Json → Members Json → Prop
  | replaced (before : Members Json) (old : Json) (rest : Members Json)
      (h : name ∉ before.map Prod.fst) :
    Puts name value (before ++ (name, old) :: rest) (before ++ (name, value) :: rest)
  | appended (ms : Members Json) (h : name ∉ ms.map Prod.fst) :
    Puts name value ms (ms ++ [(name, value)])

/-- The items listed under a name are changed one by one. A list that was missing is there
afterwards, without items. -/
def ItemsChange (name : WideText) (change : Json → Json → Prop) (v v' : Json) : Prop :=
  ∃ (ms ms' : Members Json) (items items' : List Json),
    v = .obj ms ∧ v' = .obj ms' ∧ (ms.get? name).getD (.arr []) = .arr items ∧
      List.Forall₂ change items items' ∧ Puts name (.arr items') ms ms'

/-- A contract keeps its code id, unless its label is paired with one. -/
inductive ContractChange (pairs : List (WideText × Json)) : Json → Json → Prop
  | kept {contract : Json} (h : ∀ label, contract.member "LABEL" = .ok (.str label) →
      label ∉ pairs.map Prod.fst) :
    ContractChange pairs contract contract
  | recoded {ms ms' : Members Json} {label : WideText} {codeId : Json}
      (hlabel : ms.get? "LABEL" = some (.str label)) (hlast : LastPaired label codeId pairs)
      (hcode : Puts "CODE" (orZero codeId) ms ms') :
    ContractChange pairs (.obj ms) (.obj ms')

/-- An option keeps its contracts, unless it has the chain id. -/
inductive OptionChange (pairs : List (WideText × Json)) (chainId : WideText) : Json → Json → Prop
  | kept {option : Json} (h : option.member "CHAIN_ID" ≠ .ok (.str chainId)) :
    OptionChange pairs chainId option option
  | recoded {option option' : Json} (h : option.member "CHAIN_ID" = .ok (.str chainId))
      (hcontracts : ItemsChange "CONTRACTS" (ContractChange pairs) option option') :
    OptionChange pairs chainId option option'

/-- A chain without options stays without them. -/
inductive ChainChange (pairs : List (WideText × Json)) (chainId : WideText) : Json → Json → Prop
  | bare {ms : Members Json} (h : ms.get? "OPTIONS" = none) :
    ChainChange pairs chainId (.obj ms) (.obj ms)
  | listed {chain chain' options : Json} (h : chain.member "OPTIONS" = .ok options)
      (hoptions : ItemsChange "OPTIONS" (OptionChange pairs chainId) chain chain') :
    ChainChange pairs chainId chain chain'

/-- The chains of a configuration are changed one by one. -/
def ConfigChange (pairs : List (WideText × Json)) (chainId : WideText) : Json → Json → Prop :=
  ItemsChange "CHAINS" (ChainChange pairs chainId)

/-! ## Members -/

variable {name : WideText} {ms : Members Json}

theorem Puts.cons {value : Json} {ms ms' : Members Json} {other : WideText} (old : Json)
    (hne : other ≠ name) (h : Puts name value ms ms') :
    Puts name value ((other, old) :: ms) ((other, old) :: ms') := by
  have hfresh : ∀ {ms : Members Json}, name ∉ ms.map Prod.fst →
      name ∉ ((other, old) :: ms).map Prod.fst := by
    intro ms hms
    rw [List.map_cons, List.mem_cons, not_or]
    exact ⟨Ne.symm hne, hms⟩
  cases h with
  | replaced before old' rest h => exact .replaced ((other, old) :: before) old' rest (hfresh h)
  | appended _ h => exact .appended ((other, old) :: ms) (hfresh h)

theorem puts_put (ms : Members Json) (name : WideText) (value : Json) :
    Puts name value ms (ms.put name value) := by
  induction ms with
  | nil => exact .appended [] (by simp)
  | cons m rest ih =>
    obtain ⟨other, old⟩ := m
    rw [Members.put]
    split
    · next heq =>
      subst heq
      exact .replaced [] old rest (by simp)
    · next hne => exact ih.cons old hne

/-- Putting what is there changes nothing. -/
theorem put_of_get? {value : Json} (h : ms.get? name = some value) :
    ms.put name value = ms := by
  induction ms with
  | nil => cases h
  | cons m rest ih =>
    obtain ⟨other, old⟩ := m
    rw [Members.get?] at h
    rw [Members.put]
    split at h
    · next heq =>
      cases h
      rw [if_pos heq, heq]
    · next hne => rw [if_neg hne, ih h]

/-! ## Recoding changes as told -/

variable (pairs : List (WideText × Json)) (chainId : WideText)

/-- Items that are exchanged as told make up a list that is. -/
theorem itemsChange_withMember {shape : Json → Prop} {change : Json → Json → Prop}
    {f : Json → Json} {v : Json} (h : HasMember name (IsListOf shape) v)
    (hchange : ∀ x, shape x → change x (f x)) :
    ∃ items, (v.getD name (.arr []) >>= Json.items) = .ok items ∧
      ItemsChange name change v (withMember v name (.arr (items.map f))) := by
  obtain ⟨listed, items, hlisted, hitems, hshape⟩ := h.exists_items
  obtain ⟨ms, rfl, hms⟩ := h.exists_members
  have hget : (ms.get? name).getD (.arr []) = .arr items := by
    rw [Json.getD_obj] at hlisted
    cases hlisted
    cases hget : ms.get? name with
    | none =>
      rw [hget] at hitems
      cases hitems
      rfl
    | some w =>
      obtain ⟨found, rfl, _⟩ := (hms w hget).exists_items
      rw [hget] at hitems
      cases hitems
      rfl
  refine ⟨items, except_bind_eq_ok.mpr ⟨listed, hlisted, hitems⟩, ms, _, items, items.map f, rfl,
    rfl, hget, ?_, puts_put ms name _⟩
  rw [List.forall₂_map_right_iff, List.forall₂_same]
  exact fun x hx => hchange x (hshape x hx)

theorem contractChange_recode {contract : Json} (h : IsContract contract) :
    ContractChange pairs contract (recodeContract (.ofPairs pairs) contract) := by
  rcases h.field_eq with hnull | ⟨label, hlabel⟩
  · rw [recodeContract, hnull]
    dsimp only
    rw [Assignment.get?_ofPairs_null]
    refine .kept fun label hlabel => ?_
    cases hnull.symm.trans (field_of_member hlabel)
  · by_cases hpaired : label ∈ pairs.map Prod.fst
    · obtain ⟨codeId, hlast⟩ := exists_lastPaired hpaired
      rw [recodeContract, field_of_member hlabel]
      dsimp only
      rw [hlast.get?_ofPairs]
      obtain ⟨ms, rfl, _⟩ := h.exists_members
      have hget : ms.get? "LABEL" = some (.str label) := by
        rw [Json.member] at hlabel
        cases hget : ms.get? "LABEL" with
        | none =>
          rw [hget] at hlabel
          cases hlabel
        | some found =>
          rw [hget] at hlabel
          cases hlabel
          rfl
      exact .recoded hget hlast (puts_put ms "CODE" _)
    · rw [recodeContract_of_get?_eq_none hlabel (Assignment.get?_ofPairs_of_not_mem hpaired)]
      refine .kept fun other hother => ?_
      cases hlabel.symm.trans hother
      exact hpaired

theorem optionChange_recode {option : Json} (h : IsOption option) :
    OptionChange pairs chainId option (recodeOption (.ofPairs pairs) (.str chainId) option) := by
  obtain ⟨hid, hlist⟩ := h
  by_cases hon : option.member "CHAIN_ID" = .ok (.str chainId)
  · obtain ⟨contracts, hcontracts, hchange⟩ :=
      itemsChange_withMember hlist fun _ => contractChange_recode pairs
    have hread : contractsOf option = .ok contracts := hcontracts
    rw [recodeOption, if_pos (isOn_str_iff.mpr (field_of_member hon)), hread]
    exact .recoded hon hchange
  · have hoff : isOn (.str chainId) option = false := by
      rw [Bool.eq_false_iff, Ne, isOn_str_iff]
      intro hfield
      rcases hid.field_eq with hnull | ⟨id, hmember⟩
      · cases hnull.symm.trans hfield
      · cases (field_of_member hmember).symm.trans hfield
        exact hon hmember
    rw [recodeOption_of_not_isOn _ hoff]
    exact .kept hon

theorem chainChange_recode {chain : Json} (h : IsChain chain) :
    ChainChange pairs chainId chain (recodeChain (.ofPairs pairs) (.str chainId) chain) := by
  obtain ⟨options, hoptions, hchange⟩ :=
    itemsChange_withMember h fun _ => optionChange_recode pairs chainId
  have hread : optionsOf chain = .ok options := hoptions
  obtain ⟨ms, rfl, hms⟩ := h.exists_members
  rw [recodeChain, hread]
  dsimp only
  cases hget : ms.get? "OPTIONS" with
  | none =>
    -- no options are read, so that none of them has the chain id
    rw [Json.getD_obj, hget] at hoptions
    cases hoptions
    exact .bare hget
  | some listed =>
    have hmember : (Json.obj ms).member "OPTIONS" = .ok listed := by rw [Json.member, hget]
    refine .listed hmember ?_
    split
    · exact hchange
    · next hany =>
      -- no option has the chain id, so that the options are put back as they are
      obtain ⟨found, rfl, _⟩ := (hms listed hget).exists_items
      rw [Json.getD_obj, hget] at hoptions
      cases hoptions
      rwa [map_recodeOption_of_not_any _ (by simpa using hany), withMember_obj,
        put_of_get? hget] at hchange

theorem configChange_recode {config : Json} (h : IsDocument config) :
    ConfigChange pairs chainId config (recode (.ofPairs pairs) config (.str chainId)) := by
  obtain ⟨chains, hchains, hchange⟩ :=
    itemsChange_withMember h fun _ => chainChange_recode pairs chainId
  have hread : chainsOf config = .ok chains := hchains
  rw [recode, hread]
  exact hchange

/-! ## Updating -/

/-- Updating a configuration of the documented shape succeeds, leaves nothing but notices, and
changes the configuration as told and in no other way. -/
theorem update_changes {σ : Type} (config : Json) (chainId : WideText)
    (pairs : List (WideText × Json)) (session : Session σ) (h : IsDocument config) :
    ∃ config' notices,
      (update config (.str chainId) (pairsValue pairs) : Task σ Json).runIn session =
        (.ok config', ⟨session.world, notices⟩) ∧
      ConfigChange pairs chainId config config' := by
  obtain ⟨notices, hrun⟩ := runIn_update pairs (.str chainId) h session
  exact ⟨_, notices, hrun, configChange_recode pairs chainId h⟩

/-! ### A label that is paired twice, in two options of a chain -/

/-- Chains without options and with three of them, two of which have the same chain id. -/
def scattered : Json :=
  .obj [("CHAINS", .arr [.obj [("NAME", .str "n")],
    .obj [("OPTIONS", .arr [
      .obj [("CHAIN_ID", .str "X"), ("CONTRACTS", .arr [
        .obj [("CODE", .int 5), ("LABEL", .str "a")], .obj [("LABEL", .str "b")],
        .obj [("LABEL", .str "c"), ("CODE", .int 7)]]), ("TYPE", .str "t")],
      .obj [("CHAIN_ID", .str "Y"), ("CONTRACTS", .arr [.obj [("LABEL", .str "a")]])],
      .obj [("CHAIN_ID", .str "X")]])]])]

/-- The same chains after `a` has become 9, and `b` nothing. -/
def scatteredAfter : Json :=
  .obj [("CHAINS", .arr [.obj [("NAME", .str "n")],
    .obj [("OPTIONS", .arr [
      .obj [("CHAIN_ID", .str "X"), ("CONTRACTS", .arr [
        .obj [("CODE", .int 9), ("LABEL", .str "a")], .obj [("LABEL", .str "b"), ("CODE", .int 0)],
        .obj [("LABEL", .str "c"), ("CODE", .int 7)]]), ("TYPE", .str "t")],
      .obj [("CHAIN_ID", .str "Y"), ("CONTRACTS", .arr [.obj [("LABEL", .str "a")]])],
      .obj [("CHAIN_ID", .str "X"), ("CONTRACTS", .arr [])]])]])]

theorem update_changes_scattered :
    IsDocument scattered ∧ ∃ notices,
      (update scattered (.str "X") (pairsValue [("a", .int 3), ("b", .null), ("a", .int 9)]) :
        Task Unit Json).runIn ⟨(), []⟩ = (.ok scatteredAfter, ⟨(), notices⟩) ∧
      ConfigChange [("a", .int 3), ("b", .null), ("a", .int 9)] "X" scattered scatteredAfter := by
  have hshape : IsDocument scattered := by decide
  have hresult : ((update scattered (.str "X")
      (pairsValue [("a", .int 3), ("b", .null), ("a", .int 9)]) : Task Unit Json).runIn
        ⟨(), []⟩).1 = .ok scatteredAfter := by rfl
  obtain ⟨config', notices, hrun, hchange⟩ := update_changes scattered "X"
    [("a", .int 3), ("b", .null), ("a", .int 9)] (⟨(), []⟩ : Session Unit) hshape
  rw [hrun] at hresult
  cases hresult
  exact ⟨hshape, notices, hrun, hchange⟩

end ContractOps.Config.CodeIds
