import ContractOps.Proofs.Config.Changes

/-!
# Finding options after an update

Finding an option counts those that have a chain id over all chains, and an update exchanges them
where they are. So an option is found after an update if and only if it was found before, and what
is found is the option of before, with its contracts changed if the update was for its chain id
(`findOption_update`).
-/

namespace ContractOps.Config.CodeIds

variable {config : Json} {found : ChainOption}

/-- The options of a configuration of the documented shape have their shape. -/
theorem isOption_of_findOption {chainId : Json} (h : IsDocument config)
    (hfound : findOption config chainId = .ok found) : IsOption found.option := by
  obtain ⟨listed, chains, hlisted, hchains, hshape⟩ := h.exists_items
  have hread : chainsOf config = .ok chains := except_bind_eq_ok.mpr ⟨listed, hlisted, hchains⟩
  have hmem : found.option ∈ optionsWith config chainId := by
    rw [optionsWith_of_findOption hfound]
    exact List.mem_singleton_self _
  rw [optionsWith, hread] at hmem
  obtain ⟨chain, hchain, hmem⟩ := List.mem_flatMap.mp hmem
  obtain ⟨listed', options, hlisted', hoptions, hshape'⟩ := (hshape chain hchain).exists_items
  have hread' : optionsOf chain = .ok options :=
    except_bind_eq_ok.mpr ⟨listed', hlisted', hoptions⟩
  rw [optionsOn, hread'] at hmem
  exact hshape' found.option (List.mem_filter.mp hmem).1

/-- An option that is found for a chain id is on it. -/
theorem member_of_findOption {y : WideText} (h : IsDocument config)
    (hfound : findOption config (.str y) = .ok found) :
    found.option.member "CHAIN_ID" = .ok (.str y) := by
  have hfield := isOn_str_iff.mp (isOn_of_findOption hfound)
  rcases (isOption_of_findOption h hfound).1.field_eq with hnull | ⟨id, hid⟩
  · cases hnull.symm.trans hfield
  · cases (field_of_member hid).symm.trans hfield
    exact hid

/-- What becomes of an option is decided by its chain id. -/
theorem OptionChange.of_member {pairs : List (WideText × Json)} {x y : WideText}
    {option option' : Json} (h : OptionChange pairs x option option')
    (hid : option.member "CHAIN_ID" = .ok (.str y)) :
    (y ≠ x → option' = option) ∧
      (y = x → ItemsChange "CONTRACTS" (ContractChange pairs) option option') := by
  cases h with
  | kept hother => exact ⟨fun _ => rfl, fun heq => absurd (heq ▸ hid) hother⟩
  | recoded hon hcontracts =>
    have heq : y = x := by
      cases hid.symm.trans hon
      rfl
    exact ⟨fun hne => absurd heq hne, fun _ => hcontracts⟩

/-- After an update of a configuration of the documented shape, finding an option fails as it failed
before, and in no other case. What is found has the same name and prefix. Its option is the same if
the update was for another chain id, and else the same but for its contracts, which have the new
code ids. -/
theorem findOption_update {σ : Type} (config : Json) (x y : WideText)
    (pairs : List (WideText × Json)) (session : Session σ) (h : IsDocument config) :
    ∃ config' notices,
      (update config (.str x) (pairsValue pairs) : Task σ Json).runIn session =
        (.ok config', ⟨session.world, notices⟩) ∧
      (∀ e, findOption config' (.str y) = .error e ↔ findOption config (.str y) = .error e) ∧
      ∀ found, findOption config (.str y) = .ok found →
        ∃ option', findOption config' (.str y) = .ok { found with option := option' } ∧
          (y ≠ x → option' = found.option) ∧
          (y = x → ItemsChange "CONTRACTS" (ContractChange pairs) found.option option') := by
  obtain ⟨notices, hrun⟩ := runIn_update pairs (.str x) h session
  refine ⟨_, notices, hrun, fun e => ?_, fun found hfound => ?_⟩
  · rw [findOption_recode]
    cases findOption config (.str y) <;> simp [Except.map]
  · refine ⟨recodeOption (.ofPairs pairs) (.str x) found.option, ?_,
      (optionChange_recode pairs x (isOption_of_findOption h hfound)).of_member
        (member_of_findOption h hfound)⟩
    rw [findOption_recode, hfound]
    rfl

/-! ### An option beside two others that share a chain id -/

theorem findOption_update_scattered :
    IsDocument scattered ∧ ("Y" : WideText) ≠ "X" ∧
    (∃ config' notices,
      (update scattered (.str "X") (pairsValue [("a", .int 3)]) : Task Unit Json).runIn ⟨(), []⟩ =
        (.ok config', ⟨(), notices⟩) ∧
      findOption scattered (.str "X") = .error (.failure (.chainAmbiguous (.str "X") 2)) ∧
      findOption config' (.str "X") = .error (.failure (.chainAmbiguous (.str "X") 2)) ∧
      ∃ found, findOption scattered (.str "Y") = .ok found ∧
        findOption config' (.str "Y") = .ok found) ∧
    ∃ config' notices found option',
      (update scattered (.str "Y") (pairsValue [("a", .int 3)]) : Task Unit Json).runIn ⟨(), []⟩ =
        (.ok config', ⟨(), notices⟩) ∧
      findOption scattered (.str "Y") = .ok found ∧
      findOption config' (.str "Y") = .ok { found with option := option' } ∧
      ItemsChange "CONTRACTS" (ContractChange [("a", .int 3)]) found.option option' := by
  have hshape : IsDocument scattered := by decide
  have hne : ("Y" : WideText) ≠ "X" := by decide
  have hfound : findOption scattered (.str "Y") = .ok ⟨.str "", .str "",
      .obj [("CHAIN_ID", .str "Y"), ("CONTRACTS", .arr [.obj [("LABEL", .str "a")]])]⟩ := rfl
  have hambiguous : findOption scattered (.str "X") =
      .error (.failure (.chainAmbiguous (.str "X") 2)) := rfl
  refine ⟨hshape, hne, ?_, ?_⟩
  · obtain ⟨config', notices, hrun, herror, _⟩ :=
      findOption_update scattered "X" "X" [("a", .int 3)] (⟨(), []⟩ : Session Unit) hshape
    obtain ⟨config'', notices', hrun', _, hother⟩ :=
      findOption_update scattered "X" "Y" [("a", .int 3)] (⟨(), []⟩ : Session Unit) hshape
    cases hrun.symm.trans hrun'
    obtain ⟨option', hoption, hsame, _⟩ := hother _ hfound
    refine ⟨config', notices, hrun, hambiguous, (herror _).mpr hambiguous, _, hfound, ?_⟩
    rw [hoption, hsame hne]
  · obtain ⟨config', notices, hrun, _, hown⟩ :=
      findOption_update scattered "Y" "Y" [("a", .int 3)] (⟨(), []⟩ : Session Unit) hshape
    obtain ⟨option', hoption, _, hchange⟩ := hown _ hfound
    exact ⟨config', notices, _, option', hrun, hfound, hoption, hchange rfl⟩

end ContractOps.Config.CodeIds
