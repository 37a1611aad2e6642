import ContractOps.Proofs.Config.Assigning

/-!
# Configurations of the documented shape

A configuration `IsDocument` if chains, options and contracts are objects in lists, where these are
there, and if chain ids and labels are texts. Further members are of any kind. In such a
configuration code ids can always be assigned, so that new code ids for texts give exactly the
recoded configuration (`runIn_update`).
-/

namespace ContractOps.Config

/-! ## Shapes -/

/-- An object whose member under a name, if it is there, has a shape. -/
def HasMember (name : WideText) (shape : Json → Prop) : Json → Prop
  | .obj ms => ∀ w ∈ Members.get? ms name, shape w
  | _ => False

/-- A text. -/
def IsText : Json → Prop
  | .str _ => True
  | _ => False

/-- A list of items of a shape. -/
def IsListOf (shape : Json → Prop) : Json → Prop
  | .arr items => ∀ item ∈ items, shape item
  | _ => False

section

variable {name : WideText} {shape : Json → Prop}

instance [DecidablePred shape] : DecidablePred (HasMember name shape)
  | .obj ms => inferInstanceAs (Decidable (∀ w ∈ Members.get? ms name, shape w))
  | .null | .bool _ | .int _ | .float _ | .str _ | .arr _ => inferInstanceAs (Decidable False)

instance : DecidablePred IsText
  | .str _ => inferInstanceAs (Decidable True)
  | .null | .bool _ | .int _ | .float _ | .arr _ | .obj _ => inferInstanceAs (Decidable False)

instance [DecidablePred shape] : DecidablePred (IsListOf shape)
  | .arr items => inferInstanceAs (Decidable (∀ item ∈ items, shape item))
  | .null | .bool _ | .int _ | .float _ | .str _ | .obj _ => inferInstanceAs (Decidable False)

end

/-- A contract has a text for its label. -/
abbrev IsContract : Json → Prop := HasMember "LABEL" IsText

/-- An option has a text for its chain id, and lists contracts. -/
abbrev IsOption (v : Json) : Prop :=
  HasMember "CHAIN_ID" IsText v ∧ HasMember "CONTRACTS" (IsListOf IsContract) v

/-- A chain lists options. -/
abbrev IsChain : Json → Prop := HasMember "OPTIONS" (IsListOf IsOption)

/-- A configuration lists chains. -/
abbrev IsDocument : Json → Prop := HasMember "CHAINS" (IsListOf IsChain)

variable {name : WideText} {shape : Json → Prop} {v : Json}

theorem HasMember.exists_members (h : HasMember name shape v) :
    ∃ ms : Members Json, v = .obj ms ∧ ∀ w ∈ ms.get? name, shape w := by
  cases v with
  | obj ms => exact ⟨ms, rfl, h⟩
  | _ => exact h.elim

theorem IsText.exists_text (h : IsText v) : ∃ s, v = .str s := by
  cases v with
  | str s => exact ⟨s, rfl⟩
  | _ => exact h.elim

theorem IsListOf.exists_items (h : IsListOf shape v) :
    ∃ items, v = .arr items ∧ ∀ item ∈ items, shape item := by
  cases v with
  | arr items => exact ⟨items, rfl, h⟩
  | _ => exact h.elim

/-- A list that may be missing is read, and its items have their shape. -/
theorem HasMember.exists_items (h : HasMember name (IsListOf shape) v) :
    ∃ listed items, v.getD name (.arr []) = .ok listed ∧ listed.items = .ok items ∧
      ∀ item ∈ items, shape item := by
  obtain ⟨ms, rfl, hshape⟩ := h.exists_members
  rw [Json.getD_obj]
  cases hget : ms.get? name with
  | none => exact ⟨_, [], rfl, rfl, by simp⟩
  | some w =>
    obtain ⟨items, rfl, hitems⟩ := (hshape w hget).exists_items
    exact ⟨_, items, rfl, rfl, hitems⟩

/-- A text that may be missing is read as a text or as nothing. -/
theorem HasMember.field_eq (h : HasMember name IsText v) :
    field v name = .ok .null ∨ ∃ s, v.member name = .ok (.str s) := by
  obtain ⟨ms, rfl, hshape⟩ := h.exists_members
  rw [field, Json.getD_obj, Json.member]
  cases hget : ms.get? name with
  | none => exact .inl rfl
  | some w =>
    obtain ⟨s, rfl⟩ := (hshape w hget).exists_text
    exact .inr ⟨s, rfl⟩

/-- An object can be asked for any member. -/
theorem HasMember.exists_getD (h : HasMember name shape v) (other : WideText) (dflt : Json) :
    ∃ w, v.getD other dflt = .ok w := by
  obtain ⟨ms, rfl, _⟩ := h.exists_members
  exact ⟨_, Json.getD_obj ms other dflt⟩

namespace CodeIds

variable {σ : Type}

/-! ## Pairs -/

/-- Pairs of a label and a code id, as a value. -/
def pairsValue (pairs : List (WideText × Json)) : Json :=
  .arr (pairs.map fun p => .arr [.str p.1, p.2])

/-- A code id as it is written: zero if it is not set. -/
def orZero (codeId : Json) : Json := if codeId.truthy then codeId else .int 0

/-- The code ids that pairs assign. -/
def Assignment.ofPairs (pairs : List (WideText × Json)) : Assignment :=
  pairs.map fun p => (.str p.1, orZero p.2)

theorem Assignment.ofJson_pairsValue (pairs : List (WideText × Json)) :
    Assignment.ofJson (pairsValue pairs) = .ok (.ofPairs pairs) := by
  show (pairs.map fun p => Json.arr [.str p.1, p.2]).mapM _ = _
  induction pairs with
  | nil => rfl
  | cons p rest ih =>
    rw [List.map_cons, List.mapM_cons, ih]
    rfl

/-- Nothing but a text has a code id among those for texts. -/
theorem Assignment.get?_ofPairs_null (pairs : List (WideText × Json)) :
    (Assignment.ofPairs pairs).get? .null = none := by
  refine Assignment.get?_eq_none fun p hp => ?_
  obtain ⟨pair, _, rfl⟩ := List.mem_map.mp hp
  rfl

/-- The last code id that a label is paired with. -/
inductive LastPaired (label : WideText) (codeId : Json) : List (WideText × Json) → Prop
  | intro (before after : List (WideText × Json)) (h : label ∉ after.map Prod.fst) :
    LastPaired label codeId (before ++ (label, codeId) :: after)

theorem Assignment.get?_ofPairs_of_not_mem {pairs : List (WideText × Json)} {label : WideText}
    (h : label ∉ pairs.map Prod.fst) : (Assignment.ofPairs pairs).get? (.str label) = none := by
  refine Assignment.get?_eq_none fun p hp => ?_
  obtain ⟨pair, hpair, rfl⟩ := List.mem_map.mp hp
  apply Bool.eq_false_iff.mpr
  intro hsame
  cases Json.same_str_right.mp hsame
  exact h (List.mem_map_of_mem hpair)

/-- The last code id counts. -/
theorem LastPaired.get?_ofPairs {pairs : List (WideText × Json)} {label : WideText} {codeId : Json}
    (h : LastPaired label codeId pairs) :
    (Assignment.ofPairs pairs).get? (.str label) = some (orZero codeId) := by
  obtain ⟨before, after, hafter⟩ := h
  rw [Assignment.ofPairs, List.map_append, List.map_cons, Assignment.get?_append]
  have hnone : Assignment.get? (Assignment.ofPairs after) (.str label) = none :=
    Assignment.get?_ofPairs_of_not_mem hafter
  rw [Assignment.ofPairs] at hnone
  rw [Assignment.get?, hnone]
  simp

/-- A label that occurs has a last code id. -/
theorem exists_lastPaired {pairs : List (WideText × Json)} {label : WideText}
    (h : label ∈ pairs.map Prod.fst) : ∃ codeId, LastPaired label codeId pairs := by
  induction pairs with
  | nil => cases h
  | cons p rest ih =>
    obtain ⟨first, codeId⟩ := p
    by_cases hrest : label ∈ rest.map Prod.fst
    · obtain ⟨later, before, after, hafter⟩ := ih hrest
      exact ⟨later, .intro ((first, codeId) :: before) after hafter⟩
    · have hfirst : first = label := by
        rw [List.map_cons, List.mem_cons] at h
        exact (h.resolve_right hrest).symm
      subst hfirst
      exact ⟨codeId, .intro [] rest hrest⟩

/-! ## Assigning succeeds -/

theorem updatableContract_of_isContract (pairs : List (WideText × Json)) {contract : Json}
    (h : IsContract contract) : UpdatableContract (.ofPairs pairs) contract := by
  rcases h.field_eq with hnull | ⟨label, hlabel⟩
  · exact ⟨.null, hnull, rfl, .inl (Assignment.get?_ofPairs_null pairs)⟩
  · exact ⟨.str label, field_of_member hlabel, rfl, .inr hlabel⟩

theorem updatableOption_of_isOption (pairs : List (WideText × Json)) (chainId : Json)
    {option : Json} (h : IsOption option) : UpdatableOption (.ofPairs pairs) chainId option := by
  obtain ⟨listed, contracts, hlisted, hcontracts, hshape⟩ := h.2.exists_items
  refine ⟨h.1.exists_getD "CHAIN_ID" .null, fun _ => ⟨contracts, ?_, ?_⟩⟩
  · exact except_bind_eq_ok.mpr ⟨listed, hlisted, hcontracts⟩
  · intro contract hmem
    exact updatableContract_of_isContract pairs (hshape contract hmem)

/-- A configuration of the documented shape shows all that assigning looks at. -/
theorem updatable_of_isDocument (pairs : List (WideText × Json)) (chainId : Json) {config : Json}
    (h : IsDocument config) : Updatable (.ofPairs pairs) config chainId := by
  obtain ⟨listed, chains, hlisted, hchains, hshape⟩ := h.exists_items
  refine ⟨chains, except_bind_eq_ok.mpr ⟨listed, hlisted, hchains⟩, fun chain hchain => ?_⟩
  obtain ⟨listed', options, hlisted', hoptions, hshape'⟩ := (hshape chain hchain).exists_items
  refine ⟨options, except_bind_eq_ok.mpr ⟨listed', hlisted', hoptions⟩, fun option hmem => ?_⟩
  exact updatableOption_of_isOption pairs chainId (hshape' option hmem)

/-- New code ids for texts give the recoded configuration, and leave nothing but notices. -/
theorem runIn_update (pairs : List (WideText × Json)) (chainId : Json) {config : Json}
    (h : IsDocument config) (session : Session σ) :
    ∃ notices, (update config chainId (pairsValue pairs) : Task σ Json).runIn session =
      (.ok (recode (.ofPairs pairs) config chainId), ⟨session.world, notices⟩) := by
  have hupdate : (update config chainId (pairsValue pairs) : Task σ Json) =
      assign config chainId (.ofPairs pairs) := by
    rw [update, Assignment.ofJson_pairsValue]
    rfl
  rw [hupdate]
  exact runIn_assign (updatable_of_isDocument pairs chainId h) session

end CodeIds

end ContractOps.Config
