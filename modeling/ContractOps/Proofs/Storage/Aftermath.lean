import ContractOps.Proofs.Config.Assigning
import ContractOps.Proofs.Storage.Correlation
import ContractOps.Proofs.Storage.Phases
import ContractOps.Proofs.Task.Items
import ContractOps.Proofs.Tx.Legible

/-!
# After the broadcast

Once the code has been sent, a run only reads the code ids, announces them, puts them into the
configuration and puts the digests under the names of the files. What it needs for that has mostly
been looked at before: the labels are texts (`exists_text_of_mem`), and the contracts can take code
ids (`updatable_of_prepare`). So nothing can make it fail but the code ids, and after them a file
whose name is a list or an object (`runIn_finish`). If the code ids are read from events, they make
it fail exactly if one of the events misleads, although the code is stored by then
(`stored_or_misled`).
-/

namespace ContractOps.Storage

variable {σ : Type}

/-! ## Names of files -/

/-- The name of the file is a list or an object. Such a file may be read, but nothing can be put
under its name. -/
def Entry.Nameless (e : Entry) : Prop :=
  (∃ items, e.file = .arr items) ∨ ∃ members, e.file = .obj members

theorem Entry.hashable_iff {e : Entry} : e.file.hashable = .ok () ↔ ¬e.Nameless := by
  rw [Entry.Nameless]
  cases e.file <;> simp [Json.hashable]

/-- The fault of such a name is one of type. -/
theorem hashable_eq_error {v : Json} {e : Fault} (h : v.hashable = .error e) :
    ∃ fault, e = .type fault := by
  cases v with
  | arr items => exact ⟨_, (Except.error.inj h).symm⟩
  | obj members => exact ⟨_, (Except.error.inj h).symm⟩
  | _ => cases h

/-- With names for all files there are digests. -/
theorem checksums_named {batch : List Entry} (h : ∀ e ∈ batch, ¬e.Nameless) :
    checksums batch = .ok (digests batch) := by
  rw [checksums, forM_eq_ok_iff.mpr fun e he => Entry.hashable_iff.mpr (h e he)]
  rfl

theorem checksums_nameless {batch : List Entry} (h : ∃ e ∈ batch, e.Nameless) :
    ∃ fault, checksums batch = .error (.type fault) := by
  obtain ⟨e, he, hnameless⟩ := h
  cases hchecked : batch.forM fun e => e.file.hashable with
  | ok _ => exact absurd hnameless (Entry.hashable_iff.mp (forM_eq_ok_iff.mp hchecked e he))
  | error cause =>
    obtain ⟨_, _, hfirst⟩ := exists_of_forM_eq_error hchecked
    obtain ⟨fault, rfl⟩ := hashable_eq_error hfirst
    refine ⟨fault, ?_⟩
    rw [checksums, hchecked]
    rfl

/-! ## Finishing -/

/-- The outcome of what was prepared, with the code ids that the transaction shows. -/
def Prepared.outcome (p : Prepared) (config chainId : Json) (tx : TxResult)
    (extracted : List Int) : Outcome where
  config := Config.CodeIds.recode
    ((correlate 0 (p.batch.map Entry.label) extracted).map fun c => (c.1, .int c.2)) config chainId
  codeIds := correlate 0 (p.batch.map Entry.label) extracted
  txHash := tx.txHash
  checksums := digests p.batch
  mismatch := Mismatch.of? p.batch.length extracted.length

theorem gives_warnMismatch (tx : TxResult) (mismatch : Option Mismatch) :
    (warnMismatch tx mismatch : Task σ Unit).Gives () := by
  cases mismatch with
  | none => exact .pure ()
  | some m => exact .note _

theorem succeeds_warnMismatch (tx : TxResult) (mismatch : Option Mismatch) :
    (warnMismatch tx mismatch : Task σ Unit).Succeeds := by
  cases mismatch with
  | none => exact .pure ()
  | some m => exact .note _

/-- Labels that are texts can be announced. -/
theorem succeeds_announce {codeIds : List (Json × Int)} (h : ∀ c ∈ codeIds, ∃ s, c.1 = .str s) :
    (announce codeIds : Task σ Unit).Succeeds := by
  induction codeIds with
  | nil => exact .pure ()
  | cons c rest ih =>
    obtain ⟨label, codeId⟩ := c
    obtain ⟨⟨s, hs⟩, hrest⟩ := List.forall_mem_cons.mp h
    cases hs
    exact .bind (.note _) fun _ => ih hrest

/-- If the code ids are read, there is an outcome as soon as there are digests, and nothing is left
but notices. -/
theorem runIn_finish {p : Prepared} {config chainId : Json} {tx : TxResult} {extracted : List Int}
    (hextracted : tx.codeIds p.format = .ok extracted)
    (htexts : ∀ e ∈ p.batch, ∃ s, e.label = .str s)
    (hupdatable : ∀ codes, Config.CodeIds.Updatable codes config chainId) (session : Session σ) :
    ∃ notices, (p.finish config chainId tx).runIn session =
      ((checksums p.batch).map fun _ => p.outcome config chainId tx extracted,
        ⟨session.world, notices⟩) := by
  have hlabels : ∀ c ∈ correlate 0 (p.batch.map Entry.label) extracted, ∃ s, c.1 = .str s := by
    intro c hc
    have hlabel : c.1 ∈ p.batch.map Entry.label := by
      rw [← map_fst_correlate 0 (p.batch.map Entry.label) extracted]
      exact List.mem_map_of_mem hc
    obtain ⟨e, he, heq⟩ := List.mem_map.mp hlabel
    exact heq ▸ htexts e he
  obtain ⟨warned, hwarn⟩ := (succeeds_warnMismatch tx
    (Mismatch.of? p.batch.length extracted.length)).runIn_eq (gives_warnMismatch tx _) session
  obtain ⟨announced, hannounce⟩ := (succeeds_announce hlabels).runIn_eq (gives_announce _)
    ⟨session.world, warned⟩
  obtain ⟨notices, hassign⟩ := Config.CodeIds.runIn_assign (hupdatable _) ⟨session.world, announced⟩
  refine ⟨notices, ?_⟩
  rw [Prepared.finish, hextracted, Task.runIn_bind_ok (Task.runIn_lift _ session),
    Task.runIn_bind_ok hwarn, Task.runIn_bind_ok hannounce, Task.runIn_bind_ok hassign]
  cases hsums : checksums p.batch with
  | error fault => rfl
  | ok sums =>
    rw [checksums_eq_ok hsums]
    rfl

/-! ## What was looked at before -/

variable {compress : Compressor} {read : CodeReader σ} {address : Except Fault Json}
  {config chainId : Json} {labels : List WideText} {session after : Session σ} {p : Prepared}

/-- Among texts only texts are asked for. -/
theorem exists_text_of_mem
    (h : (prepare compress read address config chainId (.arr (labels.map .str))).runIn session =
      (.ok p, after)) : ∀ e ∈ p.batch, ∃ s, e.label = .str s := by
  intro e he
  obtain ⟨r, between, _, _, hentries, _, _⟩ := prepare_eq_ok h
  obtain ⟨contract, hcontract, hlabel⟩ := exists_of_forall₂_mem (forall₂_entries hentries) he
  have hasked := (List.mem_filter.mp hcontract).2
  rw [requested_texts] at hasked
  obtain ⟨s, _, hs⟩ := (asked_iff labels contract).mp hasked
  exact ⟨s, Except.ok.inj (hlabel.symm.trans hs)⟩

/-- If there is something to store, the contracts of the option can take code ids. -/
theorem updatable_of_prepare
    (h : (prepare compress read address config chainId (.arr (labels.map .str))).runIn session =
      (.ok p, after)) (codes : Config.CodeIds.Assignment) :
    Config.CodeIds.Updatable codes config chainId := by
  obtain ⟨r, between, hrequest, _, _, _, _⟩ := prepare_eq_ok h
  have hgranted := request_eq_ok hrequest
  obtain ⟨chain, hchain, hoption⟩ := hgranted.chain
  obtain ⟨listed, hlisted, hcheck, hcontracts⟩ := hgranted.listed
  rw [← hoption] at hlisted
  refine Config.CodeIds.updatable_of_findOption hchain
    (except_bind_eq_ok.mpr ⟨listed, hlisted, hcontracts⟩) fun contract hmem => ?_
  cases labels with
  | nil => exact absurd rfl (labels_ne_nil_of_prepare h)
  | cons label others =>
    obtain ⟨known, hknown, _⟩ := checkLabels_eq_ok hcontracts hcheck
    obtain ⟨found, _, hfound, hhashable⟩ := mem_labelsOf hknown hmem
    exact ⟨found, Config.CodeIds.field_of_member hfound, hhashable, .inr hfound⟩

/-! ## Code that is stored -/

open TxResult (ChainEvent ofEvents storedIds)

/-- Well-formed events give one code id for every event of type `store_code`, unless one of the
events misleads. Then they give none, and a run that has broadcast fails with the code stored. If
none of them misleads, it has an outcome, unless a file has a name that nothing can be put under. -/
theorem stored_or_misled {events : List ChainEvent} {shown : List Json}
    (hshown : List.Forall₂ ChainEvent.ShownBy events shown) :
    ((∀ e ∈ events, ¬e.Misleads) → ofEvents (.arr shown) = .ok (storedIds events)) ∧
    ((∃ e ∈ events, e.Misleads) → ∃ fault, ofEvents (.arr shown) = .error (.value fault)) ∧
    ∀ (σ : Type) (compress : Compressor) (read : CodeReader σ) (signer : Signer σ)
      (config chainId : Json) (labels : List WideText) (world : σ) (p : Prepared)
      (ready sent : Session σ) (tx : TxResult),
      (prepare compress read signer.address config chainId (.arr (labels.map .str))).start world =
        (.ok p, ready) →
      p.format = .events → (p.send signer).runIn ready = (.ok tx, sent) → tx.events = .arr shown →
      ∃ result notices,
        (run compress read signer config chainId (.arr (labels.map .str))).start world =
          (result, ⟨sent.world, notices⟩) ∧
        ((∀ e ∈ events, ¬e.Misleads) → (∀ e ∈ p.batch, ¬e.Nameless) →
          result = .ok (p.outcome config chainId tx (storedIds events))) ∧
        ((∀ e ∈ events, ¬e.Misleads) → (∃ e ∈ p.batch, e.Nameless) →
          ∃ fault, result = .error (.type fault)) ∧
        ((∃ e ∈ events, e.Misleads) → ∃ fault, result = .error (.value fault)) := by
  have hlegible : (∀ e ∈ events, ¬e.Misleads) → ofEvents (.arr shown) = .ok (storedIds events) :=
    TxResult.codeIdsOfEvents_legible hshown
  have hmisleading : (∃ e ∈ events, e.Misleads) →
      ∃ fault, ofEvents (.arr shown) = .error (.value fault) :=
    TxResult.codeIdsOfEvents_misleading hshown
  refine ⟨hlegible, hmisleading, ?_⟩
  intro σ compress read signer config chainId labels world p ready sent tx hprepare hformat hsend
    hevents
  have hread : tx.codeIds p.format = ofEvents (.arr shown) := by
    rw [hformat, ← hevents]
    rfl
  have hrun : (run compress read signer config chainId (.arr (labels.map .str))).start world =
      (p.finish config chainId tx).runIn sent := by
    rw [Task.start, run_eq, Task.runIn_bind_ok hprepare, Task.runIn_bind_ok hsend]
  by_cases hclear : ∀ e ∈ events, ¬e.Misleads
  · obtain ⟨notices, hfinish⟩ := runIn_finish (hread.trans (hlegible hclear))
      (exists_text_of_mem hprepare) (updatable_of_prepare hprepare) sent
    refine ⟨_, notices, hrun.trans hfinish, fun _ hnamed => ?_, fun _ hnameless => ?_, ?_⟩
    · rw [checksums_named hnamed]
      rfl
    · obtain ⟨fault, hfault⟩ := checksums_nameless hnameless
      rw [hfault]
      exact ⟨fault, rfl⟩
    · rintro ⟨e, he, hmisleads⟩
      exact absurd hmisleads (hclear e he)
  · have hmisled : ∃ e ∈ events, e.Misleads := by simpa using hclear
    obtain ⟨fault, hfault⟩ := hmisleading hmisled
    have hfinish : (p.finish config chainId tx).runIn sent = (.error (.value fault), sent) := by
      rw [Prepared.finish, hread, hfault]
      rfl
    exact ⟨_, sent.notices, hrun.trans hfinish, fun h => absurd h hclear,
      fun h => absurd h hclear, fun _ => ⟨fault, rfl⟩⟩

/-! ### A superscript among the digits -/

/-- An event whose code id passes for a number. -/
def superscript : ChainEvent := ⟨"store_code", [⟨"code_id", "4²"⟩]⟩

/-- Answers with this event, whatever is sent. -/
def answersSuperscript : Signer Unit where
  address := .ok (.str "me")
  broadcast _ _ _ _ := return { txHash := .str "T", events := .arr [superscript.toJson] }

/-- The code is stored, and the run fails. -/
theorem stored_or_misled_superscript :
    (∃ fault, ofEvents (.arr [superscript.toJson]) = .error (.value fault)) ∧
    ∃ p ready tx notices fault,
      (prepare id sameCode answersSuperscript.address threeContracts (.str "X")
        (.arr (List.map .str ["a"]))).start () = (.ok p, ready) ∧
      (p.send answersSuperscript).runIn ready = (.ok tx, ready) ∧
      (run id sameCode answersSuperscript threeContracts (.str "X")
        (.arr (List.map .str ["a"]))).start () = (.error (.value fault), ⟨(), notices⟩) := by
  have hshown : List.Forall₂ ChainEvent.ShownBy [superscript] [superscript.toJson] :=
    .cons (ChainEvent.shownBy_toJson superscript) .nil
  have hmisled : ∃ e ∈ [superscript], e.Misleads := by
    refine ⟨superscript, List.mem_singleton_self _, rfl, "4²", [], by decide +kernel, ?_, ?_⟩
    · decide +kernel
    · exact .inl ⟨.char '²', by decide, by decide +kernel⟩
  obtain ⟨_, hfault, hruns⟩ := stored_or_misled hshown
  refine ⟨hfault hmisled, ?_⟩
  have hformat : ((prepare id sameCode answersSuperscript.address threeContracts (.str "X")
      (.arr (List.map .str ["a"]))).start ()).1.toOption.map Prepared.format = some .events := by
    decide +kernel
  rcases hprepare : (prepare id sameCode answersSuperscript.address threeContracts (.str "X")
    (.arr (List.map .str ["a"]))).start () with ⟨fault | p, ready⟩
  · rw [hprepare] at hformat
    cases hformat
  · rw [hprepare] at hformat
    obtain ⟨result, notices, hrun, _, _, hfails⟩ := hruns Unit id sameCode answersSuperscript
      threeContracts (.str "X") ["a"] () p ready ready _ hprepare (Option.some.inj hformat) rfl rfl
    obtain ⟨fault, rfl⟩ := hfails hmisled
    exact ⟨p, ready, _, notices, fault, rfl, rfl, hrun⟩

/-! ### A list for a name -/

/-- A chain with a contract whose file has a list for a name. -/
def namelessContract : Json :=
  .obj [("CHAINS", .arr [.obj [("OPTIONS", .arr [.obj [("CHAIN_ID", .str "X"),
    ("STORE_CODE_GAS_MULTIPLIER", .int 2), ("GAS_PRICE_AMOUNT", .str "1"), ("DENOM", .str "u"),
    ("CONTRACTS", .arr [.obj [("LABEL", .str "a"), ("WASM", .arr [])]])]])]])]

example :
    (match ((run id sameCode oneCodeId namelessContract (.str "X")
        (.arr (List.map .str ["a"]))).start ()).1 with
      | .error (.type (.unhashable kind)) => kind == "list"
      | _ => false) = true := by decide +kernel

end ContractOps.Storage
