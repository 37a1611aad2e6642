import ContractOps.Proofs.Storage.Batch
import Mathlib.Data.List.Forall2

/-!
# The phases of a run

A run first looks at nothing but the configuration, the address and the labels (`request`). It then
reads the code and prices it (`prepare`), broadcasts, and makes its outcome of the transaction
(`finish`). Nothing before the broadcast can broadcast, because it knows the signer by its address
only, and nothing after it asks anything of the surroundings. Together the phases are the run
(`run_eq`).
-/

namespace ContractOps.Storage

variable {σ : Type}

/-! ## The phases -/

/-- What a run knows before it reads anything. -/
structure Request where
  option : Json
  format : TxResult.EventFormat
  contracts : List Json
  sender : Json

/-- Everything that is checked before anything is read. -/
def request (address : Except Fault Json) (config chainId labels : Json) :
    Except Fault Request := do
  let option := (← Config.findOption config chainId).option
  let format ← TxResult.EventFormat.ofOption option
  let listed ← option.getD "CONTRACTS" (.arr [])
  let sender ← address
  checkLabels listed labels
  let contracts ← listed.items
  return { option, format, contracts, sender }

/-- What a run is about to broadcast, and where it is going to read the code ids. -/
structure Prepared where
  format : TxResult.EventFormat
  batch : List Entry
  gas : Int
  fee : WideText

/-- Everything that a run does before it broadcasts. -/
def prepare (compress : Compressor) (read : CodeReader σ) (address : Except Fault Json)
    (config chainId labels : Json) : Task σ Prepared := do
  let r ← request address config chainId labels
  let batch ← entries compress read labels r.sender r.contracts
  if batch.isEmpty then Task.fail (.nothingToStore chainId)
  let size := totalSize batch
  let (gas, fee) ← price r.option size
  Task.info .storage <|
    s!"Storing {(Json.arr (batch.map Entry.label)).literal} on " ++ chainId.display ++
      s!": {size} bytes, gas {Digits.text gas}, fee " ++ fee
  return { format := r.format, batch, gas, fee }

/-- Sends what was prepared. -/
def Prepared.send (p : Prepared) (signer : Signer σ) : Task σ TxResult :=
  signer.broadcast (p.batch.map Entry.message) p.fee p.gas ""

/-- Notices that there is another number of code ids than expected. -/
def warnMismatch (tx : TxResult) : Option Mismatch → Task σ Unit
  | some m => Task.warn .storage <| "Tx " ++ tx.txHash.display ++ ": " ++ m.message
  | none => pure ()

/-- What a run makes of its transaction. -/
def Prepared.finish (p : Prepared) (config chainId : Json) (tx : TxResult) : Task σ Outcome := do
  let extracted ← tx.codeIds p.format
  let mismatch := Mismatch.of? p.batch.length extracted.length
  warnMismatch tx mismatch
  let codeIds := correlate 0 (p.batch.map Entry.label) extracted
  announce codeIds
  return {
    config := ← Config.CodeIds.assign config chainId (codeIds.map fun c => (c.1, Json.int c.2))
    codeIds
    txHash := tx.txHash
    checksums := ← checksums p.batch
    mismatch }

/-- A run prepares, sends, and makes its outcome. -/
theorem run_eq (compress : Compressor) (read : CodeReader σ) (signer : Signer σ)
    (config chainId labels : Json) :
    run compress read signer config chainId labels =
      prepare compress read signer.address config chainId labels >>= fun p =>
        p.send signer >>= p.finish config chainId := by
  unfold run prepare request batch
  simp only [liftM_bind, bind_assoc]
  refine bind_congr fun chain => bind_congr fun format => bind_congr fun listed =>
    bind_congr fun sender => bind_congr fun _ => bind_congr fun contracts => ?_
  show (entries compress read labels sender contracts >>= _) =
    (entries compress read labels sender contracts >>= _)
  refine bind_congr fun batch => ?_
  by_cases hempty : batch.isEmpty = true
  · simp only [if_pos hempty]
    rfl
  · simp only [if_neg hempty, bind_assoc]
    refine bind_congr fun (gas, fee) => bind_congr fun _ => bind_congr fun tx =>
      bind_congr fun extracted => ?_
    dsimp only
    cases Mismatch.of? batch.length extracted.length <;> rfl

/-! ## What each phase has come through -/

/-- A request follows from the configuration, the address and the labels. -/
structure Request.Granted (address : Except Fault Json) (config chainId labels : Json)
    (r : Request) : Prop where
  chain : ∃ chain, Config.findOption config chainId = .ok chain ∧ chain.option = r.option
  format : TxResult.EventFormat.ofOption r.option = .ok r.format
  sender : address = .ok r.sender
  listed : ∃ listed, r.option.getD "CONTRACTS" (.arr []) = .ok listed ∧
    checkLabels listed labels = .ok () ∧ listed.items = .ok r.contracts

theorem request_eq_ok {address : Except Fault Json} {config chainId labels : Json} {r : Request}
    (h : request address config chainId labels = .ok r) :
    r.Granted address config chainId labels := by
  obtain ⟨chain, hchain, h⟩ := except_bind_eq_ok.mp h
  obtain ⟨format, hformat, h⟩ := except_bind_eq_ok.mp h
  obtain ⟨listed, hlisted, h⟩ := except_bind_eq_ok.mp h
  obtain ⟨sender, hsender, h⟩ := except_bind_eq_ok.mp h
  obtain ⟨_, hcheck, h⟩ := except_bind_eq_ok.mp h
  obtain ⟨contracts, hcontracts, h⟩ := except_bind_eq_ok.mp h
  cases h
  exact ⟨⟨chain, hchain, rfl⟩, hformat, hsender, listed, hlisted, hcheck, hcontracts⟩

/-- What was prepared holds the entries of the request, of which there are some. -/
theorem prepare_eq_ok {compress : Compressor} {read : CodeReader σ} {address : Except Fault Json}
    {config chainId labels : Json} {session after : Session σ} {p : Prepared}
    (h : (prepare compress read address config chainId labels).runIn session = (.ok p, after)) :
    ∃ r between, request address config chainId labels = .ok r ∧ r.format = p.format ∧
      (entries compress read labels r.sender r.contracts).runIn session = (.ok p.batch, between) ∧
      p.batch ≠ [] ∧ price r.option (totalSize p.batch) = .ok (p.gas, p.fee) := by
  obtain ⟨r, hrequest, h⟩ := Task.runIn_lift_bind_eq_ok.mp h
  obtain ⟨batch, between, hentries, h⟩ := Task.runIn_bind_eq_ok.mp h
  split at h
  · cases h
  · next hnonempty =>
    obtain ⟨⟨gas, fee⟩, hprice, h⟩ := Task.runIn_lift_bind_eq_ok.mp h
    cases h
    exact ⟨r, between, hrequest, rfl, hentries, by simpa using hnonempty, hprice⟩

/-! ## Entries of a request -/

/-- Whether a contract has one of the labels. -/
def requested (labels : List Json) (contract : Json) : Bool :=
  match contract.member "LABEL" with
  | .ok label => labels.any label.same
  | .error _ => false

theorem contains_requested (labels : List Json) {contract label : Json}
    (h : contract.member "LABEL" = .ok label) :
    (Json.arr labels).contains label = .ok (requested labels contract) := by
  rw [Json.contains, requested, h]

/-- Among texts, this is to have one of them. -/
theorem requested_texts (labels : List WideText) (contract : Json) :
    requested (labels.map .str) contract = asked labels contract := by
  rw [requested, asked]
  cases contract.member "LABEL" with
  | error e => rfl
  | ok label =>
    have hany := Except.ok.inj (contains_texts labels label)
    cases label <;> exact hany

/-- Without labels no contract is asked for. -/
theorem filter_requested_nil (contracts : List Json) : contracts.filter (requested []) = [] := by
  refine List.filter_eq_nil_iff.mpr fun contract _ => ?_
  rw [requested]
  split <;> simp

theorem label_of_entry {compress : Compressor} {read : CodeReader σ} {sender contract : Json}
    {session after : Session σ} {e : Entry}
    (h : (entry compress read sender contract).runIn session = (.ok e, after)) :
    contract.member "LABEL" = .ok e.label := by
  obtain ⟨label, hlabel, h⟩ := Task.runIn_lift_bind_eq_ok.mp h
  obtain ⟨_, _, h⟩ := Task.runIn_lift_bind_eq_ok.mp h
  obtain ⟨_, _, _, h⟩ := Task.runIn_bind_eq_ok.mp h
  obtain ⟨_, _, h⟩ := Task.runIn_lift_bind_eq_ok.mp h
  obtain ⟨_, _, h⟩ := Task.runIn_lift_bind_eq_ok.mp h
  obtain ⟨_, _, h⟩ := Task.runIn_lift_bind_eq_ok.mp h
  cases h
  exact hlabel

/-- Every contract that is asked for makes up an entry with its label, in order. -/
theorem forall₂_entries {compress : Compressor} {read : CodeReader σ} {labels : List Json}
    {sender : Json} {contracts : List Json} {session after : Session σ} {batch : List Entry}
    (h : (entries compress read (.arr labels) sender contracts).runIn session =
      (.ok batch, after)) :
    List.Forall₂ (fun contract e => contract.member "LABEL" = .ok e.label)
      (contracts.filter (requested labels)) batch := by
  induction contracts generalizing session batch with
  | nil =>
    cases h
    exact .nil
  | cons contract rest ih =>
    obtain ⟨label, hlabel, h⟩ := Task.runIn_lift_bind_eq_ok.mp h
    obtain ⟨wanted, hwanted, h⟩ := Task.runIn_lift_bind_eq_ok.mp h
    rw [contains_requested labels hlabel] at hwanted
    cases hwanted
    by_cases hrequested : requested labels contract = true
    · rw [if_pos hrequested] at h
      obtain ⟨first, between, hfirst, h⟩ := Task.runIn_bind_eq_ok.mp h
      obtain ⟨others, later, hothers, h⟩ := Task.runIn_bind_eq_ok.mp h
      cases h
      rw [List.filter_cons_of_pos hrequested]
      exact .cons (label_of_entry hfirst) (ih hothers)
    · rw [if_neg hrequested] at h
      rw [List.filter_cons_of_neg hrequested]
      exact ih h

/-- Without labels nothing is prepared. -/
theorem labels_ne_nil_of_prepare {compress : Compressor} {read : CodeReader σ}
    {address : Except Fault Json} {config chainId : Json} {labels : List Json}
    {session after : Session σ} {p : Prepared}
    (h : (prepare compress read address config chainId (.arr labels)).runIn session =
      (.ok p, after)) : labels ≠ [] := by
  rintro rfl
  obtain ⟨r, between, _, _, hentries, hnonempty, _⟩ := prepare_eq_ok h
  have hlength := (forall₂_entries hentries).length_eq
  rw [filter_requested_nil] at hlength
  exact hnonempty (List.length_eq_zero_iff.mp hlength.symm)

/-! ## What each phase leaves alone -/

variable {τ : Type} {R : σ → τ → Prop} {read : CodeReader σ} {read' : CodeReader τ}

/-- Preparing depends on nothing but what is read. -/
theorem prepare_related (hread : ∀ file, Task.Related R (read file) (read' file))
    (compress : Compressor) (address : Except Fault Json) (config chainId labels : Json) :
    Task.Related R (prepare compress read address config chainId labels)
      (prepare compress read' address config chainId labels) := by
  refine .lift_bind fun r => .bind (entries_related hread compress labels r.sender r.contracts)
    fun batch => ?_
  split
  · exact .throw _
  · exact .lift_bind fun (gas, fee) => .bind (.note _) fun _ => .pure _

theorem warnMismatch_related (tx : TxResult) (mismatch : Option Mismatch) :
    Task.Related R (warnMismatch tx mismatch) (warnMismatch tx mismatch) := by
  cases mismatch with
  | none => exact .pure ()
  | some m => exact .note _

/-- After the broadcast nothing is asked of the surroundings. -/
theorem Prepared.finish_keeps {γ : Type} (part : σ → γ) (p : Prepared) (config chainId : Json)
    (tx : TxResult) : Task.Keeps part (p.finish config chainId tx) :=
  Task.keeps_iff_related.mpr fun _ =>
    .lift_bind fun _ => .bind (warnMismatch_related tx _) fun _ =>
      .bind (announce_related _) fun _ => .bind (assign_related _ _ _) fun _ =>
        .lift_bind fun _ => .pure _

end ContractOps.Storage
