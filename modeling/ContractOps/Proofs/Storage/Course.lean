import ContractOps.Proofs.Config.Recoding
import ContractOps.Proofs.Storage.Batch

/-!
# The course of a run

A run that gives an outcome has gone through all its steps, and what each of them gave is set down
in a `Course`: the option and its contracts, the batch with the code that was read for it, the
price, the answer to the broadcast and the code ids in it. The events of the run are those of the
course (`run_eq_ok`).
-/

namespace ContractOps.Storage

variable {σ : Type}

/-- What the steps of a run gave. -/
structure Course where
  chain : Config.ChainOption
  format : TxResult.EventFormat
  listed : Json
  contracts : List Json
  sender : Json
  /-- The entries of the batch with the code that was read for them. -/
  taken : List (Entry × Bytes)
  gas : Int
  fee : WideText
  tx : TxResult
  extracted : List Int

namespace Course

/-- The batch. -/
def batch (c : Course) : List Entry := c.taken.map Prod.fst

/-- The labels of the batch with their code ids. -/
def codeIds (c : Course) : List (Json × Int) := correlate 0 (c.batch.map Entry.label) c.extracted

/-- The code ids as the configuration takes them. -/
def assigned (c : Course) : Config.CodeIds.Assignment := c.codeIds.map fun p => (p.1, .int p.2)

/-- The outcome of the run. -/
def outcome (c : Course) (config chainId : Json) : Outcome where
  config := Config.CodeIds.recode c.assigned config chainId
  codeIds := c.codeIds
  txHash := c.tx.txHash
  checksums := digests c.batch
  mismatch := Mismatch.of? c.batch.length c.extracted.length

/-- The events of the run: a read for every entry, then one broadcast. -/
def events (c : Course) : List Event :=
  c.taken.map readOf ++ [.broadcast (c.batch.map Entry.message) c.fee c.gas "" (.ok c.tx)]

/-- The steps follow from one another. -/
structure Holds (compress : Compressor) (address : Except Fault Json) (config chainId : Json)
    (labels : List WideText) (c : Course) : Prop where
  chain : Config.findOption config chainId = .ok c.chain
  format : TxResult.EventFormat.ofOption c.chain.option = .ok c.format
  listed : c.chain.option.getD "CONTRACTS" (.arr []) = .ok c.listed
  contracts : c.listed.items = .ok c.contracts
  sender : address = .ok c.sender
  known : checkLabels c.listed (.arr (labels.map .str)) = .ok ()
  requested : c.batch.map Entry.contract = c.contracts.filter (asked labels)
  packs : ∀ t ∈ c.taken, t.1.Packs compress c.sender t.2
  nonempty : c.batch ≠ []
  price : price c.chain.option (totalSize c.batch) = .ok (c.gas, c.fee)
  extracted : c.tx.codeIds c.format = .ok c.extracted

end Course

/-- Notices leave the surroundings alone. -/
theorem gives_announce (codeIds : List (Json × Int)) :
    (announce codeIds : Task σ Unit).Gives () := by
  induction codeIds with
  | nil => exact .pure ()
  | cons entry rest ih =>
    obtain ⟨label, codeId⟩ := entry
    cases label with
    | str s => exact .bind (.note _) ih
    | _ => exact .throw _ _

/-- There are no other digests than these. -/
theorem checksums_eq_ok {batch : List Entry} {sums : List (Json × String)}
    (h : checksums batch = .ok sums) : sums = digests batch := by
  obtain ⟨_, _, h⟩ := except_bind_eq_ok.mp h
  cases h
  rfl

/-- An outcome is completed by the digests, which leaves the surroundings alone. -/
theorem gives_checksums (batch : List Entry) (outcome : List (Json × String) → Outcome) :
    (do return outcome (← checksums batch) : Task σ Outcome).Gives (outcome (digests batch)) :=
  .lift_bind fun _ hsums => checksums_eq_ok hsums ▸ .pure _

/-- A run that gives an outcome has a course, and its events are those of the course. -/
theorem run_eq_ok {compress : Compressor} {read : CodeReader σ} {signer : Signer σ}
    {config chainId : Json} {labels : List WideText} {session after : Session (Watched σ)}
    {o : Outcome}
    (h : (run compress read.watched signer.watched config chainId
      (.arr (labels.map .str))).runIn session = (.ok o, after)) :
    ∃ c : Course, c.Holds compress signer.address config chainId labels ∧
      o = c.outcome config chainId ∧ Followed session after c.events := by
  obtain ⟨chain, hchain, h⟩ := Task.runIn_lift_bind_eq_ok.mp h
  obtain ⟨format, hformat, h⟩ := Task.runIn_lift_bind_eq_ok.mp h
  obtain ⟨listed, hlisted, h⟩ := Task.runIn_lift_bind_eq_ok.mp h
  obtain ⟨sender, hsender, h⟩ := Task.runIn_lift_bind_eq_ok.mp h
  obtain ⟨found, read, hbatch, h⟩ := Task.runIn_bind_eq_ok.mp h
  obtain ⟨contracts, hcontracts, hlabels, hentries⟩ := batch_eq_ok hbatch
  obtain ⟨taken, rfl, hasked, hpacks, hreads⟩ := entries_eq_ok hentries
  split at h
  · cases h
  · next hnonempty =>
    obtain ⟨⟨gas, fee⟩, hprice, h⟩ := Task.runIn_lift_bind_eq_ok.mp h
    obtain ⟨_, noted, hnoted, h⟩ := Task.runIn_bind_eq_ok.mp h
    obtain ⟨tx, sent, hsent, h⟩ := Task.runIn_bind_eq_ok.mp h
    obtain ⟨extracted, hextracted, h⟩ := Task.runIn_lift_bind_eq_ok.mp h
    let c : Course :=
      { chain, format, listed, contracts, sender, taken, gas, fee, tx, extracted }
    -- After the broadcast nothing else is asked of the surroundings.
    obtain ⟨rfl, hworld⟩ : o = c.outcome config chainId ∧ after.world = sent.world := by
      refine (?_ : Task.Gives _ (c.outcome config chainId)) h
      dsimp only
      split
      · exact .bind (.note _) (.bind (gives_announce _)
          (.bind (Config.CodeIds.gives_assign _ _ _) (gives_checksums _ _)))
      · exact .bind (gives_announce _)
          (.bind (Config.CodeIds.gives_assign _ _ _) (gives_checksums _ _))
    refine ⟨c, ⟨hchain, hformat, hlisted, hcontracts, hsender, hlabels, hasked, hpacks, ?_, hprice,
      hextracted⟩, rfl, ?_⟩
    · simpa [c, Course.batch] using hnonempty
    · cases hnoted
      have hsigned : Followed read sent
          [.broadcast (c.batch.map Entry.message) fee gas "" (.ok tx)] :=
        (followed_watch hsent :)
      have hrest : Followed sent after [] := by rw [Followed, hworld, List.append_nil]
      simpa [Course.events] using (hreads.trans hsigned).trans hrest

/-- So has a run that is not watched. -/
theorem exists_course {compress : Compressor} {read : CodeReader σ} {signer : Signer σ}
    {config chainId : Json} {labels : List WideText} {session after : Session σ} {o : Outcome}
    (h : (run compress read signer config chainId (.arr (labels.map .str))).runIn session =
      (.ok o, after)) :
    ∃ c : Course, c.Holds compress signer.address config chainId labels ∧
      o = c.outcome config chainId := by
  have hstart : SameWorld (⟨session.world, []⟩ : Watched σ) session.world := rfl
  obtain ⟨result, _, _, _, hwatched, hplain, _⟩ :=
    run_watched compress read signer config chainId (.arr (labels.map .str)) session.notices hstart
  cases h.symm.trans hplain
  obtain ⟨c, hc, ho, _⟩ := run_eq_ok hwatched
  exact ⟨c, hc, ho⟩

end ContractOps.Storage
