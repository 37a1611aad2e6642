import ContractOps.Proofs.Command.Failing
import ContractOps.Proofs.Command.Launch
import ContractOps.Proofs.Storage.Record

/-!
# Configuration and records agree

Every run that stores code rewrites two files, the configuration and the record of a chain, and any
of the runs may fail. A `History` is a sequence of runs, on any chains and with anything else
changed between them, and `Sound` is what it preserves (`sound_launch`, `sound_elsewhere`). After
every history a label in a record is that of a contract in the configuration, with the code id that
the record has, and every label that was stored is in the record (`history_agrees`).
-/

namespace ContractOps.Command

/-! ## Histories -/

/-- Files can be written, and a record that is written reads back, but for the order of its
tables. -/
def Launch.Durable (l : Launch) (places : Places) (files : Workspace) : Prop :=
  ∀ chainId o between,
    (prepare (l.setup places) l.arguments).start (l.world files) = (.ok (chainId, o), between) →
    ∀ bytes, Config.toBytes o.config = .ok bytes →
      ∃ made, Opens (files.put places.config bytes) (recordPath (l.setup places) chainId) made ∧
        ∀ record, newRecord (l.setup places) chainId o made = .ok record →
          ∃ text loaded, Toml.write record = .ok text ∧
            Config.tablesOf (Text.unifyLines text) = .ok loaded ∧
            Toml.Value.Alike (.table record) (.table loaded)

/-- The files after a sequence of runs, with the chains and labels of those that succeeded. It
begins with a configuration and no records, and what else happens leaves both alone. -/
inductive History (places : Places) : Workspace → List (String × List String) → Prop
  | start {files : Workspace} {config : Json} :
    Config.load files places.config = .ok config →
    (∀ chainId, Storage.SlashFree chainId → files.contents (places.record chainId) = none) →
    History places files []
  | elsewhere {files after : Workspace} {stored : List (String × List String)} :
    History places files stored → Workspace.Leaves files after places.config →
    (∀ chainId, Storage.SlashFree chainId → Workspace.Leaves files after (places.record chainId)) →
    History places after stored
  | launch {files : Workspace} {stored : List (String × List String)} (l : Launch) :
    History places files stored → (∀ chainId ∈ l.arguments.head?, Storage.SlashFree chainId) →
    l.Durable places files →
    History places (l.after places files) (stored ++ l.stored places files)

/-! ## What a history preserves -/

variable {places : Places} {files after : Workspace} {stored : List (String × List String)}
  {config : Json} {chainId : String}

/-- There is no record of the chain, and nothing was stored on it. -/
structure Unrecorded (places : Places) (files : Workspace) (stored : List (String × List String))
    (chainId : String) : Prop where
  contents : files.contents (places.record chainId) = none
  stored : ∀ labels, (chainId, labels) ∉ stored

/-- The code ids of the chain are those of the contracts, and every label that was stored has
one. -/
structure Accounts (stored : List (String × List String)) (chainId : String) (codeIds : Toml.Table)
    (contracts : List Json) : Prop where
  agree : Storage.Agree codeIds contracts
  stored : ∀ labels, (chainId, labels) ∈ stored → ∀ label ∈ labels,
    ∃ value, codeIds.get? (WideText.ofString label) = some value

/-- The record of the chain can be extended, and its code ids account for the contracts that the
configuration has. -/
structure Recorded (places : Places) (files : Workspace) (stored : List (String × List String))
    (config : Json) (chainId : String) (record codeIds : Toml.Table) (contracts : List Json) :
    Prop where
  loaded : Config.loadTables files (places.record chainId) = .ok record
  checksums : ∃ sums, record.get? "checksums" = some (.table sums)
  table : record.get? "code-ids" = some (.table codeIds)
  listed : ∃ chain, Config.findOption config (.str chainId) = .ok chain ∧
    Config.CodeIds.contractsOf chain.option = .ok contracts
  accounts : Accounts stored chainId codeIds contracts

/-- Every record agrees with the configuration, which can be loaded and saved if there is one. -/
structure Sound (places : Places) (files : Workspace) (stored : List (String × List String)) :
    Prop where
  apart : ∀ chainId, Storage.SlashFree chainId →
    Path.name (places.record chainId) ≠ Path.name places.config
  agreed : (∀ chainId, Storage.SlashFree chainId → Unrecorded places files stored chainId) ∨
    ∃ config, Config.load files places.config = .ok config ∧
      Json.Fits Json.Spelled Json.maxDepth config ∧
      ∀ chainId, Storage.SlashFree chainId → Unrecorded places files stored chainId ∨
        ∃ record codeIds contracts,
          Recorded places files stored config chainId record codeIds contracts

/-- Of a record that is left alone there is still none. -/
theorem Unrecorded.of_leaves (h : Unrecorded places files stored chainId)
    (hleaves : Workspace.Leaves files after (places.record chainId)) :
    Unrecorded places after stored chainId where
  contents := hleaves.contents.trans h.contents
  stored := h.stored

theorem sound_start (hload : Config.load files places.config = .ok config)
    (hnone : ∀ chainId, Storage.SlashFree chainId →
      files.contents (places.record chainId) = none) : Sound places files [] := by
  obtain ⟨bytes, hread, _⟩ := Config.exists_read_of_load hload
  have hcontents := (Workspace.read_eq_ok.mp hread).2.2
  refine ⟨fun chainId hfree hname => ?_, .inl fun chainId hfree => ⟨hnone chainId hfree, by simp⟩⟩
  have habsent := hnone chainId hfree
  rw [Workspace.contents, hname] at habsent
  cases hcontents.symm.trans habsent

/-- What happens elsewhere preserves agreement. -/
theorem sound_elsewhere (h : Sound places files stored)
    (hconfig : Workspace.Leaves files after places.config)
    (hrecords : ∀ chainId, Storage.SlashFree chainId →
      Workspace.Leaves files after (places.record chainId)) : Sound places after stored := by
  refine ⟨h.apart, ?_⟩
  rcases h.agreed with hnone | ⟨config, hload, hfits, hall⟩
  · exact .inl fun chainId hfree => (hnone chainId hfree).of_leaves (hrecords chainId hfree)
  · refine .inr ⟨config, Config.load_of_leaves hconfig hload, hfits, fun chainId hfree => ?_⟩
    rcases hall chainId hfree with hnone | ⟨record, codeIds, contracts, hrecorded⟩
    · exact .inl (hnone.of_leaves (hrecords chainId hfree))
    · have hloaded := Storage.loadTables_of_leaves (hrecords chainId hfree) hrecorded.loaded
      exact .inr ⟨record, codeIds, contracts, { hrecorded with loaded := hloaded }⟩

/-! ## One run -/

section

variable {l : Launch} {o : Storage.Outcome} {between : Session World} {labels : List String}

/-! ### The record of the chain -/

variable {c : Storage.Course} {compress : Storage.Compressor} {address : Except Fault Json}
  {record codeIds : Toml.Table} {contracts : List Json}

/-- A run finds a record that can be extended, with code ids that account for the contracts. -/
theorem exists_found {made : Workspace} {chain : Config.ChainOption}
    (h : Unrecorded places files stored chainId ∨
      ∃ record codeIds contracts,
        Recorded places files stored config chainId record codeIds contracts)
    (hleaves : Workspace.Leaves files made (places.record chainId))
    (hwritable : made.Writable (places.record chainId))
    (hchain : Config.findOption config (.str chainId) = .ok chain)
    (hcontracts : Config.CodeIds.contractsOf chain.option = .ok contracts) :
    ∃ record sums codeIds, Storage.loadRecord made (places.record chainId) = .ok record ∧
      Storage.tableOf? "checksums" record = some sums ∧
      Storage.tableOf? "code-ids" record = some codeIds ∧
      Accounts stored chainId codeIds contracts := by
  rcases h with hnone | ⟨record, codeIds, others, hrecorded⟩
  · have hload : Storage.loadRecord made (places.record chainId) = .ok [] :=
      Storage.loadRecord_of_contents hwritable (hnone.of_leaves hleaves).contents
    have haccounts : Accounts stored chainId [] contracts := by
      constructor
      · apply Storage.agree_empty
      · intro labels hlabels
        exact absurd hlabels (hnone.stored labels)
    exact ⟨[], [], [], hload, rfl, rfl, haccounts⟩
  · have hload : Storage.loadRecord made (places.record chainId) = .ok record :=
      Storage.loadRecord_of_loadTables (Storage.loadTables_of_leaves hleaves hrecorded.loaded)
    obtain ⟨sums, hsums⟩ := hrecorded.checksums
    obtain ⟨chain', hchain', hcontracts'⟩ := hrecorded.listed
    cases hchain.symm.trans hchain'
    cases hcontracts.symm.trans hcontracts'
    have hsums' : Storage.tableOf? "checksums" record = some sums := by
      unfold Storage.tableOf?
      rw [hsums]
      rfl
    have htable' : Storage.tableOf? "code-ids" record = some codeIds := by
      unfold Storage.tableOf?
      rw [hrecorded.table]
      rfl
    exact ⟨record, sums, codeIds, hload, hsums', htable', hrecorded.accounts⟩

/-- After a run the code ids account for the contracts with their new ones. -/
theorem Accounts.run (h : Accounts stored chainId codeIds c.contracts)
    (hc : c.Holds compress address config (.str chainId) (labels.map WideText.ofString)) :
    Accounts (stored ++ [(chainId, labels)]) chainId
      (Storage.withEntries (Storage.codeIdEntries (c.outcome config (.str chainId))) codeIds)
      (c.contracts.map (Config.CodeIds.recodeContract c.assigned)) := by
  constructor
  · exact hc.agree h.agree
  · intro asked hasked label hlabel
    rcases List.mem_append.mp hasked with hbefore | hnow
    · obtain ⟨value, hvalue⟩ := h.stored asked hbefore label hlabel
      exact Storage.exists_get?_withEntries _ hvalue
    · cases List.mem_singleton.mp hnow
      exact hc.mem_table codeIds (List.mem_map_of_mem hlabel)

/-- The order of the table does not matter. -/
theorem Accounts.alike {codeIds' : Toml.Table} (h : Accounts stored chainId codeIds contracts)
    (halike : Toml.Value.Alike (.table codeIds) (.table codeIds')) :
    Accounts stored chainId codeIds' contracts := by
  constructor
  · exact h.agree.alike halike
  · intro asked hasked label hlabel
    obtain ⟨value, hvalue⟩ := h.stored asked hasked label hlabel
    obtain ⟨value', hvalue', _⟩ := halike.exists_right hvalue
    exact ⟨value', hvalue'⟩

/-- Elsewhere they account for the contracts as before. -/
theorem Accounts.of_ne {other : String} (h : Accounts stored other codeIds contracts)
    (hne : other ≠ chainId) :
    Accounts (stored ++ [(chainId, labels)]) other codeIds contracts := by
  constructor
  · exact h.agree
  · intro asked hasked
    apply h.stored asked
    simpa [hne] using hasked

/-! ### The files after a run -/

/-- The record after a run, with the code ids of the run among those it had. -/
theorem exists_newRecord {s : Setup} {made : Workspace} {record sums codeIds : Toml.Table}
    (hload : Storage.loadRecord made (recordPath s chainId) = .ok record)
    (hsums : Storage.tableOf? "checksums" record = some sums)
    (htable : Storage.tableOf? "code-ids" record = some codeIds) (o : Storage.Outcome) :
    ∃ record' sums', newRecord s chainId o made = .ok record' ∧
      record'.get? "checksums" = some (.table sums') ∧
      record'.get? "code-ids" =
        some (.table (Storage.withEntries (Storage.codeIdEntries o) codeIds)) := by
  obtain ⟨record', sums', hrecord', hsums', htable'⟩ :=
    Storage.updateRecord_eq_ok chainId s.now o hsums htable
  refine ⟨record', sums', ?_, hsums', htable'⟩
  rw [newRecord, hload]
  exact hrecord'

/-- The record of another chain outlasts a run. -/
theorem Recorded.of_ne {other : String}
    (h : Recorded places files stored config other record codeIds contracts)
    (hleaves : Workspace.Leaves files after (places.record other)) (hne : other ≠ chainId)
    (codes : Config.CodeIds.Assignment) :
    Recorded places after (stored ++ [(chainId, labels)])
      (Config.CodeIds.recode codes config (.str chainId)) other record codeIds contracts where
  loaded := Storage.loadTables_of_leaves hleaves h.loaded
  checksums := h.checksums
  table := h.table
  listed := by
    obtain ⟨chain, hchain, hcontracts⟩ := h.listed
    have hne' : WideText.ofString other ≠ WideText.ofString chainId := by
      intro heq
      exact hne (WideText.ofString_inj.mp heq)
    refine ⟨chain, ?_, hcontracts⟩
    rw [Config.CodeIds.findOption_recode_of_ne codes config hne', hchain]
  accounts := h.accounts.of_ne hne

/-- The option of the chain is loaded with the new code ids. -/
theorem listed_run (hc : c.Holds compress address config (.str chainId)
      (labels.map WideText.ofString)) :
    ∃ chain, Config.findOption (c.outcome config (.str chainId)).config (.str chainId) = .ok chain ∧
      Config.CodeIds.contractsOf chain.option =
        .ok (c.contracts.map (Config.CodeIds.recodeContract c.assigned)) := by
  have hfound := (Config.CodeIds.findOption_recode_self c.assigned hc.chain hc.contractsOf_chain).1
  have hcontracts := Config.CodeIds.contractsOf_recodeOption c.assigned
    (Config.CodeIds.isOn_of_findOption hc.chain) hc.contractsOf_chain
  exact ⟨Config.CodeIds.recodeFound c.assigned (.str chainId) c.chain, hfound, hcontracts⟩

/-- What is known of every chain while a configuration is there. -/
theorem Sound.each (h : Sound places files stored)
    (hload : Config.load files places.config = .ok config) :
    ∀ chainId, Storage.SlashFree chainId → Unrecorded places files stored chainId ∨
      ∃ record codeIds contracts,
        Recorded places files stored config chainId record codeIds contracts := by
  rcases h.agreed with hnone | ⟨config', hload', _, hall⟩
  · intro chainId hfree
    exact .inl (hnone chainId hfree)
  · cases hload.symm.trans hload'
    exact hall

/-- The configuration of an outcome can be saved if the one before could. -/
theorem fits_outcome {allowed : WideText → Prop} (hallowed : Config.AllowsParts allowed)
    (hc : c.Holds compress address config (.str chainId) (labels.map WideText.ofString))
    (h : Json.Fits allowed Json.maxDepth config) :
    Json.Fits allowed Json.maxDepth (c.outcome config (.str chainId)).config :=
  Config.fits_recode hallowed (hc.codesFit allowed) _ h

/-- A run that writes both files preserves agreement. -/
theorem sound_saved {bytes : Bytes} {made : Workspace} {text : List Char} {sums : Toml.Table}
    (h : Sound places files stored) (hload : Config.load files places.config = .ok config)
    (hfree : Storage.SlashFree chainId)
    (hc : c.Holds compress address config (.str chainId) (labels.map WideText.ofString))
    (hbytes : Config.toBytes (c.outcome config (.str chainId)).config = .ok bytes)
    (hopens : Opens (files.put places.config bytes) (places.record chainId) made)
    (hsums : record.get? "checksums" = some (.table sums))
    (htable : record.get? "code-ids" = some (.table codeIds))
    (haccounts : Accounts (stored ++ [(chainId, labels)]) chainId codeIds
      (c.contracts.map (Config.CodeIds.recodeContract c.assigned)))
    (hrecord : Config.tablesOf (Text.unifyLines text) = .ok record) :
    Sound places (made.put (places.record chainId) (Utf8.encode text))
      (stored ++ [(chainId, labels)]) := by
  have hwritable := Config.writable_of_load hload
  have hreadable := fits_outcome Config.allowsParts_true hc (Config.readable_of_load hload)
  have hsaved : Config.load (made.put (places.record chainId) (Utf8.encode text)) places.config =
      .ok (c.outcome config (.str chainId)).config := by
    have hmade : made.read places.config = .ok bytes :=
      Workspace.read_makeFolders hopens.folder (hwritable.read_put bytes)
    apply Config.load_saved hreadable hbytes
    exact hopens.writable.read_put_of_ne _ (Ne.symm (h.apart chainId hfree)) hmade
  have hspelled := (Config.toBytes_eq_ok_iff hreadable).mp ⟨bytes, hbytes⟩
  refine ⟨h.apart, .inr ⟨_, hsaved, hspelled, fun other hfree' => ?_⟩⟩
  by_cases hother : other = chainId
  · -- the chain of the run
    subst hother
    have hloaded := Storage.loadTables_put hopens.writable hrecord
    exact .inr ⟨record, _, _, hloaded, ⟨sums, hsums⟩, htable, listed_run hc, haccounts⟩
  · -- another chain
    have hname : Path.name (places.record other) ≠ Path.name (places.record chainId) := by
      intro heq
      exact hother (Storage.name_recordPath_inj hfree' hfree heq)
    have hleaves : Workspace.Leaves files (made.put (places.record chainId) (Utf8.encode text))
        (places.record other) :=
      ((hwritable.leaves_put bytes (h.apart other hfree')).trans
        (Workspace.leaves_makeFolders hopens.folder _)).trans (hopens.writable.leaves_put _ hname)
    rcases h.each hload other hfree' with hnone | ⟨record', codeIds', contracts, hrecorded⟩
    · left
      refine ⟨(hnone.of_leaves hleaves).contents, fun asked hasked => ?_⟩
      rcases List.mem_append.mp hasked with hbefore | hnow
      · exact hnone.stored asked hbefore
      · cases List.mem_singleton.mp hnow
        exact hother rfl
    · right
      exact ⟨record', codeIds', _, hrecorded.of_ne hleaves hother c.assigned⟩

/-- A run whose configuration cannot be written preserves agreement, for there is no record then. -/
theorem sound_unsaved {fault : Fault} (h : Sound places files stored)
    (hload : Config.load files places.config = .ok config)
    (hc : c.Holds compress address config (.str chainId) (labels.map WideText.ofString))
    (hbytes : Config.toBytes (c.outcome config (.str chainId)).config = .error fault) :
    Sound places (files.put places.config []) stored := by
  have hwritable := Config.writable_of_load hload
  rcases h.agreed with hnone | ⟨config', hload', hspelled, _⟩
  · refine ⟨h.apart, .inl fun other hfree => ?_⟩
    exact (hnone other hfree).of_leaves (hwritable.leaves_put [] (h.apart other hfree))
  · -- a configuration that could be saved before can still be
    cases hload.symm.trans hload'
    have hfits := fits_outcome Config.allowsParts_spelled hc hspelled
    obtain ⟨bytes, hok⟩ := (Config.toBytes_eq_ok_iff hfits).mpr hfits
    cases hbytes.symm.trans hok

/-- An outcome has a course, from the configuration as it was loaded. -/
theorem exists_course_of_prepare
    (h : (prepare (l.setup places) l.arguments).start (l.world files) =
      (.ok (chainId, o), between)) :
    ∃ labels config client c, parseStore l.arguments = .ok (chainId, labels) ∧
      Config.load files places.config = .ok config ∧
      Storage.Course.Holds l.compress (signer client).address config (.str chainId)
        (labels.map WideText.ofString) c ∧
      o = c.outcome config (.str chainId) := by
  obtain ⟨labels, config, client, begun, hparse, _, hload, _, hrun⟩ := prepare_eq_ok h
  have hlabels : (labels.map fun (label : String) => Json.str label) =
      (labels.map WideText.ofString).map .str := by
    rw [List.map_map]
    rfl
  rw [hlabels] at hrun
  obtain ⟨c, hc, ho⟩ := Storage.exists_course hrun
  exact ⟨labels, config, client, c, hparse, hload, hc, ho⟩

/-- A run with an outcome preserves agreement. -/
theorem sound_prepared (h : Sound places files stored) (hfree : Storage.SlashFree chainId)
    (hprepare : (prepare (l.setup places) l.arguments).start (l.world files) =
      (.ok (chainId, o), between)) (hdurable : l.Durable places files) :
    Sound places (l.after places files) (stored ++ l.stored places files) := by
  obtain ⟨labels, config, client, c, hparse, hload, hc, rfl⟩ := exists_course_of_prepare hprepare
  cases hbytes : Config.toBytes (c.outcome config (.str chainId)).config with
  | error fault =>
    obtain ⟨hafter, hstored⟩ := launch_unsaved hprepare hbytes
    rw [hafter, hstored, List.append_nil]
    exact sound_unsaved h hload hc hbytes
  | ok bytes =>
    obtain ⟨made, hopens, hwritten⟩ := hdurable chainId _ between hprepare bytes hbytes
    have hleaves : Workspace.Leaves files made (places.record chainId) :=
      ((Config.writable_of_load hload).leaves_put bytes (h.apart chainId hfree)).trans
        (Workspace.leaves_makeFolders hopens.folder _)
    -- the record as the run finds it, as it is written, and as it is loaded again
    obtain ⟨record, sums, codeIds, hfound, hsums, htable, haccounts⟩ :=
      exists_found (h.each hload chainId hfree) hleaves hopens.writable hc.chain
        hc.contractsOf_chain
    obtain ⟨record', sums', hnew, hsums', htable'⟩ :=
      exists_newRecord (s := l.setup places) hfound hsums htable
        (c.outcome config (.str chainId))
    obtain ⟨text, loaded, htext, hloaded, halike⟩ := hwritten record' hnew
    obtain ⟨_, hsums', _⟩ := halike.exists_table hsums'
    obtain ⟨codeIds', htable', hcodeIds⟩ := halike.exists_table htable'
    have haccounts' := (haccounts.run hc).alike hcodeIds
    obtain ⟨hafter, hstored⟩ := launch_saved hprepare hparse hbytes hopens hnew htext
    rw [hafter, hstored]
    exact sound_saved h hload hfree hc hbytes hopens hsums' htable' haccounts' hloaded

/-- A run preserves agreement, also if it fails. -/
theorem sound_launch (h : Sound places files stored)
    (hfree : ∀ chainId ∈ l.arguments.head?, Storage.SlashFree chainId)
    (hdurable : l.Durable places files) :
    Sound places (l.after places files) (stored ++ l.stored places files) := by
  cases hprepare : (prepare (l.setup places) l.arguments).start (l.world files) with
  | mk result between =>
    cases result with
    | error e =>
      obtain ⟨hafter, hstored⟩ := launch_unprepared hprepare
      rw [hafter, hstored, List.append_nil]
      exact h
    | ok prepared =>
      obtain ⟨chainId, o⟩ := prepared
      have hhead := (prepare_start_eq_ok hprepare).1
      exact sound_prepared h (hfree chainId hhead) hprepare hdurable

end

/-! ## Histories of runs -/

/-- Every history leaves the configuration and the records in agreement. -/
theorem sound_history (h : History places files stored) : Sound places files stored := by
  induction h with
  | start hload hnone => exact sound_start hload hnone
  | elsewhere _ hconfig hrecords ih => exact sound_elsewhere ih hconfig hrecords
  | launch l _ hfree hdurable ih => exact sound_launch ih hfree hdurable

/-- Either there is no record of a chain, or it agrees with the configuration that is loaded. -/
theorem Sound.cases (h : Sound places files stored) (hfree : Storage.SlashFree chainId) :
    Unrecorded places files stored chainId ∨
      ∃ config record codeIds contracts, Config.load files places.config = .ok config ∧
        Recorded places files stored config chainId record codeIds contracts := by
  rcases h.agreed with hnone | ⟨config, hload, _, hall⟩
  · exact .inl (hnone chainId hfree)
  · rcases hall chainId hfree with hnone | ⟨record, codeIds, contracts, hrecorded⟩
    · exact .inl hnone
    · exact .inr ⟨config, record, codeIds, contracts, hload, hrecorded⟩

/-- After a history there is a record of every chain on which something was stored. Wherever there
is a record of a chain, its code ids are those of the contracts that the configuration has for the
chain, and every label that was stored on the chain is among them. -/
theorem history_agrees (h : History places files stored) (hfree : Storage.SlashFree chainId) :
    (∀ labels, (chainId, labels) ∈ stored → files.contents (places.record chainId) ≠ none) ∧
    (files.contents (places.record chainId) ≠ none →
      ∃ (config : Json) (chain : Config.ChainOption) (contracts : List Json)
        (record codeIds : Toml.Table),
        Config.load files places.config = .ok config ∧
        Config.findOption config (.str chainId) = .ok chain ∧
        Config.CodeIds.contractsOf chain.option = .ok contracts ∧
        Config.loadTables files (places.record chainId) = .ok record ∧
        record.get? "code-ids" = some (.table codeIds) ∧
        Storage.Agree codeIds contracts ∧
        ∀ labels, (chainId, labels) ∈ stored → ∀ label ∈ labels,
          ∃ value, codeIds.get? (WideText.ofString label) = some value) := by
  rcases (sound_history h).cases hfree with
    hnone | ⟨config, record, codeIds, contracts, hload, hrecorded⟩
  · constructor
    · intro labels hlabels
      exact absurd hlabels (hnone.stored labels)
    · intro hcontents
      exact absurd hnone.contents hcontents
  · obtain ⟨chain, hchain, hcontracts⟩ := hrecorded.listed
    constructor
    · intro labels _
      obtain ⟨bytes, hread, _⟩ := Storage.exists_read_of_loadTables hrecorded.loaded
      simp [(Workspace.read_eq_ok.mp hread).2.2]
    · intro _
      exact ⟨config, chain, contracts, record, codeIds, hload, hchain, hcontracts,
        hrecorded.loaded, hrecorded.table, hrecorded.accounts.agree, hrecorded.accounts.stored⟩

/-! ### A first run -/

/-- A configuration with one contract, and no record. -/
def freshFiles : Workspace := .ofFiles [
  ("c", ["\x7b\"CHAINS\":[\x7b\"OPTIONS\":[\x7b\"TYPE\":\"t\",",
    "\"CHAIN_ID\":\"X\",\"RPC_LIST\":[\"http://r\"],", "\"REST_LIST\":[\"http://r\"],\"DENOM\":\"u\",",
    "\"GAS_PRICE_AMOUNT\":1,", "\"STORE_CODE_GAS_MULTIPLIER\":1,",
    "\"CONTRACTS\":[\x7b\"LABEL\":\"l\",", "\"WASM\":\"f\"\x7d]\x7d]\x7d]\x7d"].flatMap Utf8.ofString),
  ("w", Utf8.ofString "[t]\nSEED_ADMIN=\"s\"\n"), ("a/f", [1]), ("r/n", [])]

/-- A run in which the contract gets code id 42. -/
def firstLaunch : Launch where
  now := shortSetup.now
  compress := shortSetup.compress
  addressOf := shortSetup.addressOf
  network := {
    answers := [.ok ⟨200, Utf8.ofString "\x7b\x7d"⟩,
      .ok ⟨200, ["\x7b\"tx_response\":\x7b\"events\":[", "\x7b\"type\":\"store_code\",",
        "\"attributes\":[\x7b\"key\":\"code_id\",", "\"value\":\"42\"\x7d]\x7d]\x7d\x7d"].flatMap
          Utf8.ofString⟩]
    account := .ok ⟨.int 1, .int 1⟩
    signed := [1]
    events := [] }
  arguments := ["X", "l"]

/-- Whether a new record of an outcome is written and reads back. -/
def readsBack (chainId : String) (now : Moment) (o : Storage.Outcome) : Bool :=
  match Storage.updateRecord chainId now o [] with
  | .error _ => false
  | .ok record =>
    match Toml.write record with
    | .error _ => false
    | .ok text =>
      match Config.tablesOf (Text.unifyLines text) with
      | .error _ => false
      | .ok loaded => Toml.Value.same 2 (.table record) (.table loaded)

theorem exists_of_readsBack {now : Moment} {o : Storage.Outcome}
    (h : readsBack chainId now o = true) :
    ∃ record text loaded, Storage.updateRecord chainId now o [] = .ok record ∧
      Toml.write record = .ok text ∧ Config.tablesOf (Text.unifyLines text) = .ok loaded ∧
      Toml.Value.Alike (.table record) (.table loaded) := by
  unfold readsBack at h
  split at h
  · cases h
  · next record hrecord =>
    split at h
    · cases h
    · next text htext =>
      split at h
      · cases h
      · next loaded hloaded =>
        exact ⟨record, text, loaded, hrecord, htext, hloaded, .of_same h⟩

/-- The run has an outcome, which can be written. -/
theorem firstLaunch_prepared :
    ∃ o between bytes, (prepare (firstLaunch.setup shortSetup.places) firstLaunch.arguments).start
        (firstLaunch.world freshFiles) = (.ok ("X", o), between) ∧
      Config.toBytes o.config = .ok bytes ∧ readsBack "X" firstLaunch.now o = true := by
  have hchecked : (match ((prepare (firstLaunch.setup shortSetup.places)
      firstLaunch.arguments).start (firstLaunch.world freshFiles)).1 with
    | .ok (_, o) => (Config.toBytes o.config).isOk && readsBack "X" firstLaunch.now o
    | .error _ => false) = true := by decide +kernel
  cases hprepare : (prepare (firstLaunch.setup shortSetup.places) firstLaunch.arguments).start
      (firstLaunch.world freshFiles) with
  | mk result between =>
    rw [hprepare] at hchecked
    cases result with
    | error e => cases hchecked
    | ok prepared =>
      obtain ⟨chainId, o⟩ := prepared
      obtain ⟨hok, hreads⟩ := Bool.and_eq_true_iff.mp hchecked
      cases (prepare_start_eq_ok hprepare).1
      cases hbytes : Config.toBytes o.config with
      | error fault =>
        rw [hbytes] at hok
        cases hok
      | ok bytes => exact ⟨o, between, bytes, rfl, hbytes, hreads⟩

theorem opens_freshFiles (bytes : Bytes) :
    Opens (freshFiles.put "c" bytes) (shortSetup.places.record "X") (freshFiles.put "c" bytes) := by
  have hkind : (freshFiles.put "c" bytes).kind (Path.name (shortSetup.places.record "X")) =
      .nothing := rfl
  refine ⟨rfl, rfl, rfl, ?_⟩
  simp [hkind]

/-- The record of the run is new. -/
theorem newRecord_freshFiles (bytes : Bytes) (o : Storage.Outcome) :
    newRecord (firstLaunch.setup shortSetup.places) "X" o (freshFiles.put "c" bytes) =
      Storage.updateRecord "X" firstLaunch.now o [] := by
  have hload : Storage.loadRecord (freshFiles.put "c" bytes) (shortSetup.places.record "X") =
      .ok [] := Storage.loadRecord_of_contents (opens_freshFiles bytes).writable rfl
  show (Storage.loadRecord (freshFiles.put "c" bytes) (shortSetup.places.record "X") >>= _) = _
  rw [hload]
  rfl

theorem durable_firstLaunch : firstLaunch.Durable shortSetup.places freshFiles := by
  intro chainId o between hprepare bytes _
  obtain ⟨o', between', _, hprepare', _, hreads⟩ := firstLaunch_prepared
  cases hprepare.symm.trans hprepare'
  refine ⟨_, opens_freshFiles bytes, fun record hrecord => ?_⟩
  obtain ⟨record', text, loaded, hrecord', htext, hloaded, halike⟩ := exists_of_readsBack hreads
  rw [newRecord_freshFiles] at hrecord
  cases hrecord.symm.trans hrecord'
  exact ⟨text, loaded, htext, hloaded, halike⟩

theorem stored_firstLaunch : firstLaunch.stored shortSetup.places freshFiles = [("X", ["l"])] := by
  obtain ⟨o, between, bytes, hprepare, hbytes, hreads⟩ := firstLaunch_prepared
  obtain ⟨record, text, _, hrecord, htext, _⟩ := exists_of_readsBack hreads
  exact (launch_saved hprepare rfl hbytes (opens_freshFiles bytes)
    ((newRecord_freshFiles bytes o).trans hrecord) htext).2

theorem history_firstLaunch :
    History shortSetup.places (firstLaunch.after shortSetup.places freshFiles) [("X", ["l"])] := by
  obtain ⟨o, between, bytes, hprepare, _⟩ := firstLaunch_prepared
  obtain ⟨_, config, _, _, _, _, hload, _⟩ := prepare_eq_ok hprepare
  have hnone : ∀ chainId, Storage.SlashFree chainId →
      freshFiles.contents (shortSetup.places.record chainId) = none := by
    intro chainId hfree
    obtain ⟨base, hbase⟩ := Storage.exists_folder shortSetup.places.records
    have hnames : ∀ file ∈ freshFiles.files, file.1.getLast?.map List.length = some 1 := by
      decide +kernel
    apply Workspace.lookUp_eq_none
    intro file hfile hname
    have hlength := hnames file hfile
    rw [hname, Places.record, hbase chainId hfree] at hlength
    have hlong := Storage.five_le_length_fileName chainId
    simp at hlength
    omega
  have hfree : ∀ chainId ∈ firstLaunch.arguments.head?, Storage.SlashFree chainId := by
    intro chainId hchainId
    cases hchainId
    simp [Storage.SlashFree]
  have hstart : History shortSetup.places freshFiles [] := .start hload hnone
  have hhistory := hstart.launch firstLaunch hfree durable_firstLaunch
  rwa [stored_firstLaunch] at hhistory

theorem history_agrees_firstLaunch :
    History shortSetup.places (firstLaunch.after shortSetup.places freshFiles) [("X", ["l"])] ∧
    ∃ (config : Json) (chain : Config.ChainOption) (contracts : List Json)
      (record codeIds : Toml.Table),
      Config.load (firstLaunch.after shortSetup.places freshFiles) "c" = .ok config ∧
      Config.findOption config (.str "X") = .ok chain ∧
      Config.CodeIds.contractsOf chain.option = .ok contracts ∧
      Config.loadTables (firstLaunch.after shortSetup.places freshFiles)
        (shortSetup.places.record "X") = .ok record ∧
      record.get? "code-ids" = some (.table codeIds) ∧ Storage.Agree codeIds contracts ∧
      ∃ value, codeIds.get? (WideText.ofString "l") = some value := by
  have hfree : Storage.SlashFree "X" := by simp [Storage.SlashFree]
  obtain ⟨hrecords, hagrees⟩ := history_agrees history_firstLaunch hfree
  obtain ⟨config, chain, contracts, record, codeIds, hload, hchain, hcontracts, hrecord, htable,
    hagree, hstored⟩ := hagrees (hrecords ["l"] List.mem_cons_self)
  exact ⟨history_firstLaunch, config, chain, contracts, record, codeIds, hload, hchain, hcontracts,
    hrecord, htable, hagree, hstored ["l"] List.mem_cons_self "l" List.mem_cons_self⟩

end ContractOps.Command
