import ContractOps.Encoding.Gzip
import ContractOps.Proofs.Command.Stages

/-!
# Storing code that fails

A run that ends with status 1 while it prepares leaves every file alone. One that ends so while it
persists does not: the configuration has been rewritten by then, and a record that cannot be read,
extended or written stops the run behind it. `failed_store_untouched_iff` says when exactly the
configuration and the record hold afterwards what they held before.
-/

namespace ContractOps.Command

variable {s : Setup} {arguments : List String} {world : World} {chainId : String}
  {o : Storage.Outcome}

/-- The configuration and the record of the chain hold what they held before. -/
def Untouched (s : Setup) (arguments : List String) (before after : Workspace) : Prop :=
  after.contents s.places.config = before.contents s.places.config ∧
    ∀ chainId ∈ arguments.head?,
      after.contents (recordPath s chainId) = before.contents (recordPath s chainId)

/-- What the configuration file holds once an outcome begins to be written. -/
def savedConfig (o : Storage.Outcome) : Bytes :=
  match Config.toBytes o.config with
  | .ok bytes => bytes
  | .error _ => []

/-- The record is emptied and stays so: the old one can be read and extended, but the new one has no
text. -/
def EmptiesRecord (s : Setup) (chainId : String) (o : Storage.Outcome) (w : Workspace) : Prop :=
  ∃ bytes made record fault, Config.toBytes o.config = .ok bytes ∧
    Opens (w.put s.places.config bytes) (recordPath s chainId) made ∧
    newRecord s chainId o made = .ok record ∧ Toml.write record = .error fault

/-- Once the configuration is written, the record can be opened. -/
def RecordOpens (s : Setup) (arguments : List String) (world : World) : Prop :=
  ∀ chainId o after, (prepare s arguments).start world = (.ok (chainId, o), after) →
    ∀ bytes, Config.toBytes o.config = .ok bytes →
      ∃ made, Opens (world.files.put s.places.config bytes) (recordPath s chainId) made

/-! ## Persisting that fails -/

/-- Folders are made in one way. -/
theorem Opens.unique {w made made' : Workspace} {path : WideText} (h : Opens w path made)
    (h' : Opens w path made') : made = made' :=
  Except.ok.inj (h.folder.symm.trans h'.folder)

/-- Persisting fails in one of three ways: the configuration has no octets, and its file is emptied;
it is written, and there is no new record; or the record has no text, and its file is emptied. -/
theorem persist_eq_error {session after : Session World} {e : Fault}
    (hconfig : session.world.files.Writable s.places.config)
    (hopens : ∀ bytes, Config.toBytes o.config = .ok bytes →
      ∃ made, Opens (session.world.files.put s.places.config bytes) (recordPath s chainId) made)
    (h : (persist s chainId o).runIn session = (.error e, after)) :
    ((∃ fault, Config.toBytes o.config = .error fault) ∧
      after.world.files = session.world.files.put s.places.config []) ∨
    ∃ bytes made, Config.toBytes o.config = .ok bytes ∧
      Opens (session.world.files.put s.places.config bytes) (recordPath s chainId) made ∧
      (((∃ fault, newRecord s chainId o made = .error fault) ∧ after.world.files = made) ∨
        ∃ record, newRecord s chainId o made = .ok record ∧
          (∃ fault, Toml.write record = .error fault) ∧
          after.world.files = made.put (recordPath s chainId) []) := by
  rw [persist, Task.runIn_bind, runIn_saveConfig o.config hconfig] at h
  cases hbytes : Config.toBytes o.config with
  | error fault =>
    rw [hbytes] at h
    cases h
    exact .inl ⟨⟨_, rfl⟩, rfl⟩
  | ok bytes =>
    obtain ⟨made, hmade⟩ := hopens bytes hbytes
    rw [hbytes] at h
    dsimp only at h
    rw [Task.runIn_bind, runIn_writeRecord chainId o hmade] at h
    refine .inr ⟨bytes, made, rfl, hmade, ?_⟩
    cases hnew : newRecord s chainId o made with
    | error fault =>
      rw [hnew] at h
      cases h
      exact .inl ⟨⟨_, rfl⟩, rfl⟩
    | ok record =>
      rw [hnew] at h
      dsimp only at h
      cases htext : Toml.write record with
      | error fault =>
        rw [htext] at h
        cases h
        exact .inr ⟨record, rfl, ⟨_, htext⟩, rfl⟩
      | ok text =>
        rw [htext] at h
        cases h

/-- A file that was written, and any other one, hold what they held if the first one held what was
written. -/
theorem put_untouched_iff (w : Workspace) (path other : WideText) (bytes : Bytes) :
    ((w.put path bytes).contents path = w.contents path ∧
      (w.put path bytes).contents other = w.contents other) ↔ w.contents path = some bytes := by
  rw [Workspace.contents_put_self, Workspace.contents_put]
  constructor
  · rintro ⟨h, _⟩
    exact h.symm
  · intro h
    refine ⟨h.symm, ?_⟩
    split
    · next hname => rw [← h, Workspace.contents, Workspace.contents, hname]
    · rfl

/-- Where persisting fails, both files hold what they held if the configuration held the new one
before, and the record was empty before if it has been emptied. -/
theorem persist_untouched_iff {session after : Session World} {e : Fault} {old : Bytes}
    (hread : session.world.files.read s.places.config = .ok old) (hne : old ≠ [])
    (hopens : ∀ bytes, Config.toBytes o.config = .ok bytes →
      ∃ made, Opens (session.world.files.put s.places.config bytes) (recordPath s chainId) made)
    (h : (persist s chainId o).runIn session = (.error e, after)) :
    (after.world.files.contents s.places.config = session.world.files.contents s.places.config ∧
      after.world.files.contents (recordPath s chainId) =
        session.world.files.contents (recordPath s chainId)) ↔
    session.world.files.contents s.places.config = some (savedConfig o) ∧
      (EmptiesRecord s chainId o session.world.files →
        session.world.files.contents (recordPath s chainId) = some []) := by
  have hwritable := Workspace.writable_of_read hread
  have hcontents := (Workspace.read_eq_ok.mp hread).2.2
  rcases persist_eq_error hwritable hopens h with
    ⟨⟨fault, hbytes⟩, hafter⟩ | ⟨bytes, made, hbytes, hmade, hafter⟩
  · -- the configuration was emptied
    have hsaved : savedConfig o = [] := by rw [savedConfig, hbytes]
    rw [hafter, hsaved, put_untouched_iff]
    refine (and_iff_left ?_).symm
    rintro ⟨bytes, _, _, _, hok, _⟩
    cases hbytes.symm.trans hok
  · have hsaved : savedConfig o = bytes := by rw [savedConfig, hbytes]
    have hcontents' : ∀ path, made.contents path =
        (session.world.files.put s.places.config bytes).contents path :=
      Workspace.contents_makeFolders hmade.folder
    rcases hafter with ⟨⟨fault, hnew⟩, hafter⟩ | ⟨record, hnew, ⟨fault, htext⟩, hafter⟩
    · -- the configuration was rewritten, and the record was left alone
      rw [hafter, hcontents', hcontents', hsaved, put_untouched_iff]
      refine (and_iff_left ?_).symm
      rintro ⟨bytes', made', record, _, hok, hopens', hnew', _⟩
      cases hbytes.symm.trans hok
      cases hmade.unique hopens'
      cases hnew.symm.trans hnew'
    · -- the configuration was rewritten, and the record was emptied
      have hempties : EmptiesRecord s chainId o session.world.files :=
        ⟨bytes, made, record, fault, hbytes, hmade, hnew, htext⟩
      rw [hafter, hsaved, Workspace.contents_put_self, Workspace.contents_put, hcontents',
        Workspace.contents_put_self, imp_iff_right hempties]
      split
      · next hname =>
        -- in one file neither is possible, since the configuration was not empty
        have hrecord : session.world.files.contents (recordPath s chainId) = some old := by
          rw [Workspace.contents, ← hname]
          exact hcontents
        rw [hrecord]
        simp [hne, Ne.symm hne]
      · constructor
        · intro h
          exact ⟨h.1.symm, h.2.symm⟩
        · intro h
          exact ⟨h.1.symm, h.2.symm⟩

/-! ## Whole runs -/

/-- A run with status 1 has failed while it prepared, with all files as they were, or while it
persisted an outcome. -/
theorem run_store_eq_one (h : (run s .store arguments world).1 = 1) :
    (∃ e after, (prepare s arguments).start world = (.error e, after) ∧
      (run s .store arguments world).2.world.files = world.files) ∨
    ∃ chainId o between e after, (prepare s arguments).start world = (.ok (chainId, o), between) ∧
      (persist s chainId o).runIn between = (.error e, after) ∧
      (run s .store arguments world).2.world.files = after.world.files := by
  cases hstore : (store s arguments).start world with
  | mk result after =>
    cases result with
    | ok _ =>
      rw [run_store_of_ok hstore] at h
      cases h
    | error e =>
      rw [run_store_of_error hstore]
      rw [Task.start, store_eq] at hstore
      rcases Task.runIn_bind_eq_error.mp hstore with
        hprepare | ⟨⟨chainId, o⟩, between, hprepare, hpersist⟩
      · have hfiles := prepare_keeps_files s arguments ⟨world, []⟩
        rw [hprepare] at hfiles
        exact .inl ⟨e, after, hprepare, hfiles⟩
      · exact .inr ⟨chainId, o, between, e, after, hprepare, hpersist, rfl⟩

/-- After a run with status 1 the configuration and the record hold what they held before if and
only if the run failed before there was an outcome, or what had been written until then was what the
files held already. -/
theorem failed_store_untouched_iff (s : Setup) (arguments : List String) (world : World)
    (hopens : RecordOpens s arguments world) (h : (run s .store arguments world).1 = 1) :
    Untouched s arguments world.files (run s .store arguments world).2.world.files ↔
      ∀ chainId o after, (prepare s arguments).start world = (.ok (chainId, o), after) →
        world.files.contents s.places.config = some (savedConfig o) ∧
        (EmptiesRecord s chainId o world.files →
          world.files.contents (recordPath s chainId) = some []) := by
  rcases run_store_eq_one h with ⟨e, after, hprepare, hfiles⟩ |
    ⟨chainId, o, between, e, after, hprepare, hpersist, hfiles⟩
  · rw [hfiles]
    constructor
    · intro _ chainId o _ hok
      cases hprepare.symm.trans hok
    · intro _
      exact ⟨rfl, fun _ _ => rfl⟩
  · obtain ⟨hhead, hsame, old, hold, hne⟩ := prepare_start_eq_ok hprepare
    have huntouched := persist_untouched_iff (hsame ▸ hold) hne
      (fun bytes hbytes => hsame ▸ hopens chainId o between hprepare bytes hbytes) hpersist
    rw [hfiles, Untouched, hhead, ← hsame]
    simp only [Option.mem_some_iff, forall_eq']
    rw [huntouched]
    constructor
    · intro hone chainId' o' after' hprepare'
      cases hprepare.symm.trans hprepare'
      exact hone
    · intro hall
      exact hall chainId o between hprepare

/-! ### A record that cannot be extended -/

/-- Short names for the files of a workspace. -/
def shortSetup : Setup where
  places := { config := "c", wallets := "w", artifacts := "a", records := "r" }
  now := { year := 2024, month := 3, day := 9, hour := 5, minute := 6, second := 7 }
  compress := Gzip.compress
  addressOf _ _ := .ok "me"

/-- One chain with one contract. -/
def oneContractText : String :=
  "\x7b\"CHAINS\": [\x7b\"NAME\": \"X\", \"PREFIX\": \"p\", \"OPTIONS\": [\x7b\"TYPE\": \"t\", " ++
    "\"CHAIN_ID\": \"X\", \"RPC_LIST\": [\"http://r\"], \"REST_LIST\": [\"http://r\"], " ++
    "\"DENOM\": \"u\", \"GAS_PRICE_AMOUNT\": 1, \"STORE_CODE_GAS_MULTIPLIER\": 1, " ++
    "\"CONTRACTS\": [\x7b\"LABEL\": \"l\", \"WASM\": \"f\"\x7d]\x7d]\x7d]\x7d"

/-- The record of the chain holds a number where the digests should be. -/
def spoiledWorld : World where
  files := .ofFiles [("c", Utf8.ofString oneContractText),
    ("w", Utf8.ofString "[t]\nSEED_ADMIN = \"s\"\n"), ("a/f", [1]),
    ("r/X.toml", Utf8.ofString "checksums = 1\n")]
  network := {
    answers := [.ok ⟨200, Utf8.ofString "\x7b\x7d"⟩,
      .ok ⟨200, Utf8.ofString "\x7b\"tx_response\": \x7b\x7d\x7d"⟩]
    account := .ok ⟨.int 1, .int 1⟩
    signed := [1]
    events := [] }

theorem failed_store_untouched_iff_spoiled :
    RecordOpens shortSetup ["X", "l"] spoiledWorld ∧
    (run shortSetup .store ["X", "l"] spoiledWorld).1 = 1 ∧
    (run shortSetup .store ["X", "l"] spoiledWorld).2.world.files.contents "c" ≠
      spoiledWorld.files.contents "c" ∧
    (Untouched shortSetup ["X", "l"] spoiledWorld.files
        (run shortSetup .store ["X", "l"] spoiledWorld).2.world.files ↔
      ∀ chainId o after,
        (prepare shortSetup ["X", "l"]).start spoiledWorld = (.ok (chainId, o), after) →
        spoiledWorld.files.contents shortSetup.places.config = some (savedConfig o) ∧
        (EmptiesRecord shortSetup chainId o spoiledWorld.files →
          spoiledWorld.files.contents (recordPath shortSetup chainId) = some [])) := by
  have hopens : RecordOpens shortSetup ["X", "l"] spoiledWorld := by
    intro chainId o after h bytes _
    obtain ⟨hhead, _⟩ := prepare_start_eq_ok h
    cases hhead
    have hfile : (spoiledWorld.files.put "c" bytes).kind (Path.name (recordPath shortSetup "X")) =
        .file (Utf8.ofString "checksums = 1\n") := rfl
    refine ⟨spoiledWorld.files.put "c" bytes, rfl, rfl, rfl, ?_⟩
    simp [hfile]
  have hrun : (run shortSetup .store ["X", "l"] spoiledWorld).1 = 1 ∧
      (run shortSetup .store ["X", "l"] spoiledWorld).2.world.files.contents "c" ≠
        spoiledWorld.files.contents "c" := by decide +kernel
  exact ⟨hopens, hrun.1, hrun.2,
    failed_store_untouched_iff shortSetup ["X", "l"] spoiledWorld hopens hrun.1⟩

end ContractOps.Command
