import ContractOps.Command.Run
import ContractOps.Proofs.Storage.Related
import ContractOps.Proofs.Workspace.Contents

/-!
# The two stages of storing code

Storing code first prepares an outcome (`prepare`) and then persists it (`persist`). Preparing
leaves the files alone, whether it succeeds or fails (`prepare_keeps_files`); all that is written is
written while persisting, and what this leaves in the files depends on how far it comes
(`runIn_saveConfig`, `runIn_writeRecord`, `runIn_persist_ok`).
-/

namespace ContractOps.Command

variable {s : Setup} {arguments : List String} {session after : Session World} {world : World}

/-! ## Stages -/

/-- Reads the code of contracts from the workspace. -/
def artifacts (s : Setup) : Storage.CodeReader World := fun name => do
  Storage.readArtifact (← Task.world).files s.places.artifacts name

/-- All that comes before the first write. -/
def prepare (s : Setup) (arguments : List String) : Task World (String × Storage.Outcome) := do
  let (chainId, labels) ← parseStore arguments
  if labels.isEmpty then Task.fail .labelsNotGiven
  let config ← loadConfig s
  let chain ← Config.findOption config (.str chainId)
  let (client, _) ← signingClient s chain
  let outcome ← Storage.run s.compress (artifacts s) (signer client) config (.str chainId)
    (.arr (labels.map fun (label : String) => .str label))
  return (chainId, outcome)

/-- The writes. -/
def persist (s : Setup) (chainId : String) (o : Storage.Outcome) : Task World Unit := do
  saveConfig s o.config
  let path ← writeRecord s chainId o
  Task.info .storeCommand <| "Deployment record saved to " ++ path

/-- Storing code is preparing it and then persisting the outcome. -/
theorem store_eq (s : Setup) (arguments : List String) :
    store s arguments = prepare s arguments >>= fun p => persist s p.1 p.2 := by
  rw [store, prepare, bind_assoc]
  congr 1
  funext p
  obtain ⟨chainId, labels⟩ := p
  dsimp only
  split
  · rfl
  · simp only [bind_assoc, pure_bind]
    rfl

/-! ## Preparing -/

theorem onNetwork_keeps_files {α : Type} (t : Task Network α) :
    Task.Keeps World.files (onNetwork t) :=
  fun _ => rfl

theorem loadConfig_keeps_files (s : Setup) : Task.Keeps World.files (loadConfig s) :=
  .bind .world fun _ => .lift _

theorem signingClient_keeps_files (s : Setup) (chain : Config.ChainOption) :
    Task.Keeps World.files (signingClient s chain) :=
  .lift_bind fun _ => .bind .world fun _ => .lift_bind fun _ => .lift_bind fun _ =>
    .lift_bind fun _ => .lift_bind fun _ => .bind (.note _) fun _ => .pure _

theorem storageRun_keeps_files (s : Setup) (client : Client) (config chainId labels : Json) :
    Task.Keeps World.files (Storage.run s.compress (artifacts s) (signer client) config chainId
      labels) := by
  apply Task.keeps_iff_related.mpr
  intro files
  refine Storage.run_related (fun file => ?_) rfl (fun messages fee gas memo => ?_) _ _ _ _
  · exact Task.keeps_iff_related.mp (.bind .world fun _ => .lift _) files
  · have hkeeps := onNetwork_keeps_files (client.broadcast messages fee gas memo)
    exact Task.keeps_iff_related.mp hkeeps files

/-- Preparing leaves the files alone, also if it fails. -/
theorem prepare_keeps_files (s : Setup) (arguments : List String) :
    Task.Keeps World.files (prepare s arguments) := by
  refine .lift_bind fun (chainId, labels) => ?_
  dsimp only
  split
  · exact .throw _
  · exact .bind (loadConfig_keeps_files s) fun config => .lift_bind fun chain =>
      .bind (signingClient_keeps_files s chain) fun _ =>
        .bind (storageRun_keeps_files s _ config _ _) fun _ => .pure _

/-- What has been read and done when there is an outcome. -/
theorem prepare_eq_ok {chainId : String} {o : Storage.Outcome}
    (h : (prepare s arguments).runIn session = (.ok (chainId, o), after)) :
    ∃ labels config client between, parseStore arguments = .ok (chainId, labels) ∧ labels ≠ [] ∧
      Config.load session.world.files s.places.config = .ok config ∧
      between.world.files = session.world.files ∧
      (Storage.run s.compress (artifacts s) (signer client) config (.str chainId)
        (.arr (labels.map fun (label : String) => .str label))).runIn between = (.ok o, after) := by
  obtain ⟨⟨parsed, labels⟩, hparse, h⟩ := Task.runIn_lift_bind_eq_ok.mp h
  dsimp only at h
  split at h
  · cases h
  · next hlabels =>
    obtain ⟨config, loaded, hload, h⟩ := Task.runIn_bind_eq_ok.mp h
    obtain ⟨chain, _, h⟩ := Task.runIn_lift_bind_eq_ok.mp h
    obtain ⟨⟨client, _⟩, signed, hsigned, h⟩ := Task.runIn_bind_eq_ok.mp h
    obtain ⟨outcome, stored, hrun, h⟩ := Task.runIn_bind_eq_ok.mp h
    cases h
    rw [loadConfig, Task.runIn_bind, Task.runIn_world] at hload
    dsimp only at hload
    rw [Task.runIn_lift] at hload
    obtain ⟨hconfig, rfl⟩ := Prod.mk.inj hload
    have hfiles := signingClient_keeps_files s chain session
    rw [hsigned] at hfiles
    exact ⟨labels, config, client, signed, hparse, by simpa using hlabels, hconfig, hfiles, hrun⟩

/-- An empty text is no JSON. -/
theorem Json.read_nil : ∃ e, Json.read [] = .error e := by
  have hscan : Json.scan Json.maxDepth (Json.skip []) = .error (.malformed .value []) := by
    show Json.scan Json.maxDepth [] = _
    rw [Json.scan]
    · rfl
    all_goals simp
  refine ⟨Json.ScanFault.locate [] (.malformed .value []), ?_⟩
  rw [Json.read, Json.readWithin, Json.readWholeWithin, hscan]
  simp

/-- An outcome is prepared for the first argument, from a configuration that could be read. -/
theorem prepare_start_eq_ok {chainId : String} {o : Storage.Outcome} {between : Session World}
    (h : (prepare s arguments).start world = (.ok (chainId, o), between)) :
    arguments.head? = some chainId ∧ between.world.files = world.files ∧
      ∃ bytes, world.files.read s.places.config = .ok bytes ∧ bytes ≠ [] := by
  have hfiles := prepare_keeps_files s arguments ⟨world, []⟩
  obtain ⟨labels, config, client, _, hparse, _, hload, _, _⟩ := prepare_eq_ok h
  rw [← Task.start, h] at hfiles
  refine ⟨?_, hfiles, ?_⟩
  · cases arguments with
    | nil => cases hparse
    | cons first rest =>
      cases hparse
      rfl
  · obtain ⟨chars, hchars, hwide⟩ := except_bind_eq_ok.mp hload
    obtain ⟨bytes, hbytes, hdecode⟩ := except_bind_eq_ok.mp hchars
    refine ⟨bytes, hbytes, ?_⟩
    -- an empty text is no configuration
    rintro rfl
    cases hdecode
    obtain ⟨fault, hfault⟩ := Json.read_nil
    have hempty : Config.ofWide [] = .error (.json fault) := by rw [Config.ofWide, hfault]
    cases hempty.symm.trans hwide

/-! ## Persisting -/

theorem runIn_changeFiles (change : Workspace → Except Fault Workspace) (session : Session World) :
    (changeFiles change).runIn session =
      match change session.world.files with
      | .ok files => (.ok (), { session with world := { session.world with files } })
      | .error e => (.error e, session) := by
  rw [changeFiles, Task.runIn_bind, Task.runIn_world]
  dsimp only
  rw [Task.runIn_bind, Task.runIn_lift]
  cases change session.world.files <;> rfl

theorem runIn_changeFiles_ok {change : Workspace → Except Fault Workspace} {files : Workspace}
    (h : change session.world.files = .ok files) :
    (changeFiles change).runIn session =
      (.ok (), { session with world := { session.world with files } }) := by
  rw [runIn_changeFiles, h]

theorem runIn_changeFiles_error {change : Workspace → Except Fault Workspace} {e : Fault}
    (h : change session.world.files = .error e) :
    (changeFiles change).runIn session = (.error e, session) := by
  rw [runIn_changeFiles, h]

/-- A configuration is saved if its text can be encoded. If not, its file is left empty. -/
theorem runIn_saveConfig (config : Json) (h : session.world.files.Writable s.places.config) :
    (saveConfig s config).runIn session =
      match Config.toBytes config with
      | .ok bytes =>
        (.ok (), ⟨{ session.world with files := session.world.files.put s.places.config bytes },
          session.notices ++ [⟨.info, .config, s!"Config saved to {s.places.config}", none⟩]⟩)
      | .error e =>
        (.error e, ⟨{ session.world with files := session.world.files.put s.places.config [] },
          session.notices⟩) := by
  rw [saveConfig, Task.runIn_bind_ok (runIn_changeFiles_ok (h.write []))]
  cases hbytes : Config.toBytes config with
  | ok bytes =>
    have hsaved : Config.save (session.world.files.put s.places.config []) s.places.config config =
        .ok (session.world.files.put s.places.config bytes) := by
      rw [Config.save, hbytes]
      exact ((h.put []).write bytes).trans (by rw [Workspace.put_put])
    rw [Task.runIn_bind_ok (runIn_changeFiles_ok hsaved), Task.runIn_info]
  | error e =>
    have hsaved : Config.save (session.world.files.put s.places.config []) s.places.config config =
        .error e := by
      rw [Config.save, hbytes]
      rfl
    rw [Task.runIn_bind_error (runIn_changeFiles_error hsaved)]

/-- The path of the record of a chain. -/
def recordPath (s : Setup) (chainId : String) : WideText :=
  Storage.recordPath s.places.records chainId

/-- The record can be opened: its folder is there or has been made, and a file can be there. -/
structure Opens (w : Workspace) (path : WideText) (made : Workspace) : Prop where
  folder : w.makeFolders (if (Path.folder path).isEmpty then "." else Path.folder path) = .ok made
  writable : made.Writable path

/-- The record of a chain after a run, made from what its file holds. -/
def newRecord (s : Setup) (chainId : String) (o : Storage.Outcome) (w : Workspace) :
    Except Fault Toml.Table :=
  Storage.loadRecord w (recordPath s chainId) >>= Storage.updateRecord chainId s.now o

/-- A record that can be opened is written if the old one can be read and extended and the new one
has a text. If only the last fails, its file is left empty. -/
theorem runIn_writeRecord (chainId : String) (o : Storage.Outcome) {made : Workspace}
    (h : Opens session.world.files (recordPath s chainId) made) :
    (writeRecord s chainId o).runIn session =
      match newRecord s chainId o made with
      | .error e => (.error e, ⟨{ session.world with files := made }, session.notices⟩)
      | .ok record =>
        match Toml.write record with
        | .error e =>
          (.error e, ⟨{ session.world with files := made.put (recordPath s chainId) [] },
            session.notices⟩)
        | .ok text =>
          (.ok (recordPath s chainId),
            ⟨{ session.world with
              files := made.put (recordPath s chainId) (Utf8.encode text) }, session.notices⟩) := by
  rw [writeRecord]
  dsimp only
  rw [Task.runIn_bind_ok (runIn_changeFiles_ok h.folder), Task.runIn_bind, Task.runIn_world]
  dsimp only
  rw [newRecord, Task.runIn_bind, Task.runIn_lift, recordPath]
  cases Storage.loadRecord made (Storage.recordPath s.places.records chainId) with
  | error e => rfl
  | ok old =>
    dsimp only
    rw [Task.runIn_bind, Task.runIn_lift]
    show _ = match Storage.updateRecord chainId s.now o old with | .error e => _ | .ok record => _
    cases Storage.updateRecord chainId s.now o old with
    | error e => rfl
    | ok record =>
      dsimp only
      rw [Task.runIn_bind_ok (runIn_changeFiles_ok (h.writable.write [])), Task.runIn_bind,
        Task.runIn_lift]
      cases Toml.write record with
      | error e => rfl
      | ok text =>
        dsimp only
        rw [Task.runIn_bind_ok (runIn_changeFiles_ok ((h.writable.put []).write _)),
          Workspace.put_put]
        rfl

/-- Persisting succeeds, with both files written, if the configuration has octets, the old record
can be read and extended and the new one has a text. -/
theorem runIn_persist_ok {chainId : String} {o : Storage.Outcome} {bytes : Bytes}
    {made : Workspace} {record : Toml.Table} {text : List Char}
    (hconfig : session.world.files.Writable s.places.config)
    (hbytes : Config.toBytes o.config = .ok bytes)
    (hopens : Opens (session.world.files.put s.places.config bytes) (recordPath s chainId) made)
    (hrecord : newRecord s chainId o made = .ok record) (htext : Toml.write record = .ok text) :
    ∃ notices, (persist s chainId o).runIn session = (.ok (),
      ⟨{ session.world with files := made.put (recordPath s chainId) (Utf8.encode text) },
        notices⟩) := by
  rw [persist, Task.runIn_bind, runIn_saveConfig o.config hconfig, hbytes]
  dsimp only
  rw [Task.runIn_bind, runIn_writeRecord chainId o hopens, hrecord]
  dsimp only
  rw [htext]
  exact ⟨_, rfl⟩

/-! ## Exit statuses -/

variable {name : Name}

theorem run_of_ok (h : (name.task s arguments).start world = (.ok (), after)) :
    run s name arguments world = (0, after) := by
  have hattempt : (name.task s arguments).attempt.runIn ⟨world, []⟩ = (.ok (.ok ()), after) := by
    rw [Task.runIn_attempt, ← Task.start, h]
  rw [run, exitStatus, Task.start, Task.runIn_bind_ok hattempt]
  rfl

theorem run_of_error {e : Fault} (h : (name.task s arguments).start world = (.error e, after)) :
    run s name arguments world =
      (1, { after with notices := after.notices ++ [ending e] }) := by
  have hattempt : (name.task s arguments).attempt.runIn ⟨world, []⟩ =
      (.ok (.error e), after) := by
    rw [Task.runIn_attempt, ← Task.start, h]
  rw [run, exitStatus, Task.start, Task.runIn_bind_ok hattempt]
  rfl

theorem run_store_of_ok (h : (store s arguments).start world = (.ok (), after)) :
    run s .store arguments world = (0, after) :=
  run_of_ok h

theorem run_store_of_error {e : Fault}
    (h : (store s arguments).start world = (.error e, after)) :
    run s .store arguments world =
      (1, { after with notices := after.notices ++ [ending e] }) :=
  run_of_error h

end ContractOps.Command
