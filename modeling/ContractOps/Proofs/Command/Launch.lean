import ContractOps.Proofs.Command.Stages

/-!
# Runs that store code

A `Launch` is a run of the command with all that it meets but the files. What it leaves in the
files, and whether it has stored anything, depends on how far it comes: it may fail before there is
an outcome (`launch_unprepared`), it may have a configuration that cannot be written
(`launch_unsaved`), or it writes both files (`launch_saved`).
-/

namespace ContractOps.Command

/-- A run of the command, with all that it meets but the files. -/
structure Launch where
  now : Moment
  compress : Storage.Compressor
  addressOf : Json → Json → Except Fault WideText
  network : Network
  arguments : List String

namespace Launch

variable (l : Launch) (places : Places) (files : Workspace)

/-- What the run works with. -/
def setup : Setup where
  places := places
  now := l.now
  compress := l.compress
  addressOf := l.addressOf

/-- What the run works on. -/
def world : World where
  files := files
  network := l.network

/-- The exit status of the run. -/
def status : Nat := (run (l.setup places) .store l.arguments (l.world files)).1

/-- The files after the run. -/
def after : Workspace := (run (l.setup places) .store l.arguments (l.world files)).2.world.files

/-- The chain and the labels of the run, if it succeeds. -/
def stored : List (String × List String) :=
  match parseStore l.arguments with
  | .ok asked => if l.status places files = 0 then [asked] else []
  | .error _ => []

end Launch

/-- The path of the record of a chain. -/
def Places.record (places : Places) (chainId : String) : WideText :=
  Storage.recordPath places.records chainId

/-! ## How far a run comes -/

variable {l : Launch} {places : Places} {files : Workspace} {chainId : String}
  {o : Storage.Outcome} {between : Session World}

/-- A run that fails before there is an outcome leaves the files alone. -/
theorem launch_unprepared {e : Fault}
    (h : (prepare (l.setup places) l.arguments).start (l.world files) = (.error e, between)) :
    l.after places files = files ∧ l.stored places files = [] := by
  have hstore : (store (l.setup places) l.arguments).start (l.world files) =
      (.error e, between) := by
    rw [Task.start, store_eq, Task.runIn_bind_error h]
  have hrun := run_store_of_error hstore
  have hfiles := prepare_keeps_files (l.setup places) l.arguments ⟨l.world files, []⟩
  rw [← Task.start, h] at hfiles
  constructor
  · rw [Launch.after, hrun]
    exact hfiles
  · rw [Launch.stored, Launch.status, hrun]
    split <;> simp

/-- A run whose configuration cannot be written empties its file. -/
theorem launch_unsaved {fault : Fault}
    (h : (prepare (l.setup places) l.arguments).start (l.world files) =
      (.ok (chainId, o), between)) (hbytes : Config.toBytes o.config = .error fault) :
    l.after places files = files.put places.config [] ∧ l.stored places files = [] := by
  obtain ⟨_, hsame, old, hold, _⟩ := prepare_start_eq_ok h
  have hwritable : between.world.files.Writable places.config :=
    hsame ▸ Workspace.writable_of_read hold
  have hsave := runIn_saveConfig (s := l.setup places) o.config hwritable
  rw [hbytes] at hsave
  have hstore : (store (l.setup places) l.arguments).start (l.world files) = (.error fault,
      ⟨{ between.world with files := between.world.files.put places.config [] },
        between.notices⟩) := by
    rw [Task.start, store_eq, Task.runIn_bind_ok h, persist, Task.runIn_bind_error hsave]
    rfl
  have hrun := run_store_of_error hstore
  constructor
  · rw [Launch.after, hrun]
    exact congrArg (Workspace.put · places.config []) hsame
  · rw [Launch.stored, Launch.status, hrun]
    split <;> simp

/-- A run that can write its files has written them, and has stored its labels. -/
theorem launch_saved {bytes : Bytes} {made : Workspace} {record : Toml.Table} {text : List Char}
    {labels : List String}
    (h : (prepare (l.setup places) l.arguments).start (l.world files) =
      (.ok (chainId, o), between)) (hparse : parseStore l.arguments = .ok (chainId, labels))
    (hbytes : Config.toBytes o.config = .ok bytes)
    (hopens : Opens (files.put places.config bytes) (places.record chainId) made)
    (hrecord : newRecord (l.setup places) chainId o made = .ok record)
    (htext : Toml.write record = .ok text) :
    l.after places files = made.put (places.record chainId) (Utf8.encode text) ∧
      l.stored places files = [(chainId, labels)] := by
  obtain ⟨_, hsame, old, hold, _⟩ := prepare_start_eq_ok h
  have hsame : between.world.files = files := hsame
  have hwritable : between.world.files.Writable (l.setup places).places.config :=
    hsame ▸ Workspace.writable_of_read hold
  obtain ⟨notices, hpersist⟩ := runIn_persist_ok hwritable hbytes (hsame ▸ hopens) hrecord htext
  have hstore : (store (l.setup places) l.arguments).start (l.world files) = (.ok (),
      ⟨{ between.world with files := made.put (places.record chainId) (Utf8.encode text) },
        notices⟩) := by
    rw [Task.start, store_eq, Task.runIn_bind_ok h]
    exact hpersist
  have hrun := run_store_of_ok hstore
  constructor
  · rw [Launch.after, hrun]
  · rw [Launch.stored, Launch.status, hrun, hparse]
    rfl

end ContractOps.Command
