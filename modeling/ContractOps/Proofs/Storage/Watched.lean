import ContractOps.Proofs.Storage.Related

/-!
# Watching a run

`Watched` surroundings keep a list of what was asked of them: which files were read and what was
broadcast, in order, with the answers. A reader and a signer are made to leave these events by
`CodeReader.watched` and `Signer.watched`. A watched run comes to the same end as one that is not
watched (`run_watched`), so that its events tell what any run does.
-/

namespace ContractOps

namespace Storage

/-- What a run asked of its surroundings, with the answer. -/
inductive Event where
  | read (file : Json) (code : Except Fault Bytes)
  | broadcast (messages : List Message) (fee : WideText) (gas : Int) (memo : String)
      (answer : Except Fault TxResult)

/-- Surroundings with what was asked of them. -/
structure Watched (σ : Type) where
  world : σ
  events : List Event

variable {σ α β : Type}

/-- A task that leaves an event with its answer. -/
def watch (event : Except Fault α → Event) (t : Task σ α) : Task (Watched σ) α := do
  let answer ← (t.within Watched.world fun world w => { w with world }).attempt
  Task.update fun w => { w with events := w.events ++ [event answer] }
  answer

theorem runIn_watch {event : Except Fault α → Event} {t : Task σ α} {world : σ}
    {events : List Event} {notices : List Notice} {answer : Except Fault α} {after : Session σ}
    (h : t.runIn ⟨world, notices⟩ = (answer, after)) :
    (watch event t).runIn ⟨⟨world, events⟩, notices⟩ =
      (answer, ⟨⟨after.world, events ++ [event answer]⟩, after.notices⟩) := by
  have hinner : ((t.within Watched.world fun world w => { w with world }).runIn
      ⟨⟨world, events⟩, notices⟩) = (answer, ⟨⟨after.world, events⟩, after.notices⟩) := by
    rw [Task.runIn_within, h]
  rw [watch, Task.runIn_bind, Task.runIn_attempt, hinner]
  dsimp only
  rw [Task.runIn_bind, Task.runIn_update]
  dsimp only
  rw [Task.runIn_lift]

/-- Leaves an event for every file. -/
def CodeReader.watched (read : CodeReader σ) : CodeReader (Watched σ) := fun file =>
  watch (.read file) (read file)

end Storage

/-- Leaves an event for every broadcast. -/
def Signer.watched {σ : Type} (signer : Signer σ) : Signer (Storage.Watched σ) where
  address := signer.address
  broadcast messages fee gas memo :=
    Storage.watch (.broadcast messages fee gas memo) (signer.broadcast messages fee gas memo)

namespace Storage

/-! ## Watching changes nothing -/

variable {σ α : Type}

/-- Surroundings that are watched, and the same ones. -/
def SameWorld (watched : Watched σ) (world : σ) : Prop := watched.world = world

theorem watch_related (event : Except Fault α → Event) (t : Task σ α) :
    Task.Related SameWorld (watch event t) t := by
  rintro ⟨world, events⟩ world' notices hsame
  cases hsame
  exact ⟨_, _, _, _, runIn_watch rfl, rfl, rfl⟩

/-- A watched run comes to the same end as one that is not watched. -/
theorem run_watched (compress : Compressor) (read : CodeReader σ) (signer : Signer σ)
    (config chainId labels : Json) :
    Task.Related SameWorld (run compress read.watched signer.watched config chainId labels)
      (run compress read signer config chainId labels) :=
  run_related (fun _ => watch_related _ _) rfl (fun _ _ _ _ => watch_related _ _)
    compress config chainId labels

end Storage

end ContractOps
