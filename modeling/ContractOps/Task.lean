import ContractOps.Fault

/-!
# Tasks and notices

A `Task` works on the state of its surroundings, leaves notices behind and may end in a fault. State
and notices survive a fault: what was done before it stays done (`Task.runIn_bind`).
-/

namespace ContractOps

/-- The weight of a notice. -/
inductive Level where
  | info
  | warning
  | error
deriving DecidableEq, Repr

/-- The area of work that a notice comes from. -/
inductive Topic where
  | config
  | reconciliation
  | listing
  | queries
  | execution
  | storage
  | chain
  | command
  | storeCommand
  | captureCommand
deriving DecidableEq, Repr

/-- A line of the log. An unexpected fault is part of it. -/
structure Notice where
  level : Level
  topic : Topic
  text : WideText
  fault : Option Fault := none

/-- The surroundings of a task and the notices so far. -/
structure Session (σ : Type) where
  world : σ
  notices : List Notice

/-- A computation in surroundings of type `σ`. -/
abbrev Task (σ α : Type) := ExceptT Fault (StateM (Session σ)) α

namespace Task

variable {σ α β : Type}

/-- Runs a task in a session. -/
def runIn (t : Task σ α) (session : Session σ) : Except Fault α × Session σ := t.run.run session

/-- Runs a task in surroundings without notices. -/
def start (t : Task σ α) (world : σ) : Except Fault α × Session σ := t.runIn ⟨world, []⟩

/-- The surroundings. -/
def world : Task σ σ := do return (← getThe (Session σ)).world

/-- Changes the surroundings. -/
def update (f : σ → σ) : Task σ Unit :=
  modifyThe (Session σ) fun session => { session with world := f session.world }

/-- Leaves a notice. -/
def note (notice : Notice) : Task σ Unit :=
  modifyThe (Session σ) fun session => { session with notices := session.notices ++ [notice] }

/-- Leaves a notice for information. -/
def info (topic : Topic) (text : WideText) : Task σ Unit := note { level := .info, topic, text }

/-- Leaves a warning. -/
def warn (topic : Topic) (text : WideText) : Task σ Unit := note { level := .warning, topic, text }

/-- The outcome of a task, a fault among them. -/
def attempt (t : Task σ α) : Task σ (Except Fault α) :=
  ExceptT.mk do return .ok (← t.run)

/-- A task in a part of the surroundings. -/
def within {τ : Type} (part : σ → τ) (put : τ → σ → σ) (t : Task τ α) : Task σ α :=
  ExceptT.mk fun session =>
    let (result, inner) := t.run.run ⟨part session.world, session.notices⟩
    (result, ⟨put inner.world session.world, inner.notices⟩)

/-- Ends in a named failure. -/
def fail (f : Failure) : Task σ α := throw (.failure f)

/-! ### Running step by step -/

@[simp] theorem runIn_pure (a : α) (session : Session σ) :
    (pure a : Task σ α).runIn session = (.ok a, session) := rfl

@[simp] theorem runIn_throw (e : Fault) (session : Session σ) :
    (throw e : Task σ α).runIn session = (.error e, session) := rfl

theorem runIn_bind (t : Task σ α) (next : α → Task σ β) (session : Session σ) :
    (t >>= next).runIn session =
      match t.runIn session with
      | (.ok a, after) => (next a).runIn after
      | (.error e, after) => (.error e, after) := by
  simp only [runIn, ExceptT.run_bind, StateT.run_bind]
  show (match t.run.run session with | (result, after) => _ : Except Fault β × Session σ) = _
  rcases t.run.run session with ⟨_ | _, _⟩ <;> rfl

@[simp] theorem runIn_world (session : Session σ) :
    (world : Task σ σ).runIn session = (.ok session.world, session) := rfl

@[simp] theorem runIn_update (f : σ → σ) (session : Session σ) :
    (update f).runIn session = (.ok (), { session with world := f session.world }) := rfl

@[simp] theorem runIn_note (notice : Notice) (session : Session σ) :
    (note notice : Task σ Unit).runIn session =
      (.ok (), { session with notices := session.notices ++ [notice] }) := rfl

@[simp] theorem runIn_attempt (t : Task σ α) (session : Session σ) :
    t.attempt.runIn session = (.ok (t.runIn session).1, (t.runIn session).2) := rfl

@[simp] theorem runIn_fail (f : Failure) (session : Session σ) :
    (fail f : Task σ α).runIn session = (.error (.failure f), session) := rfl

end Task

end ContractOps
