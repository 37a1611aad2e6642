import ContractOps.Command.Call
import ContractOps.Command.Capture
import ContractOps.Command.Store

/-!
# Running commands

A command that fails ends with status 1. A named failure is told in one line; any other fault is
noted with the fault itself. The arguments are strings, without halves of surrogate pairs.
-/

namespace ContractOps.Command

/-- The commands. -/
inductive Name where
  | store
  | call
  | capture
deriving DecidableEq, Repr

/-- The command with a name. -/
def Name.of? (name : String) : Option Name :=
  if name = "store" then some .store
  else if name = "call" then some .call
  else if name = "capture" then some .capture
  else none

/-- What a command does. -/
def Name.task (s : Setup) : Name → List String → Task World Unit
  | store => Command.store s
  | call => Command.call s
  | capture => Command.capture s

/-- The notice of a fault that ends a command. -/
def ending : Fault → Notice
  | .failure f =>
    { level := .error, topic := .command, text := f.family.name ++ ": " ++ f.message }
  | e => { level := .error, topic := .command, text := "Unexpected error", fault := some e }

/-- Runs a task and gives its exit status. -/
def exitStatus (t : Task World Unit) : Task World Nat := do
  match ← t.attempt with
  | .ok _ => return 0
  | .error e => do
    Task.note (ending e)
    return 1

/-- Runs a command with its arguments. Gives the exit status, what the files and the network look
like afterwards, and the notices. -/
def run (s : Setup) (name : Name) (arguments : List String) (world : World) :
    Nat × Session World :=
  match Task.start (exitStatus (name.task s arguments)) world with
  | (.ok status, session) => (status, session)
  | (.error _, session) => (1, session)

end ContractOps.Command
