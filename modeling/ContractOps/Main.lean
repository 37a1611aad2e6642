import ContractOps.Command.Run
import ContractOps.Encoding.Gzip
import Std.Time.DateTime.Timestamp

/-!
# The program

    find … -type f | contract-ops <store|call|capture> <chain id> <argument> …

A command runs on the files whose paths come from standard input, one on a line, and writes those
that it changes. Signing and transport are left to others: the program rehearses a command with
the answers recorded in the file that `CONTRACT_OPS_ANSWERS` names, a JSON list of objects with a
`status` and a `text`. Notices go to standard error.
-/

namespace ContractOps.Main

/-- The paths on the lines of a stream. -/
partial def readPaths (input : IO.FS.Stream) (paths : List String) : IO (List String) := do
  let line ← input.getLine
  if line.isEmpty then return paths.reverse
  let path := line.trimAscii.toString
  readPaths input (if path.isEmpty then paths else path :: paths)

/-- The files under some paths. -/
def readFiles (paths : List String) : IO Workspace := do
  let files ← paths.mapM fun (path : String) => do
    return (WideText.ofString path, (← IO.FS.readBinFile path).toList)
  return Workspace.ofFiles files

/-- Where the files of the workspace lie. -/
def readPlaces : IO Command.Places := do
  let usual : Command.Places := {}
  let named (name place : String) : IO String := do return (← IO.getEnv name).getD place
  return {
    config := ← named "CONTRACT_OPS_CONFIG" usual.config
    wallets := ← named "CONTRACT_OPS_WALLETS" usual.wallets
    artifacts := ← named "CONTRACT_OPS_ARTIFACTS" usual.artifacts
    snapshots := ← named "CONTRACT_OPS_SNAPSHOTS" usual.snapshots
    records := ← named "CONTRACT_OPS_RECORDS" usual.records }

/-- The answers that a text records. -/
def answersOf (text : String) : List (Except Fault Response) :=
  match Json.read text with
  | .ok (.arr answers) => answers.map Response.ofJson
  | _ => []

/-- The network with the recorded answers. -/
def readNetwork : IO Network := do
  let answers ← match ← IO.getEnv "CONTRACT_OPS_ANSWERS" with
    | some path => do pure (answersOf (← IO.FS.readFile path))
    | none => pure []
  let account : Account := { number := .int 0, sequence := .int 0 }
  return { answers, account := .ok account, signed := [], events := [] }

/-- The address of a wallet in a rehearsal: it depends on the mnemonic and does not show it. -/
def rehearsedAddress (mnemonic addressPrefix : Json) : Except Fault WideText :=
  let digest := Sha256.hex (Utf8.ofString mnemonic.display.shown)
  .ok (addressPrefix.display ++ "1" ++ (digest.take 38).toString)

/-- Writes the files that differ from those before. -/
def writeFiles (before after : Workspace) : IO Unit := do
  for (name, bytes) in after.files do
    if Workspace.lookUp name before.files != some bytes then
      let parts := name.map WideText.shown
      IO.FS.createDirAll ("/".intercalate parts.dropLast)
      IO.FS.writeBinFile ("/".intercalate parts) ⟨bytes.toArray⟩

/-- A notice as a line of the log. -/
def line (n : Notice) : String :=
  let level := match n.level with
    | .info => "INFO"
    | .warning => "WARNING"
    | .error => "ERROR"
  let cause := match n.fault with
    | some e => ": " ++ e.message.shown
    | none => ""
  s!"{level} {n.text.shown}{cause}"

/-- Runs a command. -/
def runCommand (name : Command.Name) (arguments : List String) : IO UInt32 := do
  let files ← readFiles (← readPaths (← IO.getStdin) [])
  let now ← Std.Time.Timestamp.now
  let setup : Command.Setup := {
    places := ← readPlaces
    now := Moment.ofSeconds now.toSecondsSinceUnixEpoch.val
    compress := Gzip.compress
    addressOf := rehearsedAddress }
  let (status, session) := Command.run setup name arguments ⟨files, ← readNetwork⟩
  writeFiles files session.world.files
  for notice in session.notices do
    IO.eprintln (line notice)
  return status.toUInt32

end ContractOps.Main

/-- Runs the command that the arguments name. -/
def main (arguments : List String) : IO UInt32 := do
  match arguments with
  | name :: rest =>
    match ContractOps.Command.Name.of? name with
    | some command => ContractOps.Main.runCommand command rest
    | none => do
      IO.eprintln s!"unknown command: {name}"
      return 2
  | [] => do
    IO.eprintln "usage: contract-ops <store|call|capture> <chain id> <argument> …"
    return 2
