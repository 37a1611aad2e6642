import ContractOps.Command.Arguments
import ContractOps.Command.Setup
import ContractOps.Query
import ContractOps.Users

/-!
# The command that captures the users

    <chain id>

The whole list of users is read from the platform and written into a snapshot, those with the
highest return first. Pages that could not be read are missing in it, which the log says.
-/

namespace ContractOps.Command

/-- How many users a page holds. -/
def usersPerPage : Int := 200

/-- The path of a snapshot: under the name of the chain in small letters and the type of the
option. -/
def snapshotPath (folder : WideText) (name set : Json) (file : WideText) : Except Fault WideText :=
  match name with
  | .str name =>
    match set with
    | .str set => .ok (Path.joinAll folder [Text.lowercase name, set, file])
    | _ => .error (.type .mismatch)
  | v => .error (.noMembers v.kind)

/-- Notices what is missing in a list of users. -/
def warnPartial (users : Listing Json) : Task World Unit :=
  if users.complete then return ()
  else
    Task.warn .captureCommand (s!"User list is partial: {users.failures.length} failed pages, " ++
      s!"exhausted={(Json.bool users.exhausted).literal}")

/-- Writes a snapshot. The file is emptied before its new text is put together. -/
def writeSnapshot (path : WideText) (users : List Json) : Task World Unit := do
  changeFiles fun files => files.makeFolders (Path.folder path)
  changeFiles fun files => files.write path []
  let shown ← Users.formatAll (.arr users)
  changeFiles fun files => files.write path (Utf8.ofString (Json.arr shown).indentedAscii)

/-- Captures the users. -/
def capture (s : Setup) (arguments : List String) : Task World Unit := do
  let (chainId, _) ← parseStore arguments
  let chain ← Config.findOption (← loadConfig s) (.str chainId)
  let contracts ← chain.option.getD "CONTRACTS" (.arr [])
  let platform ← Config.findContract contracts (.str "platform")
  let client ← Client.ofOption chain.option none
  let address ← platform.getD "ADDRESS" (.str "")
  let asker : Query.Asker World := fun address message => onNetwork (client.query address message)
  let users ← Query.allUsers asker address (.int usersPerPage) (.int Listing.iterLimit)
  warnPartial users
  let set ← chain.option.member "TYPE"
  let path ← snapshotPath s.places.snapshots chain.name set "users.json"
  writeSnapshot path users.items
  Task.info .captureCommand <| s!"{users.items.length} users saved to " ++ path

end ContractOps.Command
