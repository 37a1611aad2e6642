import ContractOps.Workspace.Files

/-!
# Compiled code in files

The compiled code of contracts lies in the files of one folder.
-/

namespace ContractOps.Storage

/-- The path of a file in a folder. -/
def artifactPath (folder : WideText) (name : Json) : Except Fault WideText :=
  match name with
  | .str s => .ok (Path.join folder s)
  | _ => .error (.type .mismatch)

/-- The octets of a file in a folder. That it cannot be read is a failure with the path and the
reason. -/
def readArtifact (w : Workspace) (folder : WideText) (name : Json) : Except Fault Bytes := do
  let path ← artifactPath folder name
  match w.read path with
  | .error (.file f p) => throw (.failure (.artifactUnreadable path (f.message p)))
  | result => result

end ContractOps.Storage
