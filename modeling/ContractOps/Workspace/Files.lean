import ContractOps.Encoding.Utf8
import ContractOps.Fault
import ContractOps.Text.Lines
import ContractOps.Workspace.Path

/-!
# The files of a workspace

A workspace holds files and folders under names. A path is followed part by part from the top:
every part but the last has to lead to a folder (`Workspace.locate`). What a file holds is read as
octets or as text, and written as a whole.
-/

namespace ContractOps

/-- Files with their octets, and folders, by their names from the top. -/
structure Workspace where
  files : List (List WideText × Bytes)
  folders : List (List WideText)

namespace Workspace

/-- What has a name. -/
inductive Kind where
  | file (bytes : Bytes)
  | folder
  | nothing
deriving DecidableEq

/-- The folders on the way to a name. -/
def above : List WideText → List (List WideText)
  | [] => []
  | part :: parts => [] :: (above parts).map (part :: ·)

/-- A workspace with the given files, and the folders that they need. -/
def ofFiles (files : List (WideText × Bytes)) : Workspace :=
  let named := files.map fun f => (Path.parts f.1, f.2)
  { files := named, folders := [] :: named.flatMap fun f => above f.1 }

/-- The octets of the file with a name. -/
def lookUp (name : List WideText) : List (List WideText × Bytes) → Option Bytes
  | [] => none
  | (other, bytes) :: rest => if other = name then some bytes else lookUp name rest

/-- What has a name. -/
def kind (w : Workspace) (name : List WideText) : Kind :=
  match lookUp name w.files with
  | some bytes => .file bytes
  | none => if name = [] ∨ name ∈ w.folders then .folder else .nothing

/-- Follows the parts of a path from a name. -/
def follow (w : Workspace) (name : List WideText) : List WideText → Except FileFault (List WideText)
  | [] => .ok name
  | part :: parts =>
    match w.kind name with
    | .file _ => .error .notDirectory
    | .nothing => .error .notFound
    | .folder =>
      if Path.partSize part > Path.maxPart then .error .nameTooLong
      else if part = [] ∨ part = "." then follow w name parts
      else if part = ".." then follow w name.dropLast parts
      else follow w (name ++ [part]) parts

/-- The name that a path leads to, in an existing folder. -/
def locate (w : Workspace) (path : WideText) : Except FileFault (List WideText) :=
  if path.isEmpty then .error .notFound else w.follow [] (Path.parts path)

/-- A fault with the path it concerns. -/
def fault {α : Type} (path : WideText) : Except FileFault α → Except Fault α
  | .ok a => .ok a
  | .error e => .error (.file e path)

/-- A path that can name a file. -/
def checkPath (path : WideText) : Except Fault Unit :=
  match Path.flaw? path with
  | some flaw => .error (.value (.unencodable flaw))
  | none => if path.contains (.char '\x00') then .error (.value .embeddedNull) else .ok ()

/-- The octets of a file. -/
def read (w : Workspace) (path : WideText) : Except Fault Bytes := do
  checkPath path
  fault path do
    match w.kind (← w.locate path) with
    | .file bytes => return bytes
    | .folder => throw .isDirectory
    | .nothing => throw .notFound

/-- The text of a file, with every line end as a line feed. -/
def readText (w : Workspace) (path : WideText) : Except Fault (List Char) := do
  match Utf8.decode? (← w.read path) with
  | some cs => return Text.unifyLines cs
  | none => throw .notUtf8

/-- Whether a path leads to a file or a folder. -/
def has (w : Workspace) (path : WideText) : Bool :=
  match checkPath path, w.locate path with
  | .ok _, .ok name => w.kind name != .nothing
  | _, _ => false

/-- Files with one of them replaced, or with another one at the end. -/
def replace (name : List WideText) (bytes : Bytes) :
    List (List WideText × Bytes) → List (List WideText × Bytes)
  | [] => [(name, bytes)]
  | (other, old) :: rest =>
    if other = name then (name, bytes) :: rest else (other, old) :: replace name bytes rest

/-- The workspace with a file written, in an existing folder. -/
def write (w : Workspace) (path : WideText) (bytes : Bytes) : Except Fault Workspace := do
  checkPath path
  fault path do
    let name ← w.locate path
    match w.kind name with
    | .folder => throw .isDirectory
    | _ => return { w with files := replace name bytes w.files }

/-- The workspace with a folder of a name, in an existing folder. -/
def makeFolder (w : Workspace) (name : List WideText) : Except FileFault Workspace :=
  match w.kind name with
  | .file _ => .error .occupied
  | .folder => .ok w
  | .nothing => .ok { w with folders := w.folders ++ [name] }

/-- The workspace with the folders on the way from a name along parts, and the last of them. A
file in the place of the last one occupies it; a file on the way to it is no folder. -/
def makeAlong (w : Workspace) (name : List WideText) : List WideText → Except FileFault Workspace
  | [] => w.makeFolder name
  | part :: parts =>
    match w.makeFolder name with
    | .error _ => .error .notDirectory
    | .ok w =>
      if Path.partSize part > Path.maxPart then .error .nameTooLong
      else if part = [] ∨ part = "." then makeAlong w name parts
      else if part = ".." then makeAlong w name.dropLast parts
      else makeAlong w (name ++ [part]) parts

/-- The workspace with a folder and all folders on the way to it. -/
def makeFolders (w : Workspace) (path : WideText) : Except Fault Workspace := do
  checkPath path
  fault path (if path.isEmpty then throw .notFound else w.makeAlong [] (Path.parts path))

end Workspace

end ContractOps
