import ContractOps.Json.Printer
import ContractOps.Workspace.Files

/-!
# The configuration as a file

The configuration is read from UTF-8 text, in which line ends of every system count as one, and is
written over several lines with all characters as they are.
-/

namespace ContractOps.Config

/-- The configuration that a text holds. -/
def ofWide (cs : WideText) : Except Fault Json :=
  match Json.read cs with
  | .ok v => .ok v
  | .error e => .error (.json e)

/-- The configuration that a text with line ends of any kind holds. -/
def ofText (text : String) : Except Fault Json := ofWide (.ofChars (Text.unifyLines text.toList))

/-- The configuration in a file. -/
def load (w : Workspace) (path : WideText) : Except Fault Json := do
  ofWide (.ofChars (← w.readText path))

/-- The text of a configuration. -/
def toText (config : Json) : WideText := config.indented

/-- The octets of a configuration, which may hold no half of a surrogate pair. -/
def toBytes (config : Json) : Except Fault Bytes :=
  match Utf8.encodeWide (toText config) with
  | .ok bytes => .ok bytes
  | .error flaw => .error (.value (.unencodable flaw))

/-- The workspace with a configuration in a file. -/
def save (w : Workspace) (path : WideText) (config : Json) : Except Fault Workspace := do
  w.write path (← toBytes config)

end ContractOps.Config
