import ContractOps.Encoding.Utf8
import ContractOps.Text.Split

/-!
# Paths

Paths are texts whose parts are separated by slashes. Joining a path to a folder puts one slash
between them, unless the path starts with a slash of its own and so needs no folder. Parts are
written in UTF-8, and an octet that is none is shown as half of a surrogate pair.
-/

namespace ContractOps.Path

/-- A path within a folder. -/
def join (folder path : WideText) : WideText :=
  if path.head? = some (.char '/') then path
  else if folder.isEmpty || folder.getLast? = some (.char '/') then folder ++ path
  else folder ++ "/" ++ path

/-- A path within several folders, one in the other. -/
def joinAll (folder : WideText) (paths : List WideText) : WideText := paths.foldl join folder

/-- What stands before the last part, without the slashes at its end. A path whose only part it is
has nothing there, and the root stays what it is. -/
def folder (path : WideText) : WideText :=
  let front := path.reverse.dropWhile (· != .char '/')
  let trimmed := front.dropWhile (· == .char '/')
  (if trimmed.isEmpty then front else trimmed).reverse

/-- The parts of a path, empty ones among them. -/
def parts (path : WideText) : List WideText := Text.split (.char '/') path

/-- Whether a code point stands for a single octet that is no UTF-8: half of a surrogate pair from
U+DC80 to U+DCFF does. -/
def isRawOctet : CodePoint → Bool
  | .char _ => false
  | .half n => 0x480 ≤ n.val && n.val ≤ 0x4ff

/-- How many octets a part has. -/
def partSize (part : WideText) : Nat :=
  (part.map fun c => if isRawOctet c then 1 else (Utf8.encodePoint c.toNat).length).foldr
    (· + ·) 0

/-- The most octets that a part may have. -/
def maxPart : Nat := 255

/-- Where a path holds a half of a surrogate pair that stands for no octet. -/
def flaw? (path : WideText) : Option EncodeFlaw :=
  Utf8.halves? 0 (path.map fun c => if isRawOctet c then .char '?' else c)

end ContractOps.Path
