import ContractOps.Json.Access
import ContractOps.Task

/-!
# Listings page by page

A listing is read in pages: a request names a cursor and a limit, and the page holds the items
after the cursor. There is no mark for the end, so that a page as long as the limit is taken to
mean that more may follow; a listing whose last page is full costs one more request. A page that
cannot be read or gives no cursor is dropped and recorded, and the next request starts from the
last good cursor.
-/

namespace ContractOps

/-- A page that was dropped: the number of the request, its cursor, and why. -/
structure PageFailure where
  iteration : Nat
  cursor : Json
  cause : Fault

/-- The wording of a dropped page. -/
def PageFailure.message (f : PageFailure) : WideText :=
  s!"page {f.iteration} (start_after={f.cursor.literal}) failed: " ++ f.cause.message

/-- What was read of a listing. -/
structure Listing (α : Type) where
  items : List α := []
  failures : List PageFailure := []
  /-- How many requests were made. -/
  iterations : Nat := 0
  /-- A page shorter than the limit was received. -/
  exhausted : Bool := false

namespace Listing

variable {σ α : Type}

/-- The greatest number of items in a page, unless another limit is given. -/
def maxLimit : Int := 100

/-- The greatest number of requests, unless another one is given. -/
def iterLimit : Int := 50

/-- Everything was read, and no page was dropped. -/
def complete (l : Listing α) : Bool := l.exhausted && l.failures.isEmpty

/-- The items and the cursor of the next request, if the page could be read. -/
def page (fetch : Json → Json → Task σ (List α)) (cursorOf : α → Except Fault Json)
    (cursor limit : Json) : Task σ (Except Fault (List α × Json)) :=
  Task.attempt do
    let items ← fetch cursor limit
    match items.getLast? with
    | some last => return (items, ← cursorOf last)
    | none => return (items, cursor)

/-- Requests pages until one is not as long as the limit, at most `rounds` more of them. -/
def walk (fetch : Json → Json → Task σ (List α)) (cursorOf : α → Except Fault Json)
    (limit : Json) : Nat → Json → Listing α → Task σ (Listing α)
  | 0, _, soFar => do
    Task.warn .listing
      s!"Pagination stopped at {soFar.iterations} iterations with {soFar.items.length} items"
    return soFar
  | rounds + 1, cursor, soFar => do
    let iteration := soFar.iterations + 1
    match ← page fetch cursorOf cursor limit with
    | .error cause =>
      let failure : PageFailure := { iteration, cursor, cause }
      Task.warn .listing failure.message
      walk fetch cursorOf limit rounds cursor
        { soFar with iterations := iteration, failures := soFar.failures ++ [failure] }
    | .ok (items, next) =>
      let read := { soFar with iterations := iteration, items := soFar.items ++ items }
      if (Json.int items.length).same limit then walk fetch cursorOf limit rounds next read
      else return { read with exhausted := true }

/-- How many requests a limit on requests allows. Without a finite limit there are more of them than
anybody makes, and what is no number allows none. -/
def roundsOf (iterLimit : Json) : Except Fault Nat := do
  match iterLimit with
  | .str _ => throw (.type .mismatch)
  | .float (.infinite negative) => return if negative then 0 else Nat.pow 2 64
  | .float .nan => return 0
  | n => return (← n.ceil).toNat

/-- Reads a listing from its start. -/
def collect (fetch : Json → Json → Task σ (List α)) (cursorOf : α → Except Fault Json)
    (limit iterLimit : Json) : Task σ (Listing α) := do
  walk fetch cursorOf limit (← roundsOf iterLimit) .null {}

/-- Literal notation of a listing, for the log. -/
def literal (l : Listing Json) : String :=
  let failures := l.failures.map fun f => s!"PageFetchFailure({Text.quoted f.message})"
  s!"PageResult(items={(Json.arr l.items).literal}, failures=[" ++ ", ".intercalate failures ++
    s!"], iterations={l.iterations}, exhausted={(Json.bool l.exhausted).literal})"

end Listing

end ContractOps
