import ContractOps.Proofs.Json.Same
import ContractOps.Proofs.Listing.Walk
import ContractOps.Query
import Mathlib.Order.Defs.Unbundled

/-!
# Listings that change while they are read

A contract lists entries in the order of their keys. Between two requests anything may happen to
the entries, and any request may fail (`Course`). What is read in the end can then be no snapshot,
but it is in order, and it misses nothing that was there all the time: neither of the whole listing,
if the end was reached, nor of the part that was walked (`Reads`).

The walk keeps this up to its cursor, request by request (`Walked`). `Listing.collect_reads` carries
it through a whole run, for anything that answers with pages of a course (`Serves`).
-/

namespace ContractOps.Listing

variable {before : WideText → WideText → Prop} {cursorOf : Json → Except Fault Json}

/-! ## What a contract lists -/

/-- The entries of a listing at one moment: items under keys, in the order of the keys. The cursor
of an item is its key. -/
structure Entries (before : WideText → WideText → Prop) (cursorOf : Json → Except Fault Json) where
  items : List (WideText × Json)
  increasing : items.Pairwise fun a b => before a.1 b.1
  keyed : ∀ entry ∈ items, cursorOf entry.2 = .ok (.str entry.1)

/-- What happens to a listing: its entries at every request, and the faults of those requests that
fail. -/
structure Course (before : WideText → WideText → Prop) (cursorOf : Json → Except Fault Json) where
  entries : Nat → Entries before cursorOf
  fault : Nat → Option Fault

namespace Entries

/-- The keys of the entries. -/
def keys (e : Entries before cursorOf) : List WideText := e.items.map Prod.fst

variable [DecidableRel before]

/-- Whether a key comes after a cursor. Without a cursor all of them do. -/
def isAfter (before : WideText → WideText → Prop) [DecidableRel before] : Json → WideText → Bool
  | .str cursor, key => before cursor key
  | _, _ => true

/-- The first entries after a cursor, as many as there are but at most so many. -/
def page (e : Entries before cursorOf) (cursor : Json) (limit : Nat) : List (WideText × Json) :=
  (e.items.filter fun entry => isAfter before cursor entry.1).take limit

theorem page_sublist (e : Entries before cursorOf) (cursor : Json) (limit : Nat) :
    (e.page cursor limit).Sublist e.items :=
  (List.take_sublist _ _).trans List.filter_sublist

theorem mem_of_mem_page {e : Entries before cursorOf} {cursor : Json} {limit : Nat}
    {entry : WideText × Json} (h : entry ∈ e.page cursor limit) :
    entry ∈ e.items ∧ isAfter before cursor entry.1 := by
  have := List.mem_of_mem_take h
  exact List.mem_filter.mp this

/-- A page that is not full holds all that comes after the cursor. -/
theorem mem_page_of_length_lt {e : Entries before cursorOf} {cursor : Json} {limit : Nat}
    {entry : WideText × Json} (hshort : (e.page cursor limit).length < limit)
    (hmem : entry ∈ e.items) (hafter : isAfter before cursor entry.1) :
    entry ∈ e.page cursor limit := by
  have hlen : (e.items.filter fun entry => isAfter before cursor entry.1).length ≤ limit := by
    rw [page, List.length_take] at hshort
    omega
  rw [page, List.take_of_length_le hlen]
  exact List.mem_filter.mpr ⟨hmem, hafter⟩

/-- A page leaves out nothing between the cursor and its last entry. -/
theorem mem_page_of_not_before {e : Entries before cursorOf} {cursor : Json} {limit : Nat}
    {entry last : WideText × Json} (hlast : last ∈ (e.page cursor limit).getLast?)
    (hmem : entry ∈ e.items) (hafter : isAfter before cursor entry.1)
    (hle : ¬ before last.1 entry.1) : entry ∈ e.page cursor limit := by
  rw [page] at hlast ⊢
  have hfiltered : entry ∈ e.items.filter fun entry => isAfter before cursor entry.1 :=
    List.mem_filter.mpr ⟨hmem, hafter⟩
  have hsorted := e.increasing.filter fun entry => isAfter before cursor entry.1
  generalize e.items.filter (fun entry => isAfter before cursor entry.1) = rest at *
  -- what follows the page comes after all that is on it
  rw [← List.take_append_drop limit rest] at hfiltered hsorted
  rcases List.mem_append.mp hfiltered with h | h
  · exact h
  · have hlast' := List.mem_of_getLast? hlast
    exact absurd ((List.pairwise_append.mp hsorted).2.2 last hlast' entry h) hle

end Entries

/-! ## What was read -/

/-- What a walk over a course has read after so many requests: its items have keys in strictly
increasing order, and a key that was there at every answered request is among them, provided that
the end was reached or the key does not come after the last one read. -/
structure Reads (course : Course before cursorOf) (requests : Nat) (l : Listing Json)
    (keys : List WideText) : Prop where
  keyed : l.items.map cursorOf = keys.map fun key => .ok (.str key)
  increasing : keys.Pairwise before
  requested : l.iterations = requests
  complete : ∀ key,
    (∀ i < requests, course.fault i = none → key ∈ (course.entries i).keys) →
    (l.exhausted = true ∨ ∃ last ∈ keys.getLast?, ¬ before last key) → key ∈ keys

/-- The cursor after some keys: the last of them. -/
def cursorAfter (keys : List WideText) : Json :=
  match keys.getLast? with
  | some last => .str last
  | none => .null

/-- What holds before the next request: the end has not been reached, and the cursor is the last key
read. -/
structure Walked (course : Course before cursorOf) (requests : Nat) (cursor : Json)
    (l : Listing Json) (keys : List WideText) : Prop extends Reads course requests l keys where
  cursor_eq : cursor = cursorAfter keys
  open_ : l.exhausted = false

/-- The first request has no cursor. -/
theorem Walked.start (course : Course before cursorOf) : Walked course 0 .null {} [] where
  keyed := rfl
  increasing := .nil
  requested := rfl
  complete := by simp
  cursor_eq := rfl
  open_ := rfl

/-- A failed request is recorded and changes nothing else. -/
theorem Walked.fail {course : Course before cursorOf} {requests : Nat} {cursor : Json}
    {l : Listing Json} {keys : List WideText} (h : Walked course requests cursor l keys)
    (failures : List PageFailure) :
    Walked course (requests + 1) cursor
      { l with iterations := l.iterations + 1, failures := failures } keys where
  keyed := h.keyed
  increasing := h.increasing
  requested := by rw [h.requested]
  complete key hkey hreached :=
    h.complete key (fun i hi => hkey i (Nat.lt_succ_of_lt hi)) hreached
  cursor_eq := h.cursor_eq
  open_ := h.open_

/-- In a list in order, everything but the last entry comes before it. -/
theorem eq_or_before_getLast {keys : List WideText} {last key : WideText}
    (hsorted : keys.Pairwise before) (hlast : last ∈ keys.getLast?) (hkey : key ∈ keys) :
    key = last ∨ before key last := by
  obtain ⟨front, rfl⟩ := List.getLast?_eq_some_iff.mp hlast
  rcases List.mem_append.mp hkey with h | h
  · exact .inr ((List.pairwise_append.mp hsorted).2.2 key h last (by simp))
  · exact .inl (by simpa using h)

section Page

variable [DecidableRel before] [IsTrans WideText before]
variable {course : Course before cursorOf} {requests limit : Nat} {cursor : Json}
  {l : Listing Json} {keys : List WideText}

/-- What stands on a page comes after all that was read before. -/
theorem Walked.before_page (h : Walked course requests cursor l keys) {key : WideText}
    {entry : WideText × Json} (hkey : key ∈ keys)
    (hentry : entry ∈ (course.entries requests).page cursor limit) : before key entry.1 := by
  obtain ⟨last, hlast⟩ : ∃ last, keys.getLast? = some last := by
    cases hk : keys.getLast? with
    | none => rw [List.getLast?_eq_none_iff.mp hk] at hkey; cases hkey
    | some last => exact ⟨last, rfl⟩
  have hcursor : cursor = .str last := by rw [h.cursor_eq, cursorAfter, hlast]
  have hafter : before last entry.1 := by
    have := (Entries.mem_of_mem_page hentry).2
    simpa [hcursor, Entries.isAfter] using this
  rcases eq_or_before_getLast h.increasing hlast hkey with rfl | hbefore
  · exact hafter
  · exact IsTrans.trans _ _ _ hbefore hafter

/-- A page adds what was read, and misses nothing up to where it ends. -/
theorem Walked.read (h : Walked course requests cursor l keys) (limit : Nat) (exhausted : Bool)
    (hfault : course.fault requests = none)
    (hend : exhausted = true → ((course.entries requests).page cursor limit).length < limit) :
    Reads course (requests + 1)
      { l with
        iterations := l.iterations + 1
        items := l.items ++ ((course.entries requests).page cursor limit).map Prod.snd
        exhausted }
      (keys ++ ((course.entries requests).page cursor limit).map Prod.fst) where
  keyed := by
    simp only [List.map_append, List.map_map, h.keyed]
    congr 1
    apply List.map_congr_left
    intro entry hentry
    exact (course.entries requests).keyed entry (Entries.mem_of_mem_page hentry).1
  increasing := by
    refine List.pairwise_append.mpr ⟨h.increasing, ?_, ?_⟩
    · have hpage := (course.entries requests).increasing.sublist
        ((course.entries requests).page_sublist cursor limit)
      exact List.pairwise_map.mpr hpage
    · intro key hkey key' hkey'
      obtain ⟨entry, hentry, rfl⟩ := List.mem_map.mp hkey'
      exact h.before_page hkey hentry
  requested := by rw [h.requested]
  complete key hkey hreached := by
    obtain ⟨entry, hentry, rfl⟩ := List.mem_map.mp (hkey requests (Nat.lt_succ_self _) hfault)
    by_cases hafter : Entries.isAfter before cursor entry.1 = true
    · -- what comes after the cursor can only be on the page
      refine List.mem_append_right _ (List.mem_map.mpr ⟨entry, ?_, rfl⟩)
      rcases hreached with hexhausted | ⟨last, hlast, hle⟩
      · exact Entries.mem_page_of_length_lt (hend hexhausted) hentry hafter
      · cases hpage : ((course.entries requests).page cursor limit).getLast? with
        | none =>
          rw [List.getLast?_eq_none_iff.mp hpage, List.map_nil, List.append_nil] at hlast
          have hcursor : cursor = .str last := by rw [h.cursor_eq, cursorAfter, hlast]
          exact absurd (by simpa [hcursor, Entries.isAfter] using hafter) hle
        | some final =>
          have hfinal : last = final.1 := by
            rw [List.getLast?_append, List.getLast?_map, hpage] at hlast
            simpa using hlast.symm
          exact Entries.mem_page_of_not_before hpage hentry hafter (hfinal ▸ hle)
    · -- what does not was already met before the cursor
      refine List.mem_append_left _ (h.complete entry.1 ?_ (.inr ?_))
      · intro i hi
        exact hkey i (Nat.lt_succ_of_lt hi)
      · rw [h.cursor_eq, cursorAfter] at hafter
        cases hlast : keys.getLast? with
        | none => simp [hlast, Entries.isAfter] at hafter
        | some last => exact ⟨last, rfl, by simpa [hlast, Entries.isAfter] using hafter⟩

omit [IsTrans WideText before] in
/-- After a page, the cursor is the last key read. -/
theorem Walked.cursorAfter_append (h : Walked course requests cursor l keys) :
    cursorAfter (keys ++ ((course.entries requests).page cursor limit).map Prod.fst) =
      match ((course.entries requests).page cursor limit).getLast? with
      | some last => .str last.1
      | none => cursor := by
  rw [cursorAfter, List.getLast?_append, List.getLast?_map]
  cases ((course.entries requests).page cursor limit).getLast? with
  | none => exact h.cursor_eq.symm
  | some last => rfl

end Page

/-! ## Walking -/

section Walk

variable [DecidableRel before]
variable {fetch : Json → Json → Task Nat (List Json)} {course : Course before cursorOf}

/-- What requests pages of a course, one request after the other: the number of requests made so far
is all that it works on. -/
def Serves (course : Course before cursorOf) (fetch : Json → Json → Task Nat (List Json)) : Prop :=
  ∀ (cursor : Json) (limit : Int) (requests : Nat) (notices : List Notice),
    (fetch cursor (.int limit)).runIn ⟨requests, notices⟩ =
      (match course.fault requests with
        | some fault => .error fault
        | none => .ok (((course.entries requests).page cursor limit.toNat).map Prod.snd),
        ⟨requests + 1, notices⟩)

theorem Serves.runIn_page_error (h : Serves course fetch) (cursor : Json) (limit : Int)
    {requests : Nat} (notices : List Notice) {fault : Fault}
    (hfault : course.fault requests = some fault) :
    (page fetch cursorOf cursor (.int limit)).runIn ⟨requests, notices⟩ =
      (.ok (.error fault), ⟨requests + 1, notices⟩) := by
  have hfetch := h cursor limit requests notices
  rw [hfault] at hfetch
  exact runIn_page hfetch

theorem Serves.runIn_page_ok (h : Serves course fetch) (cursor : Json) (limit : Int)
    {requests : Nat} (notices : List Notice) (hfault : course.fault requests = none) :
    (page fetch cursorOf cursor (.int limit)).runIn ⟨requests, notices⟩ =
      (.ok (.ok (((course.entries requests).page cursor limit.toNat).map Prod.snd,
        match ((course.entries requests).page cursor limit.toNat).getLast? with
        | some last => .str last.1
        | none => cursor)), ⟨requests + 1, notices⟩) := by
  have hfetch := h cursor limit requests notices
  rw [hfault] at hfetch
  rw [runIn_page hfetch]
  cases hlast : ((course.entries requests).page cursor limit.toNat).getLast? with
  | none =>
    rw [List.getLast?_eq_none_iff] at hlast
    rw [hlast]
    rfl
  | some last =>
    have hkeyed := (course.entries requests).keyed last
      (Entries.mem_of_mem_page (List.mem_of_getLast? hlast)).1
    rw [turn_of_getLast? (by rw [List.getLast?_map, hlast]; rfl) hkeyed]

/-- A walk keeps what holds before each of its requests, and ends where the end is reached or no
request is left. -/
theorem Serves.walk_reads [IsTrans WideText before] (h : Serves course fetch) {limit : Int}
    (hlimit : 1 ≤ limit) (rounds : Nat) {requests : Nat} {cursor : Json} {soFar : Listing Json}
    {keys : List WideText} (notices : List Notice)
    (hwalked : Walked course requests cursor soFar keys) :
    ∃ l keys' requests' notices',
      (walk fetch cursorOf (.int limit) rounds cursor soFar).runIn ⟨requests, notices⟩ =
        (.ok l, ⟨requests', notices'⟩) ∧
      Reads course requests' l keys' ∧ (l.exhausted = false → requests' = requests + rounds) := by
  induction rounds generalizing requests cursor soFar keys notices with
  | zero => exact ⟨_, _, _, _, rfl, hwalked.toReads, fun _ => rfl⟩
  | succ rounds ih =>
    cases hfault : course.fault requests with
    | some fault =>
      rw [runIn_walk_dropped (h.runIn_page_error cursor limit notices hfault)]
      obtain ⟨l, keys', requests', notices', hrun, hreads, hrounds⟩ :=
        ih _ (hwalked.fail (soFar.failed cursor fault).failures)
      exact ⟨l, keys', requests', notices', hrun, hreads, fun hopen => by
        rw [hrounds hopen]; omega⟩
    | none =>
      have hpage := h.runIn_page_ok cursor limit notices hfault
      have hle : ((course.entries requests).page cursor limit.toNat).length ≤ limit.toNat :=
        List.length_take_le _ _
      cases hsize : (Json.int (((course.entries requests).page cursor limit.toNat).map
          Prod.snd).length).same (.int limit) with
      | true =>
        -- a full page: more may follow
        have hread := hwalked.read limit.toNat false hfault (fun h => by cases h)
        obtain ⟨l, keys', requests', notices', hrun, hreads, hrounds⟩ :=
          ih notices ⟨hread, hwalked.cursorAfter_append.symm, rfl⟩
        refine ⟨l, keys', requests', notices', ?_, hreads, fun hopen => by rw [hrounds hopen]; omega⟩
        rw [runIn_walk_full hpage hsize, ← hrun, extended, hwalked.open_]
      | false =>
        have hread := hwalked.read limit.toNat true hfault fun _ => by
          have hshort := Bool.eq_false_iff.mp hsize
          rw [ne_eq, Json.same_int, List.length_map] at hshort
          omega
        exact ⟨_, _, _, _, runIn_walk_short hpage hsize, hread, fun h => by cases h⟩

/-- A whole run over a course, which returns whatever happens to the listing. -/
theorem collect_reads [IsTrans WideText before] (h : Serves course fetch) {limit : Int}
    (hlimit : 1 ≤ limit) (iterLimit : Int) :
    ∃ l keys requests notices,
      (collect fetch cursorOf (.int limit) (.int iterLimit)).start 0 =
        (.ok l, ⟨requests, notices⟩) ∧
      Reads course requests l keys ∧ (l.exhausted = false → requests = iterLimit.toNat) := by
  obtain ⟨l, keys, requests, notices, hrun, hreads, hrounds⟩ :=
    h.walk_reads hlimit iterLimit.toNat [] (Walked.start course)
  refine ⟨l, keys, requests, notices, ?_, hreads, fun hopen => by rw [hrounds hopen]; omega⟩
  rw [Task.start, runIn_collect, hrun]

end Walk

/-! ## Listing contracts -/

/-- What a message asks a listing contract for: a page of the entries of a holder. -/
structure Request where
  holder : Json
  cursor : Json
  limit : Int

/-- The request in a message for the items of an owner. -/
def Request.ofTokens (message : Json) : Except Fault Request := do
  let body ← message.member "tokens"
  return {
    holder := ← body.member "owner"
    cursor := ← body.getD "start_after" .null
    limit := ← (← body.member "limit").toInt }

/-- The request in a message for the users, who have no holder. -/
def Request.ofUserList (message : Json) : Except Fault Request := do
  let body ← message.member "user_list"
  return {
    holder := .null
    cursor := ← body.getD "start_after" .null
    limit := ← (← body.member "amount").toInt }

/-- A contract that answers with pages of what it lists for a holder, as long as requests do not
fail. What an address lists for a holder may be a course of its own. -/
def contract [DecidableRel before] (courses : Json → Json → Course before cursorOf)
    (read : Json → Except Fault Request) (answer : List Json → Json) : Query.Asker Nat :=
  fun address message => do
    let requests ← Task.world
    Task.update (· + 1)
    let request ← read message
    let course := courses address request.holder
    match course.fault requests with
    | some fault => throw fault
    | none =>
      let page := (course.entries requests).page request.cursor request.limit.toNat
      return answer (page.map Prod.snd)

/-- A collection lists the items of an owner by themselves. -/
def collection [DecidableRel before] (courses : Json → Json → Course before .ok) :
    Query.Asker Nat :=
  contract courses Request.ofTokens fun items => .obj [("tokens", .arr items)]

/-- The platform lists its users, each under an address. -/
def platform [DecidableRel before] (courses : Json → Json → Course before (·.member "address")) :
    Query.Asker Nat :=
  contract courses Request.ofUserList .arr

theorem Request.ofTokens_tokens (owner cursor : Json) (limit : Int) :
    Request.ofTokens (Query.tokens owner cursor (.int limit)) =
      .ok { holder := owner, cursor, limit } := by
  cases cursor <;> rfl

theorem Request.ofUserList_userList (cursor : Json) (limit : Int) :
    Request.ofUserList (Query.userList (.int limit) cursor) =
      .ok { holder := .null, cursor, limit } := by
  cases cursor <;> rfl

section Contract

variable [DecidableRel before]

/-- The answer of a contract to a message that it can read. -/
theorem runIn_contract (courses : Json → Json → Course before cursorOf)
    {read : Json → Except Fault Request} (answer : List Json → Json) (address : Json)
    {message : Json} {request : Request} (hread : read message = .ok request) (requests : Nat)
    (notices : List Notice) :
    (contract courses read answer address message).runIn ⟨requests, notices⟩ =
      (match (courses address request.holder).fault requests with
        | some fault => .error fault
        | none =>
          .ok (answer ((((courses address request.holder).entries requests).page request.cursor
            request.limit.toNat).map Prod.snd)),
        ⟨requests + 1, notices⟩) := by
  have hrequest : (liftM (read message) : Task Nat Request).runIn ⟨requests + 1, notices⟩ =
      (.ok request, ⟨requests + 1, notices⟩) := by
    rw [Task.runIn_lift, hread]
  rw [contract, Task.runIn_bind_ok (Task.runIn_world _), Task.runIn_bind_ok (Task.runIn_update _ _),
    Task.runIn_bind_ok hrequest]
  dsimp only
  cases (courses address request.holder).fault requests <;> rfl

theorem serves_collection (courses : Json → Json → Course before .ok) (address owner : Json) :
    Serves (courses address owner) (fun cursor limit => do
      (← (← collection courses address (Query.tokens owner cursor limit)).member
        "tokens").items) := by
  intro cursor limit requests notices
  have hanswer := runIn_contract courses (fun items => Json.obj [("tokens", .arr items)]) address
    (Request.ofTokens_tokens owner cursor limit) requests notices
  dsimp only at hanswer
  rw [collection, Task.runIn_bind, hanswer]
  cases (courses address owner).fault requests <;> rfl

theorem serves_platform (courses : Json → Json → Course before (·.member "address"))
    (address : Json) :
    Serves (courses address .null) (fun cursor limit => do
      (← platform courses address (Query.userList limit cursor)).items) := by
  intro cursor limit requests notices
  have hanswer := runIn_contract courses Json.arr address
    (Request.ofUserList_userList cursor limit) requests notices
  dsimp only at hanswer
  rw [platform, Task.runIn_bind, hanswer]
  cases (courses address .null).fault requests <;> rfl

end Contract

/-! ## What the listings of a chain give -/

/-- Whatever happens to the listings while they are read, and whichever requests fail, the items of
an owner and the users are returned in strictly increasing order of their keys, so that none of them
is there twice. Of the keys that were there at every answered request none is missing if the end was
reached, and otherwise none up to the last key returned; the end is missed only if the limit on
requests is used up. -/
theorem balance_and_allUsers_read [DecidableRel before] [IsStrictOrder WideText before]
    (tokens : Json → Json → Course before .ok)
    (users : Json → Json → Course before (·.member "address"))
    (owner nft displayed game : Json) (limit iterLimit : Int) (hlimit : 1 ≤ limit) :
    (∃ l keys requests notices,
      (Query.balance (collection tokens) owner nft displayed (.int limit)
        (.int iterLimit)).start 0 = (.ok l, ⟨requests, notices⟩) ∧
      Reads (tokens nft owner) requests l keys ∧ keys.Nodup ∧
      (l.exhausted = false → requests = iterLimit.toNat)) ∧
    ∃ l keys requests notices,
      (Query.allUsers (platform users) game (.int limit) (.int iterLimit)).start 0 =
        (.ok l, ⟨requests, notices⟩) ∧
      Reads (users game .null) requests l keys ∧ keys.Nodup ∧
      (l.exhausted = false → requests = iterLimit.toNat) := by
  have hnodup {keys : List WideText} (h : keys.Pairwise before) : keys.Nodup :=
    h.imp fun {a b} hab (heq : a = b) => irrefl b (heq ▸ hab)
  constructor
  · obtain ⟨l, keys, requests, notices, hrun, hreads, hrounds⟩ :=
      collect_reads (serves_collection tokens nft owner) hlimit iterLimit
    have hbalance : ∃ notices', (Query.balance (collection tokens) owner nft displayed
        (.int limit) (.int iterLimit)).start 0 = (.ok l, ⟨requests, notices'⟩) := by
      rw [Query.balance, Task.start, Task.runIn_bind_ok hrun, Query.show?]
      split
      · exact ⟨_, rfl⟩
      · exact ⟨_, rfl⟩
    obtain ⟨notices', hbalance⟩ := hbalance
    exact ⟨l, keys, requests, notices', hbalance, hreads, hnodup hreads.increasing, hrounds⟩
  · obtain ⟨l, keys, requests, notices, hrun, hreads, hrounds⟩ :=
      collect_reads (serves_platform users game) hlimit iterLimit
    exact ⟨l, keys, requests, notices, hrun, hreads, hnodup hreads.increasing, hrounds⟩

/-! ### A listing on the move -/

/-- Texts by the numbers of their code points. -/
def textBefore (s t : WideText) : Prop := s.map CodePoint.toNat < t.map CodePoint.toNat

instance : DecidableRel textBefore := fun s t =>
  inferInstanceAs (Decidable (s.map CodePoint.toNat < t.map CodePoint.toNat))

instance : IsStrictOrder WideText textBefore where
  irrefl _ := List.lt_irrefl _
  trans _ _ _ := List.lt_trans

/-- Entries that are made of their keys. -/
def Entries.ofKeys (item : WideText → Json) (hitem : ∀ key, cursorOf (item key) = .ok (.str key))
    (keys : List WideText) (hkeys : keys.Pairwise before) : Entries before cursorOf where
  items := keys.map fun key => (key, item key)
  increasing := List.pairwise_map.mpr hkeys
  keyed := by
    intro entry hentry
    obtain ⟨key, _, rfl⟩ := List.mem_map.mp hentry
    exact hitem key

/-- The first entry goes and a last one comes while the second request fails. -/
def moving (item : WideText → Json) (hitem : ∀ key, cursorOf (item key) = .ok (.str key)) :
    Course textBefore cursorOf where
  entries requests :=
    if requests = 0 then .ofKeys item hitem ["a", "b", "c"] (by decide)
    else .ofKeys item hitem ["b", "c", "d"] (by decide)
  fault requests := if requests = 1 then some (.transport "ReadTimeout" "late") else none

theorem balance_and_allUsers_read_moving :
    (1 : Int) ≤ 2 ∧
      (∃ l keys requests notices,
        (Query.balance (collection fun _ _ => moving .str fun _ => rfl) (.str "owner") (.str "nft")
          (.bool false) (.int 2) (.int 50)).start 0 = (.ok l, ⟨requests, notices⟩) ∧
        Reads (moving .str (fun _ => rfl) : Course textBefore .ok) requests l keys ∧ keys.Nodup ∧
        (l.exhausted = false → requests = 50)) ∧
      ∃ l keys requests notices,
        (Query.allUsers (platform fun _ _ =>
          moving (fun key => .obj [("address", .str key)]) fun _ => rfl) (.str "game") (.int 2)
          (.int 50)).start 0 = (.ok l, ⟨requests, notices⟩) ∧
        Reads (moving (fun key => .obj [("address", .str key)]) (fun _ => rfl) :
          Course textBefore (·.member "address")) requests l keys ∧ keys.Nodup ∧
        (l.exhausted = false → requests = 50) := by
  refine ⟨by decide, ?_⟩
  exact balance_and_allUsers_read (fun _ _ => moving .str fun _ => rfl)
    (fun _ _ => moving (fun key => .obj [("address", .str key)]) fun _ => rfl)
    (.str "owner") (.str "nft") (.bool false) (.str "game") 2 50 (by decide)

/-- The entry that goes after it was read and the one that comes before its place is read are both
there. -/
example : ((Query.balance (collection fun _ _ => moving .str fun _ => rfl) (.str "owner")
    (.str "nft") (.bool false) (.int 2) (.int 50)).start 0).1.map (·.items) =
      .ok [.str "a", .str "b", .str "c", .str "d"] := rfl

end ContractOps.Listing
