import ContractOps.Proofs.Json.Same
import ContractOps.Proofs.Listing.Walk
import Mathlib.Data.Nat.Count

/-!
# Requests that fail now and then

Pages depend on their cursor and the limit alone, and some requests fail (`flaky`). A failing
request costs one of the requests that are allowed and nothing else: a walk reads what it would read
without it with as many requests less (`collect_flaky`).

Of a fixed listing with `n` entries, `n / limit + 1` requests that do not fail read everything, and
every smaller number of them reads that many full pages (`collect_fixed`). Before each request the
pages that were read are the first ones of the listing, all of them full (`AtPage`).
-/

namespace ContractOps.Listing

variable {α : Type} {pages : Json → Json → List α} {fault : Nat → Option Fault} {cursorOf : α → Json}

/-- Answers requests by their cursor and limit, unless they fail. The number of requests made so far
is all that it works on. -/
def flaky (pages : Json → Json → List α) (fault : Nat → Option Fault) (cursor limit : Json) :
    Task Nat (List α) := do
  let requests ← Task.world
  Task.update (· + 1)
  match fault requests with
  | some cause => throw cause
  | none => return pages cursor limit

theorem runIn_flaky_some {requests : Nat} {cause : Fault} (h : fault requests = some cause)
    (cursor limit : Json) (notices : List Notice) :
    (flaky pages fault cursor limit).runIn ⟨requests, notices⟩ =
      (.error cause, ⟨requests + 1, notices⟩) := by
  rw [flaky, Task.runIn_bind_ok (Task.runIn_world _), Task.runIn_bind_ok (Task.runIn_update _ _), h]
  rfl

theorem runIn_flaky_none {requests : Nat} (h : fault requests = none) (cursor limit : Json)
    (notices : List Notice) :
    (flaky pages fault cursor limit).runIn ⟨requests, notices⟩ =
      (.ok (pages cursor limit), ⟨requests + 1, notices⟩) := by
  rw [flaky, Task.runIn_bind_ok (Task.runIn_world _), Task.runIn_bind_ok (Task.runIn_update _ _), h]
  rfl

/-- Where every item has a cursor, every page is taken. -/
theorem exists_turn_ok (cursorOf : α → Json) (cursor : Json) (items : List α) :
    ∃ next, turn (fun item => .ok (cursorOf item)) cursor (.ok items) = .ok (items, next) := by
  cases hlast : items.getLast? with
  | none =>
    cases List.getLast?_eq_none_iff.mp hlast
    exact ⟨cursor, turn_nil⟩
  | some last => exact ⟨cursorOf last, turn_of_getLast? hlast rfl⟩

/-! ## Failing requests against none -/

/-- From equal items and the same cursor on, a walk with failing requests reads what a walk without
them reads, if the latter may make as many requests less as fail. -/
theorem walk_flaky (pages : Json → Json → List α) (fault : Nat → Option Fault)
    (cursorOf : α → Json) (limit : Json) (rounds : Nat) (cursor : Json) (l l' : Listing α)
    (hitems : l.items = l'.items) (hexhausted : l.exhausted = l'.exhausted)
    (requests requests' : Nat) (notices notices' : List Notice) :
    ∃ found found' after after' lost,
      (walk (flaky pages fault) (fun item => .ok (cursorOf item)) limit rounds cursor l).runIn
        ⟨requests, notices⟩ = (.ok found, after) ∧
      found.failures.length = l.failures.length + lost ∧ lost ≤ rounds ∧
      (walk (flaky pages fun _ => none) (fun item => .ok (cursorOf item)) limit (rounds - lost)
        cursor l').runIn ⟨requests', notices'⟩ = (.ok found', after') ∧
      found.items = found'.items ∧ found.exhausted = found'.exhausted := by
  -- the walks are at different requests, so that the two counts vary apart
  induction rounds generalizing cursor l l' requests requests' notices notices' with
  | zero => exact ⟨l, l', _, _, 0, rfl, rfl, Nat.le_refl 0, rfl, hitems, hexhausted⟩
  | succ rounds ih =>
    cases hfault : fault requests with
    | some cause =>
      -- only the walk with failing requests takes a step
      rw [runIn_walk_dropped (runIn_page (runIn_flaky_some hfault cursor limit notices))]
      have hitems : (l.failed cursor cause).items = l'.items := hitems
      obtain ⟨found, found', after, after', lost, hrun, hlost, hle, hrun', hfound⟩ :=
        ih cursor (l.failed cursor cause) l' hitems hexhausted (requests + 1) requests' _ notices'
      refine ⟨found, found', after, after', lost + 1, hrun, ?_, by omega, ?_, hfound⟩
      · rw [hlost, failed, List.length_append, List.length_singleton]
        omega
      · rwa [Nat.add_sub_add_right]
    | none =>
      -- both walks take the same step
      obtain ⟨next, hturn⟩ := exists_turn_ok cursorOf cursor (pages cursor limit)
      have hpage : (page (flaky pages fault) (fun item => .ok (cursorOf item)) cursor limit).runIn
          ⟨requests, notices⟩ =
          (.ok (.ok (pages cursor limit, next)), ⟨requests + 1, notices⟩) := by
        rw [runIn_page (runIn_flaky_none hfault cursor limit notices), hturn]
      have hpage' : (page (flaky pages fun _ => none) (fun item => .ok (cursorOf item)) cursor
          limit).runIn ⟨requests', notices'⟩ =
          (.ok (.ok (pages cursor limit, next)), ⟨requests' + 1, notices'⟩) := by
        rw [runIn_page (runIn_flaky_none rfl cursor limit notices'), hturn]
      have hread : (l.extended (pages cursor limit)).items =
          (l'.extended (pages cursor limit)).items := by
        rw [extended, extended, hitems]
      cases hsame : (Json.int (pages cursor limit).length).same limit with
      | true =>
        rw [runIn_walk_full hpage hsame]
        obtain ⟨found, found', after, after', lost, hrun, hlost, hle, hrun', hfound⟩ :=
          ih next _ _ hread hexhausted (requests + 1) (requests' + 1) notices notices'
        refine ⟨found, found', after, after', lost, hrun, hlost, by omega, ?_, hfound⟩
        rw [Nat.succ_sub hle, runIn_walk_full hpage' hsame]
        exact hrun'
      | false =>
        exact ⟨_, _, _, _, 0, runIn_walk_short hpage hsame, rfl, by omega,
          runIn_walk_short hpage' hsame, hread, rfl⟩

/-- Failing requests are not seen in what is read: the items are those that are read without them,
and so is whether the end is reached, if for every recorded failure one request less is allowed. -/
theorem collect_flaky (pages : Json → Json → List α) (cursorOf : α → Json) (limit : Json)
    (fault : Nat → Option Fault) (iterLimit : Nat) :
    ∃ l l' after after',
      (collect (flaky pages fault) (fun item => .ok (cursorOf item)) limit
        (.int iterLimit)).start 0 = (.ok l, after) ∧
      l.failures.length ≤ iterLimit ∧
      (collect (flaky pages fun _ => none) (fun item => .ok (cursorOf item)) limit
        (.int (iterLimit - l.failures.length))).start 0 = (.ok l', after') ∧
      l.items = l'.items ∧ l.exhausted = l'.exhausted := by
  obtain ⟨l, l', after, after', lost, hrun, hlost, hle, hrun', hfound⟩ :=
    walk_flaky pages fault cursorOf limit iterLimit .null {} {} rfl rfl 0 0 [] []
  have hlost : l.failures.length = lost := by rw [hlost]; exact Nat.zero_add lost
  refine ⟨l, l', after, after', ?_, by omega, ?_, hfound⟩
  · rw [Task.start, runIn_collect]
    exact hrun
  · have hrounds : ((iterLimit : Int) - l.failures.length).toNat = iterLimit - lost := by omega
    rw [Task.start, runIn_collect, hrounds]
    exact hrun'

/-! ## A fixed listing -/

/-- How many of the first requests do not fail. -/
def answered (fault : Nat → Option Fault) (requests : Nat) : Nat :=
  Nat.count (fun request => fault request = none) requests

theorem answered_succ_some {requests : Nat} {cause : Fault} (h : fault requests = some cause) :
    answered fault (requests + 1) = answered fault requests := by
  rw [answered, Nat.count_succ, if_neg (by simp [h])]
  rfl

theorem answered_succ_none {requests : Nat} (h : fault requests = none) :
    answered fault (requests + 1) = answered fault requests + 1 := by
  rw [answered, Nat.count_succ, if_pos h]
  rfl

variable {entries : List α}

/-- What a listing holds after a cursor: everything if there is none, and else what follows the
entry with this cursor. -/
def following (entries : List α) (cursorOf : α → Json) (cursor : Json) : List α :=
  if cursor = .null then entries else (entries.dropWhile fun a => cursorOf a ≠ cursor).drop 1

/-- Pages of a fixed listing: the next entries after a cursor, up to a limit. -/
def paged (entries : List α) (cursorOf : α → Json) (cursor limit : Json) : List α :=
  match limit with
  | .int n => (following entries cursorOf cursor).take n.toNat
  | _ => []

theorem following_null (entries : List α) (cursorOf : α → Json) :
    following entries cursorOf .null = entries :=
  if_pos rfl

/-- Entries with distinct cursors are found by them. -/
theorem following_cursorOf {before rest : List α} {a : α}
    (hdistinct : (entries.map cursorOf).Nodup) (hset : .null ∉ entries.map cursorOf)
    (h : entries = before ++ a :: rest) : following entries cursorOf (cursorOf a) = rest := by
  subst h
  have hnull : cursorOf a ≠ .null := by
    intro heq
    exact hset (List.mem_map.mpr ⟨a, by simp, heq⟩)
  have hbefore : ∀ b ∈ before, cursorOf b ≠ cursorOf a := by
    rw [List.map_append, List.map_cons] at hdistinct
    intro b hb
    exact (List.nodup_append.mp hdistinct).2.2 _ (List.mem_map_of_mem hb) _ List.mem_cons_self
  rw [following, if_neg hnull, List.dropWhile_append_of_pos (by simpa using hbefore),
    List.dropWhile_cons_of_neg (by simp)]
  rfl

/-- What holds before a request if so many full pages have been read. -/
structure AtPage (entries : List α) (cursorOf : α → Json) (limit read : Nat) (cursor : Json)
    (l : Listing α) : Prop where
  items : l.items = entries.take (read * limit)
  rest : following entries cursorOf cursor = entries.drop (read * limit)
  room : read * limit ≤ entries.length
  open_ : l.exhausted = false

theorem AtPage.start (entries : List α) (cursorOf : α → Json) (limit : Nat) :
    AtPage entries cursorOf limit 0 .null {} where
  items := by simp
  rest := by rw [following_null, Nat.zero_mul, List.drop_zero]
  room := by omega
  open_ := rfl

variable {limit read requests : Nat} {cursor : Json} {l : Listing α}

theorem AtPage.paged_eq (h : AtPage entries cursorOf limit read cursor l) :
    paged entries cursorOf cursor (.int limit) = (entries.drop (read * limit)).take limit := by
  rw [paged, h.rest, Int.toNat_natCast]

/-- A page of the listing continues what was read. -/
theorem take_append_page (entries : List α) (limit read : Nat) :
    entries.take (read * limit) ++ (entries.drop (read * limit)).take limit =
      entries.take ((read + 1) * limit) := by
  rw [← List.take_add, Nat.succ_mul]

/-- A failing request leaves everything at its place. -/
theorem AtPage.fail (h : AtPage entries cursorOf limit read cursor l) (cause : Fault) :
    AtPage entries cursorOf limit read cursor (l.failed cursor cause) where
  items := h.items
  rest := h.rest
  room := h.room
  open_ := h.open_

/-- Behind a full page comes the next one. -/
theorem AtPage.next (h : AtPage entries cursorOf limit read cursor l) (hlimit : 1 ≤ limit)
    (hdistinct : (entries.map cursorOf).Nodup) (hset : .null ∉ entries.map cursorOf)
    (hfull : (paged entries cursorOf cursor (.int limit)).length = limit) :
    ∃ next, turn (fun item => .ok (cursorOf item)) cursor
        (.ok (paged entries cursorOf cursor (.int limit))) =
          .ok (paged entries cursorOf cursor (.int limit), next) ∧
      AtPage entries cursorOf limit (read + 1) next
        (l.extended (paged entries cursorOf cursor (.int limit))) := by
  have hpaged := h.paged_eq
  generalize paged entries cursorOf cursor (.int limit) = page at *
  have hne : page ≠ [] := by
    rintro rfl
    rw [List.length_nil] at hfull
    omega
  -- the next cursor is that of the last entry of the page
  obtain ⟨front, last, rfl⟩ : ∃ front last, page = front ++ [last] :=
    ⟨page.dropLast, page.getLast hne, (List.dropLast_append_getLast hne).symm⟩
  have hlast : (front ++ [last]).getLast? = some last := List.getLast?_concat
  have hsplit : entries = (entries.take (read * limit) ++ front) ++
      last :: entries.drop ((read + 1) * limit) := by
    have hrest : entries.drop (read * limit) =
        (front ++ [last]) ++ entries.drop ((read + 1) * limit) := by
      rw [hpaged, Nat.succ_mul, ← List.drop_drop, List.take_append_drop]
    calc entries = entries.take (read * limit) ++ entries.drop (read * limit) :=
          (List.take_append_drop _ _).symm
      _ = _ := by rw [hrest]; simp
  refine ⟨cursorOf last, turn_of_getLast? hlast rfl, ?_, ?_, ?_, h.open_⟩
  · rw [extended, h.items, hpaged, take_append_page]
  · exact following_cursorOf hdistinct hset hsplit
  · have hlength : (front ++ [last]).length ≤ entries.length - read * limit := by
      rw [hpaged, List.length_take, List.length_drop]
      omega
    have hroom := h.room
    rw [Nat.succ_mul]
    omega

/-- A page that is not full is the last one. -/
theorem AtPage.last (h : AtPage entries cursorOf limit read cursor l)
    (hshort : (paged entries cursorOf cursor (.int limit)).length ≠ limit) :
    read = entries.length / limit ∧
      (l.extended (paged entries cursorOf cursor (.int limit))).items = entries := by
  have hpaged := h.paged_eq
  have hroom := h.room
  have hless : entries.length < (read + 1) * limit := by
    rw [hpaged, List.length_take, List.length_drop] at hshort
    rw [Nat.succ_mul]
    omega
  refine ⟨(Nat.div_eq_of_lt_le hroom hless).symm, ?_⟩
  rw [extended, h.items, hpaged, take_append_page]
  exact List.take_of_length_le (Nat.le_of_lt hless)

/-- What a walk through a listing comes to: with enough requests that do not fail, it ends with the
one that completes the listing, and else it has used them all and read as many full pages. -/
structure Reaches (entries : List α) (limit : Nat) (fault : Nat → Option Fault) (allowed requests : Nat)
    (l : Listing α) : Prop where
  iterations : l.iterations = requests
  enough : entries.length / limit + 1 ≤ answered fault allowed →
    requests ≤ allowed ∧ answered fault requests = entries.length / limit + 1 ∧
      fault (requests - 1) = none ∧ l.exhausted = true ∧ l.items = entries
  tooFew : answered fault allowed < entries.length / limit + 1 →
    requests = allowed ∧ l.exhausted = false ∧
      l.items = entries.take (answered fault allowed * limit)

/-- A walk goes on from its place to the end of the listing or of the requests allowed. -/
theorem AtPage.walk_reaches (hlimit : 1 ≤ limit) (hdistinct : (entries.map cursorOf).Nodup)
    (hset : .null ∉ entries.map cursorOf) {rounds allowed : Nat}
    (hallowed : requests + rounds = allowed)
    (h : AtPage entries cursorOf limit (answered fault requests) cursor l)
    (hrequests : l.iterations = requests) (notices : List Notice) :
    ∃ found requests' notices',
      (walk (flaky (paged entries cursorOf) fault) (fun item => .ok (cursorOf item)) (.int limit)
        rounds cursor l).runIn ⟨requests, notices⟩ = (.ok found, ⟨requests', notices'⟩) ∧
      Reaches entries limit fault allowed requests' found := by
  -- every request that succeeded has read a full page, or the walk would have ended with it
  induction rounds generalizing requests cursor l notices with
  | zero =>
    obtain rfl : requests = allowed := hallowed
    have hread : answered fault requests ≤ entries.length / limit :=
      (Nat.le_div_iff_mul_le hlimit).mpr h.room
    exact ⟨l, requests, _, rfl, hrequests, fun henough => by omega,
      fun _ => ⟨rfl, h.open_, h.items⟩⟩
  | succ rounds ih =>
    have hallowed' : requests + 1 + rounds = allowed := by omega
    cases hfault : fault requests with
    | some cause =>
      have hnext : AtPage entries cursorOf limit (answered fault (requests + 1)) cursor
          (l.failed cursor cause) := by
        rw [answered_succ_some hfault]
        exact h.fail cause
      rw [runIn_walk_dropped (runIn_page (runIn_flaky_some hfault cursor (.int limit) notices))]
      exact ih hallowed' hnext (by rw [failed, hrequests]) _
    | none =>
      have hpage : (page (flaky (paged entries cursorOf) fault) (fun item => .ok (cursorOf item))
          cursor (.int limit)).runIn ⟨requests, notices⟩ =
            (.ok (turn (fun item => .ok (cursorOf item)) cursor
              (.ok (paged entries cursorOf cursor (.int limit)))), ⟨requests + 1, notices⟩) :=
        runIn_page (runIn_flaky_none hfault cursor (.int limit) notices)
      have hanswered := answered_succ_none hfault
      cases hsame : (Json.int (paged entries cursorOf cursor (.int limit)).length).same
          (.int limit) with
      | true =>
        have hfull : (paged entries cursorOf cursor (.int limit)).length = limit := by
          have := Json.same_int.mp hsame
          omega
        obtain ⟨next, hturn, hnext⟩ := h.next hlimit hdistinct hset hfull
        rw [hturn] at hpage
        rw [← hanswered] at hnext
        rw [runIn_walk_full hpage hsame]
        exact ih hallowed' hnext (by rw [extended, hrequests]) notices
      | false =>
        have hshort : (paged entries cursorOf cursor (.int limit)).length ≠ limit := by
          intro heq
          rw [Json.same_int.mpr (by rw [heq])] at hsame
          cases hsame
        obtain ⟨next, hturn⟩ := exists_turn_ok cursorOf cursor
          (paged entries cursorOf cursor (.int limit))
        obtain ⟨hread, hitems⟩ := h.last hshort
        rw [hturn] at hpage
        rw [hread] at hanswered
        have hmono : answered fault (requests + 1) ≤ answered fault allowed :=
          Nat.count_monotone _ (by omega)
        refine ⟨_, requests + 1, _, runIn_walk_short hpage hsame, ?_, fun _ => ?_, fun hfew => ?_⟩
        · rw [extended, hrequests]
        · exact ⟨by omega, hanswered, hfault, rfl, hitems⟩
        · omega

/-- Of a fixed listing in which every entry has a cursor of its own, everything is read in order as
soon as one request more has succeeded than the listing has full pages, and that is the last
request. With fewer successes among the requests allowed, all of these are made, and every success
has read one full page. -/
theorem collect_fixed (entries : List α) (cursorOf : α → Json)
    (hdistinct : (entries.map cursorOf).Nodup) (hset : .null ∉ entries.map cursorOf) {limit : Nat}
    (hlimit : 1 ≤ limit) (fault : Nat → Option Fault) (iterLimit : Nat) :
    ∃ l requests notices,
      (collect (flaky (paged entries cursorOf) fault) (fun item => .ok (cursorOf item)) (.int limit)
        (.int iterLimit)).start 0 = (.ok l, ⟨requests, notices⟩) ∧
      Reaches entries limit fault iterLimit requests l := by
  obtain ⟨l, requests, notices, hrun, hreaches⟩ :=
    (AtPage.start entries cursorOf limit).walk_reaches hlimit hdistinct hset (Nat.zero_add iterLimit)
      rfl []
  refine ⟨l, requests, notices, ?_, hreaches⟩
  rw [Task.start, runIn_collect]
  exact hrun

/-! ### Two full pages -/

/-- The keys of a listing with two entries to a page. -/
def twoPages : List WideText := ["a", "b", "c", "d"]

/-- Only the second request fails. -/
def lateOnce (request : Nat) : Option Fault :=
  if request = 1 then some (.transport "ReadTimeout" "late") else none

theorem collect_fixed_twoPages :
    (twoPages.map Json.str).Nodup ∧ Json.null ∉ twoPages.map Json.str ∧ 1 ≤ 2 ∧
      ∃ l requests notices,
        (collect (flaky (paged twoPages Json.str) lateOnce) (fun key => .ok (.str key)) (.int 2)
          (.int 4)).start 0 = (.ok l, ⟨requests, notices⟩) ∧
        Reaches twoPages 2 lateOnce 4 requests l := by
  refine ⟨by decide, by decide, by decide, ?_⟩
  exact collect_fixed twoPages Json.str (by decide) (by decide) (by decide) lateOnce 4

/-- Full pages do not show that nothing comes after them, so that four requests are needed. -/
example : ((collect (flaky (paged twoPages Json.str) lateOnce) (fun key => .ok (.str key)) (.int 2)
    (.int 4)).start 0).1.map (fun l => (l.items, l.exhausted)) = .ok (twoPages, true) := rfl

end ContractOps.Listing
