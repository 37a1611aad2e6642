import ContractOps.Proofs.Json.Members
import ContractOps.Proofs.Numeral.Order
import ContractOps.Proofs.Task.Items
import ContractOps.Users

/-!
# The order of the users

Where all returns are numbers, the users of a snapshot are those of the listing, those with the
higher return first, and of two with one return the one that was listed first (`formatAll_ranked`).
Users go with their places in the listing, and one is put in front of those that were listed behind
it (`exists_insert_placed`), so that the places decide between equal returns.
-/

namespace ContractOps.Users

/-! ## Users with their returns and places -/

/-- A user with the return, and the place in the listing. -/
abbrev Placed := (Binary64 × Json) × Nat

/-- A user stands in front of another one: the return is higher, or it is the same and the user was
listed before. -/
def Ahead (a b : Placed) : Prop :=
  b.1.1.rank < a.1.1.rank ∨ a.1.1.rank = b.1.1.rank ∧ a.2 < b.2

theorem Ahead.trans {a b c : Placed} (hab : Ahead a b) (hbc : Ahead b c) : Ahead a c := by
  rcases hab with hab | ⟨hab, hplace⟩ <;> rcases hbc with hbc | ⟨hbc, hplace'⟩
  · exact .inl (hbc.trans hab)
  · exact .inl (hbc ▸ hab)
  · exact .inl (hab ▸ hbc)
  · exact .inr ⟨hab.trans hbc, hplace.trans hplace'⟩

variable {entry : Binary64 × Json} {place : Nat} {placed : List Placed}

/-- A user is put in front of those with no higher return that were listed later. -/
theorem exists_insert_placed (hentry : entry.1 ≠ .nan) (hnumbers : ∀ p ∈ placed, p.1.1 ≠ .nan)
    (hlater : ∀ p ∈ placed, place < p.2) (hsorted : placed.Pairwise Ahead) :
    ∃ found : List Placed, found.map Prod.fst = insert entry (placed.map Prod.fst) ∧
      found.Perm ((entry, place) :: placed) ∧ found.Pairwise Ahead := by
  induction placed with
  | nil => exact ⟨[(entry, place)], rfl, .refl _, List.pairwise_singleton _ _⟩
  | cons other rest ih =>
    obtain ⟨hother, hnumbers⟩ := List.forall_mem_cons.mp hnumbers
    obtain ⟨hplace, hlater⟩ := List.forall_mem_cons.mp hlater
    obtain ⟨hahead, hsorted⟩ := List.pairwise_cons.mp hsorted
    rw [List.map_cons, insert]
    split
    · next hbelow =>
      -- the other one has the higher return, and stays in front
      have hfirst : Ahead other (entry, place) :=
        .inl ((Binary64.compare?_eq_lt_iff hentry hother).mp hbelow)
      obtain ⟨found, hfound, hperm, hrest⟩ := ih hnumbers hlater hsorted
      refine ⟨other :: found, by rw [List.map_cons, hfound],
        (hperm.cons other).trans (.swap _ _ _), List.pairwise_cons.mpr ⟨fun p hp => ?_, hrest⟩⟩
      rcases List.mem_cons.mp (hperm.mem_iff.mp hp) with rfl | hp
      · exact hfirst
      · exact hahead p hp
    · next hbelow =>
      have hfirst : Ahead (entry, place) other := by
        rw [Binary64.compare?_eq_lt_iff hentry hother, not_lt] at hbelow
        rcases hbelow.lt_or_eq with hless | hsame
        · exact .inl hless
        · exact .inr ⟨hsame.symm, hplace⟩
      refine ⟨(entry, place) :: other :: rest, rfl, .refl _,
        List.pairwise_cons.mpr ⟨fun p hp => ?_, List.pairwise_cons.mpr ⟨hahead, hsorted⟩⟩⟩
      rcases List.mem_cons.mp hp with rfl | hp
      · exact hfirst
      · exact hfirst.trans (hahead p hp)

/-- Sorted users are those listed, each in front of those with a lower return, and of those with the
same one that were listed later. -/
theorem exists_sort_placed {entries : List (Binary64 × Json)} (h : ∀ e ∈ entries, e.1 ≠ .nan)
    (place : Nat) :
    ∃ found : List Placed, found.map Prod.fst = sort entries ∧
      found.Perm (entries.zipIdx place) ∧ found.Pairwise Ahead := by
  induction entries generalizing place with
  | nil => exact ⟨[], rfl, .refl _, .nil⟩
  | cons entry rest ih =>
    obtain ⟨hentry, hrest⟩ := List.forall_mem_cons.mp h
    obtain ⟨placed, hplaced, hperm, hsorted⟩ := ih hrest (place + 1)
    have hnumbers : ∀ p ∈ placed, p.1.1 ≠ .nan := by
      intro p hp
      have hmem : p.1 ∈ sort rest := hplaced ▸ List.mem_map_of_mem hp
      exact hrest p.1 ((perm_sort rest).mem_iff.mp hmem)
    have hlater : ∀ p ∈ placed, place < p.2 := fun p hp =>
      List.le_snd_of_mem_zipIdx (hperm.mem_iff.mp hp)
    obtain ⟨found, hfound, hperm', hsorted'⟩ :=
      exists_insert_placed hentry hnumbers hlater hsorted
    refine ⟨found, ?_, hperm'.trans (hperm.cons _), hsorted'⟩
    rw [hfound, hplaced]
    rfl

theorem arrange_eq_sort {entries : List (Binary64 × Json)} (h : ∀ e ∈ entries, e.1 ≠ .nan) :
    arrange entries = sort entries := by
  rw [arrange, if_neg]
  intro hany
  obtain ⟨e, he, hnan⟩ := List.any_eq_true.mp hany
  exact h e he (of_decide_eq_true hnan)

/-! ## Users as they are shown -/

/-- A user is shown with the return that the order goes by. -/
theorem roi_of_format {item shown : Json} (h : format item = .ok shown) :
    ∃ x, returnOf item = .ok x ∧ shown.member "roi" = .ok (.float x) := by
  obtain ⟨info, hinfo, h⟩ := except_bind_eq_ok.mp h
  -- the statistics and the address come before the return, the rest behind it
  iterate 7 obtain ⟨_, _, h⟩ := except_bind_eq_ok.mp h
  obtain ⟨roi, hroi, h⟩ := except_bind_eq_ok.mp h
  obtain ⟨x, hx, h⟩ := except_bind_eq_ok.mp h
  iterate 4 obtain ⟨_, _, h⟩ := except_bind_eq_ok.mp h
  cases h
  refine ⟨x, ?_, rfl⟩
  rw [returnOf, hinfo, except_ok_bind, hroi, except_ok_bind, hx]

/-- A user precedes another one in a snapshot: the return is higher, or the returns are equal and
the user was listed before. -/
def Precedes (a b : Json × Nat) : Prop :=
  ∃ x y, returnOf a.1 = .ok x ∧ returnOf b.1 = .ok y ∧
    (x.compare? y = some .gt ∨ x.compare? y = some .eq ∧ a.2 < b.2)

/-- Of two users as they are shown, the second one has no higher return. -/
def Falls (a b : Json) : Prop :=
  ∃ x y, a.member "roi" = .ok (.float x) ∧ b.member "roi" = .ok (.float y) ∧
    (x.compare? y = some .gt ∨ x.compare? y = some .eq)

theorem precedes_of_ahead {a b : Placed} (ha : returnOf a.1.2 = .ok a.1.1)
    (hb : returnOf b.1.2 = .ok b.1.1) (hna : a.1.1 ≠ .nan) (hnb : b.1.1 ≠ .nan) (h : Ahead a b) :
    Precedes (a.1.2, a.2) (b.1.2, b.2) := by
  refine ⟨a.1.1, b.1.1, ha, hb, ?_⟩
  rwa [Binary64.compare?_eq_gt_iff hna hnb, Binary64.compare?_eq_eq_iff hna hnb]

theorem falls_of_precedes {a b : Json × Nat} {shown shown' : Json} (ha : format a.1 = .ok shown)
    (hb : format b.1 = .ok shown') (h : Precedes a b) : Falls shown shown' := by
  obtain ⟨x, y, hx, hy, horder⟩ := h
  obtain ⟨x', hx', hshown⟩ := roi_of_format ha
  obtain ⟨y', hy', hshown'⟩ := roi_of_format hb
  cases hx.symm.trans hx'
  cases hy.symm.trans hy'
  exact ⟨x, y, hshown, hshown', horder.imp_right And.left⟩

/-- The entries that are sorted are the users that were listed, with their returns. -/
theorem entries_eq {items : List Json} {entries : List (Binary64 × Json)}
    (h : (items.mapM fun item => do return (← returnOf item, item)) = .ok entries) :
    entries.map Prod.snd = items ∧ ∀ e ∈ entries, returnOf e.2 = .ok e.1 := by
  have hread : List.Forall₂ (fun item e => returnOf item = .ok e.1 ∧ item = e.2) items entries := by
    refine (forall₂_of_mapM_eq_ok h).imp fun item e he => ?_
    obtain ⟨x, hx, he⟩ := except_bind_eq_ok.mp he
    cases he
    exact ⟨hx, rfl⟩
  constructor
  · have hsame : List.Forall₂ (· = ·) items (entries.map Prod.snd) :=
      List.forall₂_map_right_iff.mpr (hread.imp fun _ _ h => h.2)
    rw [List.forall₂_eq_eq_eq] at hsame
    exact hsame.symm
  · intro e he
    obtain ⟨item, _, hx, hitem⟩ := exists_of_forall₂_mem hread he
    exact hitem ▸ hx

/-- Entries whose returns are numbers are arranged so that each user precedes the later ones. -/
theorem exists_ranked {entries : List (Binary64 × Json)}
    (h : ∀ e ∈ entries, returnOf e.2 = .ok e.1 ∧ e.1 ≠ .nan) :
    ∃ ranked : List (Json × Nat), ranked.Perm (entries.map Prod.snd).zipIdx ∧
      ranked.Pairwise Precedes ∧ ranked.map Prod.fst = (arrange entries).map Prod.snd := by
  have hnumbers : ∀ e ∈ entries, e.1 ≠ .nan := fun e he => (h e he).2
  obtain ⟨placed, hplaced, hperm, hsorted⟩ := exists_sort_placed hnumbers 0
  have hmem : ∀ p ∈ placed, p.1 ∈ entries := fun p hp =>
    (perm_sort entries).mem_iff.mp (hplaced ▸ List.mem_map_of_mem hp)
  refine ⟨placed.map (Prod.map Prod.snd id), ?_, ?_, ?_⟩
  · rw [List.zipIdx_map]
    exact hperm.map _
  · refine List.pairwise_map.mpr (hsorted.imp_of_mem fun ha hb hahead => ?_)
    obtain ⟨hx, hnx⟩ := h _ (hmem _ ha)
    obtain ⟨hy, hny⟩ := h _ (hmem _ hb)
    exact precedes_of_ahead hx hy hnx hny hahead
  · rw [arrange_eq_sort hnumbers, ← hplaced, List.map_map, List.map_map]
    rfl

/-- Where users can be shown and all returns are numbers, the snapshot shows the users that were
listed, with returns that fall. Each user precedes the later ones: those have a lower return, or an
equal one and were listed behind. -/
theorem formatAll_ranked (items shown : List Json) (h : formatAll (.arr items) = .ok shown)
    (hnumbers : ∀ item ∈ items, returnOf item ≠ .ok .nan) :
    ∃ ranked : List (Json × Nat), ranked.Perm items.zipIdx ∧ ranked.Pairwise Precedes ∧
      (ranked.map Prod.fst).mapM format = .ok shown ∧ shown.Pairwise Falls := by
  obtain ⟨_, hitems, h⟩ := except_bind_eq_ok.mp h
  cases hitems
  obtain ⟨entries, hentries, h⟩ := except_bind_eq_ok.mp h
  obtain ⟨hlisted, hreturns⟩ := entries_eq hentries
  obtain ⟨ranked, hperm, hranked, harranged⟩ := exists_ranked fun e he => by
    refine ⟨hreturns e he, fun hnan => hnumbers e.2 ?_ (hnan ▸ hreturns e he)⟩
    exact hlisted ▸ List.mem_map_of_mem he
  have hshown : (ranked.map Prod.fst).mapM format = .ok shown := by
    rw [harranged, List.mapM_map]
    exact h
  refine ⟨ranked, hlisted ▸ hperm, hranked, hshown, pairwise_of_forall₂ ?_
    (List.forall₂_map_left_iff.mp (forall₂_of_mapM_eq_ok hshown)) hranked⟩
  exact fun _ _ _ _ => falls_of_precedes

/-! ### Two zeros and a half -/

/-- A user without bets. -/
def idle (address : WideText) (roi : Json) : Json :=
  .obj [("address", .str address), ("info", .obj [
    ("stats", .obj [("bets", .obj [("count", .int 0), ("value", .str "0")]),
      ("wins", .obj [("count", .int 0), ("value", .str "0")])]),
    ("roi", roi), ("unclaimed", .str "0"), ("last_flip_date", .int 0)])]

/-- Two users whose returns are zeros, and one with a higher return between them. -/
def zeros : List Json := [idle "a" (.str "-0"), idle "b" (.str "0.5"), idle "c" (.int 0)]

theorem formatAll_ranked_zeros :
    ∃ shown, formatAll (.arr zeros) = .ok shown ∧
      shown.mapM (fun user => user.member "address") = .ok [.str "b", .str "a", .str "c"] ∧
      (∀ item ∈ zeros, returnOf item ≠ .ok .nan) ∧
      ∃ ranked : List (Json × Nat), ranked.Perm zeros.zipIdx ∧ ranked.Pairwise Precedes ∧
        (ranked.map Prod.fst).mapM format = .ok shown ∧ shown.Pairwise Falls := by
  have hresult : (formatAll (.arr zeros) >>= fun shown =>
      shown.mapM fun user => user.member "address") = .ok [.str "b", .str "a", .str "c"] :=
    eq_ok_of_toOption (by decide +kernel)
  obtain ⟨shown, hshown, haddresses⟩ := except_bind_eq_ok.mp hresult
  have hreturns : ∀ item ∈ zeros, (returnOf item).toOption ≠ some .nan := by decide +kernel
  have hnumbers : ∀ item ∈ zeros, returnOf item ≠ .ok .nan := fun item hitem hnan =>
    hreturns item hitem (congrArg Except.toOption hnan)
  exact ⟨shown, hshown, haddresses, hnumbers, formatAll_ranked zeros shown hshown hnumbers⟩

end ContractOps.Users
