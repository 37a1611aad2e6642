import ContractOps.Proofs.Listing.Exchanges

/-!
# What a listing that is exhausted has seen

A walk ends with the first accepted page that is not full. A short page shows that nothing follows.
A page that is longer than the limit ends the walk all the same (`Overlong`), and shows nothing of
what follows. Two accepted pages cannot both end a walk, so that beside an overlong page every short
one was dropped (`Describes.dropped_of_short`). That settles when the marks of a listing can be
relied on (`collect_exhausted_iff`).
-/

namespace ContractOps.Listing

variable {σ α : Type}

/-- A page shorter than the limit was received, whatever became of it. -/
def Exchange.Short (limit : Int) (e : Exchange α) : Prop :=
  ∃ items, e.answer = .ok items ∧ (items.length : Int) < limit

/-- A page longer than the limit was accepted. -/
def Overlong (cursorOf : α → Except Fault Json) (limit : Int) (es : List (Exchange α)) : Prop :=
  ∃ page ∈ pages cursorOf es, limit < page.length

section

variable {cursorOf : α → Except Fault Json} {limit : Int} {rounds : Nat} {es : List (Exchange α)}
  {l : Listing α} {e : Exchange α} {page : List α}

/-! ## Accepted and dropped requests -/

/-- An accepted page is the one that was received. -/
theorem Exchange.answer_of_page? (h : e.page? cursorOf = some page) : e.answer = .ok page := by
  have houtcome : e.outcome cursorOf = .ok page := eq_ok_of_toOption h
  obtain ⟨items, hanswer, h⟩ := except_bind_eq_ok.mp houtcome
  cases hlast : items.getLast? with
  | none =>
    rw [hlast] at h
    cases h
    exact hanswer
  | some last =>
    rw [hlast] at h
    obtain ⟨_, _, h⟩ := except_bind_eq_ok.mp h
    cases h
    exact hanswer

theorem Exchange.failure?_eq_none_iff (iteration : Nat) :
    e.failure? cursorOf iteration = none ↔ e.page? cursorOf ≠ none := by
  rw [Exchange.failure?, Exchange.page?]
  cases e.outcome cursorOf <;> simp [Except.toOption]

/-- No request is recorded as a failure if all of them were accepted. -/
theorem rejections_eq_nil_iff :
    rejections cursorOf es = [] ↔ ∀ e ∈ es, e.page? cursorOf ≠ none := by
  rw [rejections, List.filterMap_eq_nil_iff]
  constructor
  · intro h e he
    rw [← List.zipIdx_map_fst 1 es] at he
    obtain ⟨⟨e, iteration⟩, hmem, rfl⟩ := List.mem_map.mp he
    exact (Exchange.failure?_eq_none_iff iteration).mp (h _ hmem)
  · rintro h ⟨e, iteration⟩ hmem
    have he : e ∈ es := by
      rw [← List.zipIdx_map_fst 1 es]
      exact List.mem_map_of_mem hmem
    exact (Exchange.failure?_eq_none_iff iteration).mpr (h e he)

theorem Describes.complete_iff (h : Describes cursorOf limit rounds es l) :
    l.complete = true ↔ l.exhausted = true ∧ ∀ e ∈ es, e.page? cursorOf ≠ none := by
  rw [complete, Bool.and_eq_true, List.isEmpty_iff, h.failures, rejections_eq_nil_iff]

/-! ## Short and overlong pages -/

/-- An accepted page that is not full is that of the last request. -/
theorem Describes.exists_append_of_not_full (h : Describes cursorOf limit rounds es l)
    (he : e ∈ es) (hpage : e.page? cursorOf = some page) (hne : (page.length : Int) ≠ limit) :
    ∃ before, es = before ++ [e] := by
  obtain ⟨before, after, rfl⟩ := List.append_of_mem he
  have hprefix : before ++ [e] <+: before ++ e :: after :=
    ⟨after, by rw [List.append_assoc, List.singleton_append]⟩
  exact ⟨before, (h.last before e hprefix page hpage hne).symm⟩

/-- Beside an overlong page, a short one was dropped. -/
theorem Describes.dropped_of_short (h : Describes cursorOf limit rounds es l)
    (hover : Overlong cursorOf limit es) (he : e ∈ es) (hshort : e.Short limit) :
    e.page? cursorOf = none := by
  obtain ⟨long, hlong, hlimit⟩ := hover
  obtain ⟨other, hother, hpage⟩ := List.mem_filterMap.mp hlong
  obtain ⟨items, hanswer, hless⟩ := hshort
  cases haccepted : e.page? cursorOf with
  | none => rfl
  | some page =>
    -- both pages would be that of the last request
    obtain rfl : page = items := by
      cases (Exchange.answer_of_page? haccepted).symm.trans hanswer
      rfl
    obtain ⟨before, hbefore⟩ := h.exists_append_of_not_full he haccepted (by omega)
    obtain ⟨before', hbefore'⟩ := h.exists_append_of_not_full hother hpage (by omega)
    obtain ⟨_, hsame⟩ := List.append_inj' (hbefore.symm.trans hbefore') rfl
    cases List.singleton_inj.mp hsame
    cases haccepted.symm.trans hpage
    omega

/-- The end is reached with a short page or with an overlong one. -/
theorem Describes.short_or_overlong (h : Describes cursorOf limit rounds es l)
    (hexhausted : l.exhausted = true) :
    (∃ e ∈ es, e.Short limit) ∨ Overlong cursorOf limit es := by
  obtain ⟨page, hpage, hne⟩ := h.exhausted_iff.mp hexhausted
  rcases Int.lt_or_gt_of_ne hne with hless | hmore
  · obtain ⟨e, he, haccepted⟩ := List.mem_filterMap.mp hpage
    exact .inl ⟨e, he, page, Exchange.answer_of_page? haccepted, hless⟩
  · exact .inr ⟨page, hpage, hmore⟩

theorem Describes.exhausted_of_overlong (h : Describes cursorOf limit rounds es l)
    (hover : Overlong cursorOf limit es) : l.exhausted = true := by
  obtain ⟨page, hpage, hlimit⟩ := hover
  exact h.exhausted_iff.mpr ⟨page, hpage, by omega⟩

/-! ## What the marks of a listing say -/

/-- That a listing is exhausted says that a short page was received, unless an overlong page was
accepted and no short one dropped before it. -/
theorem Describes.short_of_exhausted_iff (h : Describes cursorOf limit rounds es l) :
    (l.exhausted = true → ∃ e ∈ es, e.Short limit) ↔
      (Overlong cursorOf limit es → ∃ e ∈ es, e.Short limit ∧ e.page? cursorOf = none) := by
  constructor
  · intro hshort hover
    obtain ⟨e, he, hless⟩ := hshort (h.exhausted_of_overlong hover)
    exact ⟨e, he, hless, h.dropped_of_short hover he hless⟩
  · intro hover hexhausted
    rcases h.short_or_overlong hexhausted with hshort | hlong
    · exact hshort
    · obtain ⟨e, he, hless, _⟩ := hover hlong
      exact ⟨e, he, hless⟩

/-- That a listing is complete says so too, unless an overlong page was accepted and nothing was
dropped. -/
theorem Describes.short_of_complete_iff (h : Describes cursorOf limit rounds es l) :
    (l.complete = true → ∃ e ∈ es, e.Short limit) ↔
      (Overlong cursorOf limit es → ∃ e ∈ es, e.page? cursorOf = none) := by
  rw [h.complete_iff]
  constructor
  · intro hshort hover
    refine Classical.byContradiction fun hnone => ?_
    have hall : ∀ e ∈ es, e.page? cursorOf ≠ none := fun e he hdropped => hnone ⟨e, he, hdropped⟩
    obtain ⟨e, he, hless⟩ := hshort ⟨h.exhausted_of_overlong hover, hall⟩
    exact hall e he (h.dropped_of_short hover he hless)
  · rintro hover ⟨hexhausted, hall⟩
    rcases h.short_or_overlong hexhausted with hshort | hlong
    · exact hshort
    · obtain ⟨e, he, hdropped⟩ := hover hlong
      exact absurd hdropped (hall e he)

end

/-- Whatever answers the requests, a listing is returned, and it is complete only if no request
failed. An exhausted listing, and so a complete one, has received a page shorter than the limit,
unless a page longer than the limit was accepted. With that page the end counts as reached too, and
a short page was then received only if it was dropped. -/
theorem collect_exhausted_iff (fetch : Json → Json → Task σ (List α))
    (cursorOf : α → Except Fault Json) (limit iterLimit : Int) (world : σ) :
    ∃ l es after notices,
      (collect fetch cursorOf (.int limit) (.int iterLimit)).start world =
        (.ok l, ⟨after, notices⟩) ∧
      (collect (recorded fetch) cursorOf (.int limit) (.int iterLimit)).start ⟨world, []⟩ =
        (.ok l, ⟨⟨after, es⟩, notices⟩) ∧
      (l.complete = true → ∀ e ∈ es, e.page? cursorOf ≠ none) ∧
      ((l.exhausted = true → ∃ e ∈ es, e.Short limit) ↔
        (Overlong cursorOf limit es → ∃ e ∈ es, e.Short limit ∧ e.page? cursorOf = none)) ∧
      ((l.complete = true → ∃ e ∈ es, e.Short limit) ↔
        (Overlong cursorOf limit es → ∃ e ∈ es, e.page? cursorOf = none)) := by
  obtain ⟨l, es, after, notices, hrun, hrecorded, hdescribes⟩ :=
    collect_described fetch cursorOf limit iterLimit world
  exact ⟨l, es, after, notices, hrun, hrecorded, fun h => (hdescribes.complete_iff.mp h).2,
    hdescribes.short_of_exhausted_iff, hdescribes.short_of_complete_iff⟩

/-! ### One page of three where two were asked for -/

/-- Answers every request with three keys. -/
def threeKeys (_ _ : Json) : Task Unit (List WideText) := return ["a", "b", "c"]

theorem collect_exhausted_iff_threeKeys :
    ∃ l es notices,
      (collect (recorded threeKeys) (fun key => .ok (.str key)) (.int 2) (.int 1)).start ⟨(), []⟩ =
        (.ok l, ⟨⟨(), es⟩, notices⟩) ∧
      Overlong (fun key => .ok (.str key)) 2 es ∧
      l.exhausted = true ∧ l.complete = true ∧ ¬∃ e ∈ es, e.Short 2 := by
  obtain ⟨l, es, after, notices, _, hrecorded, _, hexhausted, _⟩ :=
    collect_exhausted_iff threeKeys (fun key => .ok (.str key)) 2 1 ()
  cases hrecorded
  have hover : Overlong (fun key => .ok (.str key)) 2
      [⟨.null, .int 2, .ok ["a", "b", "c"]⟩] := ⟨["a", "b", "c"], by decide, by decide⟩
  refine ⟨_, _, _, rfl, hover, rfl, rfl, fun hshort => ?_⟩
  -- nothing was dropped
  obtain ⟨e, he, _, hdropped⟩ := hexhausted.mp (fun _ => hshort) hover
  cases List.mem_singleton.mp he
  cases hdropped

end ContractOps.Listing
