import ContractOps.Proofs.Json.RoundTrip

/-!
# What is read

A value that the reader gives is within its bounds (`readable_of_read`), so that it is read back
when it is printed. What holds of all texts in it follows from what holds of the text that was read,
if that is kept behind everything but escapes (`fits_of_read`).
-/

namespace ContractOps.Json

variable {levels : Nat} {cs left rest : WideText} {v : Json}

/-! ## Digits -/

theorem count_of_lt {n : Nat} (h : n < 10) : Digits.count n = 1 := by
  rw [Digits.count, if_pos h]

/-- A digit more makes a number longer by one digit, at most. -/
theorem count_digit_le {n d : Nat} (h : d < 10) : Digits.count (10 * n + d) ≤ Digits.count n + 1 := by
  by_cases hlow : 10 * n + d < 10
  · have hone := count_of_lt hlow
    omega
  · have htens : (10 * n + d) / 10 = n := by omega
    have hmore : Digits.count (10 * n + d) = Digits.count n + 1 := by
      rw [Digits.count, if_neg hlow, htens]
    omega

theorem count_digits_le {ds : List Nat} (h : ∀ d ∈ ds, d < 10) (start : Nat) :
    Digits.count (ds.foldl (fun n d => 10 * n + d) start) ≤ Digits.count start + ds.length := by
  induction ds generalizing start with
  | nil => simp
  | cons d ds ih =>
    obtain ⟨hd, hrest⟩ := List.forall_mem_cons.mp h
    have hfirst := count_digit_le (n := start) hd
    have hds := ih hrest (10 * start + d)
    rw [List.foldl_cons, List.length_cons]
    omega

/-- A run of digits denotes a number with no more digits. -/
theorem count_ofChars_le {cs : List Char} (h : cs ≠ []) :
    Digits.count (Digits.ofChars cs) ≤ cs.length := by
  have hvalues : ∀ d ∈ cs.filterMap Digits.value?, d < 10 := by
    intro d hd
    obtain ⟨c, _, hc⟩ := List.mem_filterMap.mp hd
    rw [Digits.value?] at hc
    split at hc
    · next hrange =>
      cases hc
      have hle : c.toNat ≤ '9'.toNat := hrange.2
      have : '9'.toNat = 57 := rfl
      omega
    · cases hc
  have hlength := List.length_filterMap_le Digits.value? cs
  have hpositive : 0 < cs.length := List.length_pos_iff.mpr h
  show Digits.count ((cs.filterMap Digits.value?).foldl (fun n d => 10 * n + d) 0) ≤ _
  cases hds : cs.filterMap Digits.value? with
  | nil =>
    have hzero : Digits.count 0 = 1 := count_of_lt (by decide)
    rw [List.foldl_nil]
    omega
  | cons d ds =>
    rw [hds] at hvalues hlength
    obtain ⟨hd, hrest⟩ := List.forall_mem_cons.mp hvalues
    -- the first digit is the start of the number
    have hfirst : Digits.count (10 * 0 + d) = 1 := count_of_lt (by omega)
    have hall := count_digits_le hrest (10 * 0 + d)
    rw [List.length_cons] at hlength
    rw [List.foldl_cons]
    omega

theorem ne_nil_of_wholePart {whole : List Char} (h : wholePart cs = some (whole, left)) :
    whole ≠ [] := by
  rw [wholePart.eq_def] at h
  split at h
  · cases h
    simp
  · split at h
    · cases h
    · next hne =>
      rintro rfl
      exact hne _ (Option.some.inj h)

/-! ## What is left to be read -/

/-- What is left of a text has a property that it keeps behind every character that begins no
escape. Texts in quotes that are read where it holds are allowed, and it holds behind them. -/
structure Admits (allowed ahead : WideText → Prop) : Prop where
  behind : ∀ {c : CodePoint} {cs : WideText}, c ≠ .char '\\' → ahead (c :: cs) → ahead cs
  text : ∀ {start cs body : WideText} {after : { r : WideText // r.length < cs.length }},
    textBody start cs = .ok (body, after) → ahead cs → allowed body ∧ ahead after

variable {allowed ahead : WideText → Prop}

/-- A character of a class to which no backslash belongs. -/
theorem Admits.behind_is (h : Admits allowed ahead) {p : Char → Bool} (hp : p '\\' = false)
    {c : CodePoint} (hc : c.is p = true) (hcs : ahead (c :: cs)) : ahead cs := by
  refine h.behind ?_ hcs
  rintro rfl
  rw [CodePoint.is_char, hp] at hc
  cases hc

theorem Admits.skip (h : Admits allowed ahead) (hcs : ahead cs) : ahead (skip cs) := by
  induction cs with
  | nil => exact hcs
  | cons c cs ih =>
    rw [Json.skip]
    split
    · next hlayout => exact ih (h.behind_is (by decide) hlayout hcs)
    · exact hcs

theorem Admits.digits (h : Admits allowed ahead) (hcs : ahead cs) : ahead (digits cs).2 := by
  induction cs with
  | nil => exact hcs
  | cons c cs ih =>
    cases hc : c.is Digits.isDigit with
    | true =>
      have hrest := ih (h.behind_is (by decide) hc hcs)
      simpa [Json.digits, hc] using hrest
    | false =>
      rw [digits_other hc]
      exact hcs

/-- Digits that have to be there. -/
theorem Admits.someDigits (h : Admits allowed ahead) (hcs : ahead cs)
    {part : List Char × WideText} (hpart : (match Json.digits cs with
      | ([], _) => none
      | part => some part) = some part) : ahead part.2 := by
  have hrest := h.digits hcs
  split at hpart
  · cases hpart
  · cases hpart
    exact hrest

theorem Admits.dropMinus (h : Admits allowed ahead) (hcs : ahead cs) : ahead (dropMinus cs).2 := by
  rw [Json.dropMinus.eq_def]
  split
  · exact h.behind (by decide) hcs
  · exact hcs

theorem Admits.wholePart (h : Admits allowed ahead) (hcs : ahead cs)
    {part : List Char × WideText} (hpart : wholePart cs = some part) : ahead part.2 := by
  rw [Json.wholePart.eq_def] at hpart
  split at hpart
  · cases hpart
    exact h.behind (by decide) hcs
  · exact h.someDigits hcs hpart

theorem Admits.fractionPart (h : Admits allowed ahead) (hcs : ahead cs)
    {part : List Char × WideText} (hpart : fractionPart cs = some part) : ahead part.2 := by
  rw [Json.fractionPart.eq_def] at hpart
  split at hpart
  · exact h.someDigits (h.behind (by decide) hcs) hpart
  · cases hpart

theorem Admits.exponentSign (h : Admits allowed ahead) (hcs : ahead cs) :
    ahead (exponentSign cs).2 := by
  rw [Json.exponentSign.eq_def]
  split
  · exact h.behind (by decide) hcs
  · exact h.behind (by decide) hcs
  · exact hcs

theorem Admits.exponentPart (h : Admits allowed ahead) (hcs : ahead cs) {part : Int × WideText}
    (hpart : exponentPart cs = some part) : ahead part.2 := by
  rw [Json.exponentPart.eq_def] at hpart
  split at hpart
  · next c rest =>
    split at hpart
    · next hmark =>
      have hrest : ahead rest := by
        refine h.behind ?_ hcs
        rcases hmark with rfl | rfl <;> decide
      have hdigits := h.digits (h.exponentSign hrest)
      dsimp only at hpart
      split at hpart
      · cases hpart
      · next hread =>
        cases hpart
        rwa [hread] at hdigits
    · cases hpart
  · cases hpart

theorem Admits.number (h : Admits allowed ahead) (hcs : ahead cs)
    (hnumber : number? cs = some (.ok (v, left))) : ahead left := by
  rw [number?] at hnumber
  have hbody := h.dropMinus hcs
  rcases hsign : Json.dropMinus cs with ⟨negative, body⟩
  rw [hsign] at hnumber hbody
  dsimp only at hnumber hbody
  split at hnumber
  · cases hnumber
  · next whole rest hwhole =>
    -- the fraction and the exponent are passed where they stand, whichever the number becomes
    have hrest : ahead rest := h.wholePart hbody hwhole
    have hbetween : ahead (((Json.fractionPart rest).map (·.2)).getD rest) := by
      cases hplaces : Json.fractionPart rest with
      | none => exact hrest
      | some part => exact h.fractionPart hrest hplaces
    have hafter : ahead (((Json.exponentPart (((Json.fractionPart rest).map (·.2)).getD rest)).map
        (·.2)).getD (((Json.fractionPart rest).map (·.2)).getD rest)) := by
      cases hpower : Json.exponentPart (((Json.fractionPart rest).map (·.2)).getD rest) with
      | none => exact hbetween
      | some part => exact h.exponentPart hbetween hpower
    split at hnumber
    · split at hnumber
      · cases hnumber
      · cases hnumber
        exact hafter
    · cases hnumber
      exact hafter

theorem Admits.afterWord (h : Admits allowed ahead) {word : WideText}
    (hword : .char '\\' ∉ word) (hcs : ahead cs) (hrest : afterWord? word cs = some rest) :
    ahead rest := by
  induction word generalizing cs with
  | nil =>
    cases hrest
    exact hcs
  | cons w ws ih =>
    rw [List.mem_cons, not_or] at hword
    cases cs with
    | nil => cases hrest
    | cons c cs =>
      rw [afterWord?] at hrest
      split at hrest
      · next heq =>
        subst heq
        exact ih hword.2 (h.behind (Ne.symm hword.1) hcs) hrest
      · cases hrest

/-! ## Words and numbers -/

theorem fits_of_number (h : number? cs = some (.ok (v, left))) : Fits allowed levels v := by
  rw [number?] at h
  rcases hsign : dropMinus cs with ⟨negative, body⟩
  rw [hsign] at h
  dsimp only at h
  split at h
  · cases h
  · next whole between hwhole =>
    split at h
    · split at h
      · cases h
      · next hshort =>
        cases h
        refine .int ?_
        have hcount := count_ofChars_le (ne_nil_of_wholePart hwhole)
        have habs : (if negative then -(Digits.ofChars whole : Int)
            else Digits.ofChars whole).natAbs = Digits.ofChars whole := by
          split <;> simp
        rw [habs]
        omega
    · cases h
      exact .float _

theorem fits_of_atom (hadmits : Admits allowed ahead) (hcs : ahead cs)
    {after : { r : WideText // r.length < cs.length }} (h : atom cs = .ok (v, after)) :
    Fits allowed levels v ∧ ahead after := by
  have hwords : ∀ p ∈ wordValues, CodePoint.char '\\' ∉ p.1 := by decide
  rw [atom] at h
  split at h
  · next w left hword =>
    split at h
    · cases h
      obtain ⟨p, hp, hmap⟩ := List.exists_of_findSome?_eq_some hword
      obtain ⟨rest, hafter, heq⟩ := Option.map_eq_some_iff.mp hmap
      cases heq
      refine ⟨?_, hadmits.afterWord (hwords p hp) hcs hafter⟩
      simp only [wordValues, List.mem_cons, List.not_mem_nil, or_false] at hp
      rcases hp with rfl | rfl | rfl | rfl | rfl | rfl
      · exact .null
      · exact .bool true
      · exact .bool false
      · exact .float _
      · exact .float _
      · exact .float _
    · cases h
  · split at h
    · next hnumber =>
      split at h
      · cases h
        exact ⟨fits_of_number hnumber, hadmits.number hcs hnumber⟩
      · cases h
    · cases h
    · cases h

/-! ## Objects -/

/-- An object of members that the reader takes is one. -/
theorem fits_ofList {members : List (WideText × Json)}
    (h : ∀ m ∈ members, allowed m.1 ∧ Fits allowed levels m.2) :
    Fits allowed (levels + 1) (.obj (Members.ofList members)) :=
  .obj (Members.nodup_ofList members) (fun m hm => (h m (Members.mem_ofList hm)).1)
    fun m hm => (h m (Members.mem_ofList hm)).2

/-! ## Values -/

mutual

/-- What is read of a text fits. -/
theorem fits_of_scan {levels : Nat} {cs : WideText} {v : Json}
    {after : { r : WideText // r.length < cs.length }} (hadmits : Admits allowed ahead)
    (hcs : ahead cs) (h : scan levels cs = .ok (v, after)) :
    Fits allowed levels v ∧ ahead after := by
  rw [scan.eq_def] at h
  split at h
  · -- a text in quotes
    next rest =>
    split at h
    · cases h
    · next hbody =>
      cases h
      exact (hadmits.text hbody (hadmits.behind (by decide) hcs)).imp_left .str
  · -- an array
    next rest =>
    have hskip := length_skip_le rest
    have hinner := hadmits.skip (hadmits.behind (by decide) hcs)
    split at h
    · cases h
    · split at h
      · next hclose =>
        cases h
        rw [hclose] at hinner
        exact ⟨.arr (by simp), hadmits.behind (by decide) hinner⟩
      · split at h
        · cases h
        · next hitems =>
          cases h
          exact (fits_of_scanItems hadmits hinner hitems).imp_left .arr
  · -- an object
    next rest =>
    have hskip := length_skip_le rest
    have hinner := hadmits.skip (hadmits.behind (by decide) hcs)
    split at h
    · cases h
    · split at h
      · next hclose =>
        cases h
        rw [hclose] at hinner
        exact ⟨.obj List.nodup_nil (by simp) (by simp), hadmits.behind (by decide) hinner⟩
      · split at h
        · cases h
        · next hmembers =>
          cases h
          exact (fits_of_scanMembers hadmits hinner hmembers).imp_left fits_ofList
  · exact fits_of_atom hadmits hcs h
termination_by 2 * cs.length
decreasing_by
  all_goals
    subst_vars
    rw [List.length_cons]
    omega

theorem fits_of_scanItems {levels : Nat} {cs : WideText} {items : List Json}
    {after : { r : WideText // r.length < cs.length }} (hadmits : Admits allowed ahead)
    (hcs : ahead cs) (h : scanItems levels cs = .ok (items, after)) :
    (∀ v ∈ items, Fits allowed levels v) ∧ ahead after := by
  rw [scanItems.eq_def] at h
  split at h
  · cases h
  · next v rest hlt hscan =>
    obtain ⟨hv, hleft⟩ := fits_of_scan hadmits hcs hscan
    have hrest := length_skip_le rest
    have hnext := hadmits.skip hleft
    dsimp only at h
    split at h
    · next hclose =>
      cases h
      rw [hclose] at hnext
      exact ⟨by simpa using hv, hadmits.behind (by decide) hnext⟩
    · next more hcomma =>
      have hmore := length_skip_le more
      rw [hcomma] at hnext
      split at h
      · cases h
      · next hitems =>
        have hshorter : (skip more).length < cs.length := by
          rw [hcomma, List.length_cons] at hrest
          omega
        cases h
        have hvs := fits_of_scanItems hadmits (hadmits.skip (hadmits.behind (by decide) hnext)) hitems
        exact hvs.imp_left fun hall => List.forall_mem_cons.mpr ⟨hv, hall⟩
    · cases h
termination_by 2 * cs.length + 1
decreasing_by
  · omega
  · omega

theorem fits_of_scanMembers {levels : Nat} {cs : WideText} {members : List (WideText × Json)}
    {after : { r : WideText // r.length < cs.length }} (hadmits : Admits allowed ahead)
    (hcs : ahead cs) (h : scanMembers levels cs = .ok (members, after)) :
    (∀ m ∈ members, allowed m.1 ∧ Fits allowed levels m.2) ∧ ahead after := by
  rw [scanMembers.eq_def] at h
  split at h
  · next start =>
    split at h
    · cases h
    · next afterName _ hname =>
      obtain ⟨hallowed, hbehind⟩ := hadmits.text hname (hadmits.behind (by decide) hcs)
      have hafter := length_skip_le afterName
      have hseparator := hadmits.skip hbehind
      dsimp only at h
      split at h
      · next between hcolon =>
        have hbetween := length_skip_le between
        rw [hcolon] at hseparator
        split at h
        · cases h
        · next rest hlt hscan =>
          have hvalue : (skip between).length < start.length := by
            rw [hcolon, List.length_cons] at hafter
            omega
          have hrest := length_skip_le rest
          obtain ⟨hv, hleft⟩ := fits_of_scan hadmits
            (hadmits.skip (hadmits.behind (by decide) hseparator)) hscan
          have hnext := hadmits.skip hleft
          split at h
          · next hclose =>
            cases h
            rw [hclose] at hnext
            exact ⟨by simpa using ⟨hallowed, hv⟩, hadmits.behind (by decide) hnext⟩
          · next more hcomma =>
            have hmore := length_skip_le more
            have hshorter : (skip more).length < start.length := by
              rw [hcomma, List.length_cons] at hrest
              omega
            rw [hcomma] at hnext
            split at h
            · cases h
            · next hmembers =>
              cases h
              have hms := fits_of_scanMembers hadmits
                (hadmits.skip (hadmits.behind (by decide) hnext)) hmembers
              exact hms.imp_left fun hall => List.forall_mem_cons.mpr ⟨⟨hallowed, hv⟩, hall⟩
          · cases h
      · cases h
  · cases h
termination_by 2 * cs.length
decreasing_by
  all_goals
    subst_vars
    rw [List.length_cons]
    omega

end

/-- What is read of a whole text fits. -/
theorem fits_of_read (hadmits : Admits allowed ahead) (hcs : ahead cs) (h : read cs = .ok v) :
    Fits allowed maxDepth v := by
  have hwhole : ∀ {text : WideText}, ahead text → readWholeWithin maxDepth text = .ok v →
      Fits allowed maxDepth v := by
    intro text hahead htext
    rw [readWholeWithin] at htext
    split at htext
    · cases htext
    · next hscan =>
      split at htext
      · cases htext
        exact (fits_of_scan hadmits (hadmits.skip hahead) hscan).1
      · cases htext
  rw [read, readWithin.eq_def] at h
  split at h
  · cases h
  · exact hwhole hcs h

/-- What the reader takes, with any texts. -/
abbrev Readable (levels : Nat) (v : Json) : Prop := Fits (fun _ => True) levels v

/-- What is read of a whole text is within the bounds. -/
theorem readable_of_read (h : read cs = .ok v) : Readable maxDepth v :=
  fits_of_read ⟨fun _ _ => trivial, fun _ _ => ⟨trivial, trivial⟩⟩ trivial h

end ContractOps.Json
