import ContractOps.Config.Document
import ContractOps.Proofs.Config.Recoding
import ContractOps.Proofs.Json.Readable
import ContractOps.Proofs.Json.Spelled
import ContractOps.Proofs.Workspace.Contents

/-!
# The configuration as it is loaded again

A configuration that was loaded is saved if no text in it holds half of a surrogate pair
(`toBytes_eq_ok_iff`), and what was saved is loaded again (`load_saved`). New code ids keep a
configuration within the bounds of the reader (`fits_recode`).
-/

namespace ContractOps.Config

variable {allowed : WideText → Prop} {v : Json} {path : WideText} {w : Workspace} {bytes : Bytes}

/-! ## Octets -/

/-- A value of the reader can be saved if no text in it holds a half. -/
theorem toBytes_eq_ok_iff (h : Json.Fits allowed Json.maxDepth v) :
    (∃ bytes, toBytes v = .ok bytes) ↔ Json.Fits Json.Spelled Json.maxDepth v := by
  rw [← Json.spelled_indented_iff h, ← Json.halves?_eq_none_iff 0, toBytes, Utf8.encodeWide, toText]
  cases Utf8.halves? 0 v.indented <;> simp

/-! ## Loading -/

theorem unifyLines_of_ne_return {cs : List Char} (h : ∀ c ∈ cs, c ≠ '\r') :
    Text.unifyLines cs = cs := by
  induction cs with
  | nil => rfl
  | cons c cs ih =>
    obtain ⟨hc, hcs⟩ := List.forall_mem_cons.mp h
    rw [Text.unifyLines, ih hcs]
    · rintro rest rfl
      exact absurd rfl hc
    · rintro rfl
      exact absurd rfl hc

/-- What is loaded depends on the octets of the file alone. -/
theorem exists_read_of_load (h : load w path = .ok v) :
    ∃ bytes, w.read path = .ok bytes ∧
      ∀ w' : Workspace, w'.read path = .ok bytes → load w' path = .ok v := by
  obtain ⟨chars, hchars, hwide⟩ := except_bind_eq_ok.mp h
  obtain ⟨bytes, hread, hdecode⟩ := except_bind_eq_ok.mp hchars
  refine ⟨bytes, hread, fun w' hread' => ?_⟩
  exact except_bind_eq_ok.mpr ⟨chars, except_bind_eq_ok.mpr ⟨bytes, hread', hdecode⟩, hwide⟩

theorem load_of_leaves {w' : Workspace} (hleaves : Workspace.Leaves w w' path)
    (h : load w path = .ok v) : load w' path = .ok v := by
  obtain ⟨bytes, hread, hload⟩ := exists_read_of_load h
  exact hload w' (hleaves.read bytes hread)

/-- A configuration that can be loaded can be written. -/
theorem writable_of_load (h : load w path = .ok v) : w.Writable path := by
  obtain ⟨bytes, hread, _⟩ := exists_read_of_load h
  exact Workspace.writable_of_read hread

/-- What is loaded is read of the text of the file. -/
theorem load_eq_ok_iff {text : List Char} (htext : w.readText path = .ok text) :
    load w path = .ok v ↔ Json.read (.ofChars text) = .ok v := by
  have hload : load w path = ofWide (.ofChars text) := by
    rw [load, htext]
    rfl
  rw [hload, ofWide]
  cases Json.read (.ofChars text) <;> simp

/-- What is loaded is within the bounds of the reader. -/
theorem readable_of_load (h : load w path = .ok v) : Json.Readable Json.maxDepth v := by
  obtain ⟨text, htext, _⟩ := except_bind_eq_ok.mp h
  exact Json.readable_of_read ((load_eq_ok_iff htext).mp h)

/-- The octets of a configuration are those of its text. -/
theorem toBytes_of_toText {chars : List Char} (h : toText v = .ofChars chars) :
    toBytes v = .ok (Utf8.encode chars) := by
  rw [toBytes, h, Utf8.encodeWide_ofChars]

/-- What was saved is loaded again. -/
theorem load_saved (h : Json.Fits allowed Json.maxDepth v) (hbytes : toBytes v = .ok bytes)
    (hread : w.read path = .ok bytes) : load w path = .ok v := by
  have hspelled : Json.Spelled v.indented :=
    (Json.spelled_indented_iff h).mpr ((toBytes_eq_ok_iff h).mp ⟨bytes, hbytes⟩)
  obtain ⟨chars, hchars⟩ := Json.exists_chars hspelled
  have hreturn : ∀ c ∈ chars, c ≠ '\r' := by
    intro c hc
    have hall := List.all_eq_true.mp (Json.all_indented_ne_return h)
    have hne := hall (.char c) (hchars ▸ List.mem_map_of_mem hc)
    simpa using hne
  obtain rfl : Utf8.encode chars = bytes :=
    Except.ok.inj ((toBytes_of_toText hchars).symm.trans hbytes)
  have htext : w.readText path = .ok chars := by
    rw [Workspace.readText_of_read hread, unifyLines_of_ne_return hreturn]
  rw [load_eq_ok_iff htext, ← hchars]
  exact Json.read_indented h

/-! ## New code ids -/

section

/-- The names of the configuration are allowed, and so is every part of a text that is. -/
structure AllowsParts (allowed : WideText → Prop) : Prop where
  name : ∀ s : String, allowed s
  part : ∀ s, allowed s → ∀ c ∈ s, allowed [c]

variable {levels : Nat} {items : List Json} {name : WideText} {value dflt : Json}
  {codes : CodeIds.Assignment}

theorem mem_of_get? {members : Members Json} (h : members.get? name = some v) :
    ∃ m ∈ members, m.2 = v := by
  induction members with
  | nil => cases h
  | cons m rest ih =>
    rw [Members.get?] at h
    split at h
    · cases h
      exact ⟨m, List.mem_cons_self, rfl⟩
    · obtain ⟨found, hmem, hvalue⟩ := ih h
      exact ⟨found, List.mem_cons_of_mem m hmem, hvalue⟩

theorem fits_items (hallowed : AllowsParts allowed) (h : Json.Fits allowed (levels + 1) v)
    (hitems : v.items = .ok items) : ∀ x ∈ items, Json.Fits allowed levels x := by
  intro x hx
  cases h with
  | arr hall =>
    cases hitems
    exact hall x hx
  | obj _ names _ =>
    cases hitems
    obtain ⟨m, hm, rfl⟩ := List.mem_map.mp hx
    exact .str (names m hm)
  | str hs =>
    cases hitems
    obtain ⟨c, hc, rfl⟩ := List.mem_map.mp hx
    exact .str (hallowed.part _ hs c hc)
  | _ => cases hitems

/-- The items of a member, or none. -/
theorem fits_items_getD (hallowed : AllowsParts allowed) (h : Json.Fits allowed (levels + 2) v)
    (hitems : (v.getD name (.arr []) >>= Json.items) = .ok items) :
    ∀ x ∈ items, Json.Fits allowed levels x := by
  obtain ⟨listed, hlisted, hitems⟩ := except_bind_eq_ok.mp hitems
  refine fits_items hallowed ?_ hitems
  cases h with
  | obj _ _ values =>
    rw [Json.getD_obj] at hlisted
    cases hget : Members.get? _ name with
    | none =>
      rw [hget] at hlisted
      cases hlisted
      exact .arr (by simp)
    | some found =>
      rw [hget] at hlisted
      cases hlisted
      obtain ⟨m, hm, rfl⟩ := mem_of_get? hget
      exact values m hm
  | _ => cases hlisted

theorem fits_withMember (h : Json.Fits allowed (levels + 1) v) (hname : allowed name)
    (hvalue : Json.Fits allowed levels value) :
    Json.Fits allowed (levels + 1) (CodeIds.withMember v name value) := by
  cases h with
  | obj unique names values =>
    refine .obj (Members.nodup_put name value unique) (fun m hm => ?_) fun m hm => ?_
    · rcases Members.mem_put hm with hm | rfl
      · exact names m hm
      · exact hname
    · rcases Members.mem_put hm with hm | rfl
      · exact values m hm
      · exact hvalue
  | null => exact .null
  | bool b => exact .bool b
  | int hn => exact .int hn
  | float x => exact .float x
  | str hs => exact .str hs
  | arr hall => exact .arr hall

/-- All code ids are within the bounds of the reader. -/
def CodesFit (allowed : WideText → Prop) (codes : CodeIds.Assignment) : Prop :=
  ∀ p ∈ codes, ∀ levels, Json.Fits allowed levels p.2

theorem fits_recodeContract (hallowed : AllowsParts allowed) (hcodes : CodesFit allowed codes)
    (h : Json.Fits allowed (levels + 1) v) :
    Json.Fits allowed (levels + 1) (CodeIds.recodeContract codes v) := by
  rw [CodeIds.recodeContract]
  split
  · split
    · next hcode =>
      obtain ⟨p, hp, _, rfl⟩ := CodeIds.Assignment.mem_of_get? hcode
      exact fits_withMember h (hallowed.name _) (hcodes p hp levels)
    · exact h
  · exact h

theorem fits_recodeOption (hallowed : AllowsParts allowed) (hcodes : CodesFit allowed codes)
    (chainId : Json) (h : Json.Fits allowed (levels + 3) v) :
    Json.Fits allowed (levels + 3) (CodeIds.recodeOption codes chainId v) := by
  rw [CodeIds.recodeOption]
  split
  · split
    · next contracts hcontracts =>
      refine fits_withMember h (hallowed.name _) (.arr fun x hx => ?_)
      obtain ⟨contract, hmem, rfl⟩ := List.mem_map.mp hx
      exact fits_recodeContract hallowed hcodes (fits_items_getD hallowed h hcontracts _ hmem)
    · exact h
  · exact h

theorem fits_recodeChain (hallowed : AllowsParts allowed) (hcodes : CodesFit allowed codes)
    (chainId : Json) (h : Json.Fits allowed (levels + 5) v) :
    Json.Fits allowed (levels + 5) (CodeIds.recodeChain codes chainId v) := by
  rw [CodeIds.recodeChain]
  split
  · next options hoptions =>
    split
    · refine fits_withMember h (hallowed.name _) (.arr fun x hx => ?_)
      obtain ⟨option, hmem, rfl⟩ := List.mem_map.mp hx
      exact fits_recodeOption hallowed hcodes chainId (fits_items_getD hallowed h hoptions _ hmem)
    · exact h
  · exact h

/-- A configuration with new code ids is within the bounds of the reader if it was before. -/
theorem fits_recode (hallowed : AllowsParts allowed) (hcodes : CodesFit allowed codes)
    (chainId : Json) (h : Json.Fits allowed Json.maxDepth v) :
    Json.Fits allowed Json.maxDepth (CodeIds.recode codes v chainId) := by
  rw [CodeIds.recode]
  split
  · next chains hchains =>
    refine fits_withMember h (hallowed.name _) (.arr fun x hx => ?_)
    obtain ⟨chain, hmem, rfl⟩ := List.mem_map.mp hx
    exact fits_recodeChain hallowed hcodes chainId (fits_items_getD hallowed h hchains _ hmem)
  · exact h

theorem allowsParts_true : AllowsParts fun _ => True := ⟨fun _ => trivial, fun _ _ _ _ => trivial⟩

theorem allowsParts_spelled : AllowsParts Json.Spelled where
  name s := Json.spelled_ofString s
  part s h c hc := by
    have hsome := List.all_eq_true.mp h c hc
    simpa [Json.Spelled] using hsome

end

end ContractOps.Config
