import ContractOps.Proofs.Config.Saved
import ContractOps.Proofs.Json.Escapes
import ContractOps.Proofs.Json.Same

/-!
# The normal form of a configuration file

A configuration that was loaded is saved in a form that is loaded as the same configuration and is
saved as it is (`save_normal`), if halves of surrogate pairs were escaped in pairs only.
-/

namespace ContractOps.Config

variable {v : Json} {path out : WideText} {w : Workspace} {text : List Char}

/-- A configuration without halves has a text. Wherever the text is written, it is loaded. -/
theorem exists_normal (h : Json.Fits Json.Spelled Json.maxDepth v) :
    ∃ normal : List Char, toText v = .ofChars normal ∧
      ∀ {w : Workspace} {path : WideText}, w.Writable path →
        ∃ saved, save w path v = .ok saved ∧ saved.read path = .ok (Utf8.encode normal) ∧
          load saved path = .ok v := by
  obtain ⟨normal, hnormal⟩ := Json.exists_chars ((Json.spelled_indented_iff h).mpr h)
  have hbytes : toBytes v = .ok (Utf8.encode normal) := toBytes_of_toText hnormal
  refine ⟨normal, hnormal, fun {w path} hpath => ?_⟩
  have hread := hpath.read_put (Utf8.encode normal)
  refine ⟨w.put path (Utf8.encode normal), ?_, hread, load_saved h hbytes hread⟩
  rw [save, hbytes]
  exact hpath.write _

/-- A configuration that was loaded can be saved wherever a file can be. What is saved is loaded as
the same configuration, and when this is saved in turn, there or elsewhere, the octets are the
same. -/
theorem save_normal (htext : w.readText path = .ok text) (hload : load w path = .ok v)
    (hpairs : Json.pairsHalves false (.ofChars text) = true) (hout : w.Writable out) :
    ∃ (saved : Workspace) (normal : List Char),
      save w out v = .ok saved ∧ toText v = .ofChars normal ∧
        saved.read out = .ok (Utf8.encode normal) ∧ load saved out = .ok v ∧
        ∀ again, saved.Writable again →
          ∃ resaved, save saved again v = .ok resaved ∧
            resaved.read again = .ok (Utf8.encode normal) := by
  have hfits := Json.spelled_of_read (.ofChars hpairs) ((load_eq_ok_iff htext).mp hload)
  obtain ⟨normal, hnormal, hsaves⟩ := exists_normal hfits
  obtain ⟨saved, hsave, hread, hreload⟩ := hsaves hout
  refine ⟨saved, normal, hsave, hnormal, hread, hreload, fun again hagain => ?_⟩
  obtain ⟨resaved, hresave, hreread, _⟩ := hsaves hagain
  exact ⟨resaved, hresave, hreread⟩

/-! ### A text with escapes, and with a name that occurs twice -/

/-- Line ends of another system, escapes with a pair of halves among them, a name that occurs twice,
and numbers in several spellings. -/
def escapedText : String :=
  "\x7b\"CHAINS\": 1,\r\n \"\\ud83d\\uDE00\\u000a\": [2.50, -25e-2, 1E400, NaN, -0.0, -12],\r\n" ++
    " \"CHAINS\": [\x7b\x7d, [], \"\\u0041\\/\"]\x7d"

/-- What the text holds. -/
def escapedValue : Json :=
  .obj [("CHAINS", .arr [.obj [], .arr [], .str "A/"]),
    ("😀\n", .arr [.float (.ofRatio false 5 2), .float (.ofRatio true 1 4),
      .float (.infinite false), .float .nan, .float (.zero true), .int (-12)])]

/-- Its normal form. -/
def normalText : String :=
  "\x7b\n  \"CHAINS\": [\n    \x7b\x7d,\n    [],\n    \"A/\"\n  ],\n  \"😀\\n\": [\n" ++
    "    2.5,\n    -0.25,\n    Infinity,\n    NaN,\n    -0.0,\n    -12\n  ]\n\x7d"

/-- The text in a file. -/
def escapedFiles : Workspace := .ofFiles [("c", Utf8.ofString escapedText)]

theorem save_normal_escaped :
    escapedFiles.readText "c" = .ok (Text.unifyLines escapedText.toList) ∧
    load escapedFiles "c" = .ok escapedValue ∧
    Json.pairsHalves false (.ofChars (Text.unifyLines escapedText.toList)) = true ∧
    escapedFiles.Writable "c" ∧
    ∃ saved, save escapedFiles "c" escapedValue = .ok saved ∧
      saved.read "c" = .ok (Utf8.ofString normalText) ∧ load saved "c" = .ok escapedValue ∧
      ∀ again, saved.Writable again →
        ∃ resaved, save saved again escapedValue = .ok resaved ∧
          resaved.read again = .ok (Utf8.ofString normalText) := by
  have hread : ∀ bytes, (Workspace.ofFiles [("c", bytes)]).read "c" = .ok bytes := fun _ => rfl
  have hfile : escapedFiles.read "c" = .ok (Utf8.encode escapedText.toList) := hread _
  have htext := Workspace.readText_of_read hfile
  have hvalue : Json.read (.ofChars (Text.unifyLines escapedText.toList)) = .ok escapedValue := by
    decide +kernel
  have hload : load escapedFiles "c" = .ok escapedValue := (load_eq_ok_iff htext).mpr hvalue
  have hpairs : Json.pairsHalves false (.ofChars (Text.unifyLines escapedText.toList)) = true := by
    decide +kernel
  have hout : escapedFiles.Writable "c" := Workspace.writable_of_read hfile
  obtain ⟨saved, normal, hsave, hnormal, hsaved, hreload, hagain⟩ :=
    save_normal htext hload hpairs hout
  have hform : toText escapedValue = .ofChars normalText.toList := by decide +kernel
  have hchars : normal = normalText.toList :=
    WideText.ofChars_injective (hnormal.symm.trans hform)
  rw [hchars] at hsaved hagain
  exact ⟨htext, hload, hpairs, hout, saved, hsave, hsaved, hreload, hagain⟩

end ContractOps.Config
