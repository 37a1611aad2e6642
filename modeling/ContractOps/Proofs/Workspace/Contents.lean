import ContractOps.Proofs.Task.Steps
import ContractOps.Workspace.Files

/-!
# What files hold

A path leads to the same name in every workspace in which it leads anywhere (`Path.name`), so that
`Workspace.contents`, the octets under this name, says what becomes of a file from one workspace to
the next. Writing changes the contents of one name (`contents_put`), and making folders changes
none (`contents_makeFolders`).
-/

namespace ContractOps

/-! ## Names -/

namespace Path

/-- The name that parts lead to from another one, if all that they pass are folders. -/
def walk (name : List WideText) : List WideText → List WideText
  | [] => name
  | part :: parts =>
    if part = [] ∨ part = "." then walk name parts
    else if part = ".." then walk name.dropLast parts
    else walk (name ++ [part]) parts

/-- The name that a path leads to. -/
def name (path : WideText) : List WideText := walk [] (parts path)

theorem walk_append (start first second : List WideText) :
    walk start (first ++ second) = walk (walk start first) second := by
  induction first generalizing start with
  | nil => rfl
  | cons part parts ih =>
    rw [List.cons_append, walk, walk]
    split
    · exact ih _
    · split
      · exact ih _
      · exact ih _

/-- A part that is no sign for a folder is added to the name. -/
theorem walk_part (start : List WideText) {part : WideText} (hempty : part ≠ [])
    (hdot : part ≠ ".") (hdots : part ≠ "..") : walk start [part] = start ++ [part] := by
  rw [walk, if_neg (by simp [hempty, hdot]), if_neg hdots]
  rfl

end Path

namespace Workspace

variable {w w' : Workspace} {path other : WideText} {bytes : Bytes}

/-! ## Following paths -/

theorem follow_eq_ok {start found : List WideText} {parts : List WideText}
    (h : w.follow start parts = .ok found) : found = Path.walk start parts := by
  induction parts generalizing start with
  | nil =>
    cases h
    rfl
  | cons part parts ih =>
    rw [follow] at h
    rw [Path.walk]
    split at h
    · cases h
    · cases h
    · split at h
      · cases h
      · split at h
        · next hskip => rw [if_pos hskip, ih h]
        · next hskip =>
          rw [if_neg hskip]
          split at h
          · next hup => rw [if_pos hup, ih h]
          · next hup => rw [if_neg hup, ih h]

/-- A path that leads anywhere leads to its name. -/
theorem locate_eq_ok {found : List WideText} (h : w.locate path = .ok found) :
    found = Path.name path := by
  rw [locate] at h
  split at h
  · cases h
  · exact follow_eq_ok h

/-- A path is followed in a workspace with all the folders of another one as it was there. -/
theorem follow_of_folders (hfolders : ∀ name, w.kind name = .folder → w'.kind name = .folder)
    {start found : List WideText} {parts : List WideText} (h : w.follow start parts = .ok found) :
    w'.follow start parts = .ok found := by
  induction parts generalizing start with
  | nil => exact h
  | cons part parts ih =>
    rw [follow] at h ⊢
    cases hkind : w.kind start with
    | file _ =>
      rw [hkind] at h
      cases h
    | nothing =>
      rw [hkind] at h
      cases h
    | folder =>
      rw [hkind] at h
      rw [hfolders start hkind]
      dsimp only at h ⊢
      split at h
      · cases h
      · next hsize =>
        rw [if_neg hsize]
        split at h
        · next hskip => rw [if_pos hskip, ih h]
        · next hskip =>
          rw [if_neg hskip]
          split at h
          · next hup => rw [if_pos hup, ih h]
          · next hup => rw [if_neg hup, ih h]

theorem locate_of_folders (hfolders : ∀ name, w.kind name = .folder → w'.kind name = .folder)
    {found : List WideText} (h : w.locate path = .ok found) : w'.locate path = .ok found := by
  rw [locate] at h ⊢
  split at h
  · cases h
  · next hpath => rw [if_neg hpath, follow_of_folders hfolders h]

/-! ## Contents -/

/-- The octets of the file that a path names, if there is one. -/
def contents (w : Workspace) (path : WideText) : Option Bytes := lookUp (Path.name path) w.files

theorem kind_eq_file {name : List WideText} :
    w.kind name = .file bytes ↔ lookUp name w.files = some bytes := by
  rw [kind]
  cases lookUp name w.files with
  | some found => simp
  | none =>
    dsimp only
    split <;> simp

theorem kind_eq_folder {name : List WideText} :
    w.kind name = .folder ↔ lookUp name w.files = none ∧ (name = [] ∨ name ∈ w.folders) := by
  rw [kind]
  cases lookUp name w.files with
  | some found => simp
  | none =>
    dsimp only
    split
    · next h => simp [h]
    · next h => simp [h]

theorem lookUp_eq_none {name : List WideText} {files : List (List WideText × Bytes)}
    (h : ∀ file ∈ files, file.1 ≠ name) : lookUp name files = none := by
  induction files with
  | nil => rfl
  | cons file rest ih =>
    obtain ⟨hfile, hrest⟩ := List.forall_mem_cons.mp h
    rw [lookUp, if_neg hfile, ih hrest]

/-- A step on a path succeeds if the path may name a file and the step does. -/
theorem checked_eq_ok {α : Type} {e : Except FileFault α} {a : α} :
    (do checkPath path; fault path e) = .ok a ↔ checkPath path = .ok () ∧ e = .ok a := by
  cases checkPath path with
  | error _ => simp [bind, Except.bind]
  | ok _ => cases e <;> simp [bind, Except.bind, fault]

/-- What is read are the contents. -/
theorem read_eq_ok : w.read path = .ok bytes ↔
    checkPath path = .ok () ∧ w.locate path = .ok (Path.name path) ∧
      w.contents path = some bytes := by
  rw [read, checked_eq_ok, except_bind_eq_ok]
  apply and_congr_right
  intro _
  constructor
  · rintro ⟨name, hname, h⟩
    cases locate_eq_ok hname
    refine ⟨hname, kind_eq_file.mp ?_⟩
    cases hkind : w.kind (Path.name path) with
    | file found =>
      rw [hkind] at h
      cases h
      rfl
    | _ =>
      rw [hkind] at h
      cases h
  · rintro ⟨hname, hcontents⟩
    refine ⟨Path.name path, hname, ?_⟩
    rw [kind_eq_file.mpr hcontents]
    rfl

/-- What was encoded is read as text. -/
theorem readText_of_read {chars : List Char} (h : w.read path = .ok (Utf8.encode chars)) :
    w.readText path = .ok (Text.unifyLines chars) := by
  rw [readText, h]
  dsimp only [bind, Except.bind]
  rw [Utf8.decode?_encode]
  rfl

/-- The workspace with a file replaced, or with another one. -/
def put (w : Workspace) (path : WideText) (bytes : Bytes) : Workspace :=
  { w with files := replace (Path.name path) bytes w.files }

/-- A path that leads to a file, or to where one can be. -/
structure Writable (w : Workspace) (path : WideText) : Prop where
  check : checkPath path = .ok ()
  locate : w.locate path = .ok (Path.name path)
  kind : w.kind (Path.name path) ≠ .folder

theorem write_eq_ok : w.write path bytes = .ok w' ↔ w.Writable path ∧ w' = w.put path bytes := by
  rw [write, checked_eq_ok, except_bind_eq_ok]
  constructor
  · rintro ⟨hcheck, name, hname, h⟩
    cases locate_eq_ok hname
    cases hkind : w.kind (Path.name path) with
    | folder =>
      rw [hkind] at h
      cases h
    | _ =>
      rw [hkind] at h
      cases h
      exact ⟨⟨hcheck, hname, by simp [hkind]⟩, rfl⟩
  · rintro ⟨⟨hcheck, hname, hkind⟩, rfl⟩
    refine ⟨hcheck, Path.name path, hname, ?_⟩
    cases h : w.kind (Path.name path) with
    | folder => exact absurd h hkind
    | _ => rfl

theorem Writable.write (h : w.Writable path) (bytes : Bytes) :
    w.write path bytes = .ok (w.put path bytes) :=
  write_eq_ok.mpr ⟨h, rfl⟩

/-- A file that can be read can be written. -/
theorem writable_of_read (h : w.read path = .ok bytes) : w.Writable path := by
  obtain ⟨hcheck, hlocate, hcontents⟩ := read_eq_ok.mp h
  exact ⟨hcheck, hlocate, by simp [kind_eq_file.mpr hcontents]⟩

/-- Where a file can be, there is one if it has contents. -/
theorem Writable.has_eq (h : w.Writable path) : w.has path = (w.contents path).isSome := by
  unfold has
  rw [h.check, h.locate]
  show (w.kind (Path.name path) != .nothing) = _
  cases hkind : w.kind (Path.name path) with
  | file bytes =>
    have hcontents : w.contents path = some bytes := kind_eq_file.mp hkind
    simp [hcontents]
  | folder => exact absurd hkind h.kind
  | nothing =>
    cases hcontents : w.contents path with
    | none => simp
    | some bytes =>
      have hfile : w.kind (Path.name path) = .file bytes := kind_eq_file.mpr hcontents
      cases hkind.symm.trans hfile

/-! ## Writing -/

theorem lookUp_replace (name other : List WideText) (bytes : Bytes)
    (files : List (List WideText × Bytes)) :
    lookUp other (replace name bytes files) =
      if other = name then some bytes else lookUp other files := by
  induction files with
  | nil =>
    rw [replace, lookUp, lookUp]
    by_cases h : other = name
    · rw [if_pos h.symm, if_pos h]
    · rw [if_neg (Ne.symm h), if_neg h, lookUp]
  | cons file rest ih =>
    obtain ⟨found, old⟩ := file
    rw [replace]
    by_cases hfound : found = name
    · subst hfound
      rw [if_pos rfl, lookUp, lookUp]
      by_cases h : other = found
      · rw [if_pos h.symm, if_pos h]
      · rw [if_neg (Ne.symm h), if_neg (Ne.symm h), if_neg h]
    · rw [if_neg hfound, lookUp, lookUp, ih]
      by_cases h : found = other
      · subst h
        rw [if_pos rfl, if_neg hfound, if_pos rfl]
      · rw [if_neg h, if_neg h]

theorem replace_replace (name : List WideText) (first second : Bytes)
    (files : List (List WideText × Bytes)) :
    replace name second (replace name first files) = replace name second files := by
  induction files with
  | nil => simp [replace]
  | cons file rest ih =>
    obtain ⟨found, old⟩ := file
    by_cases hfound : found = name
    · simp [replace, hfound]
    · simp [replace, hfound, ih]

/-- Writing changes the contents of one name. -/
theorem contents_put (w : Workspace) (path : WideText) (bytes : Bytes) (other : WideText) :
    (w.put path bytes).contents other =
      if Path.name other = Path.name path then some bytes else w.contents other :=
  lookUp_replace _ _ _ _

@[simp] theorem contents_put_self (w : Workspace) (path : WideText) (bytes : Bytes) :
    (w.put path bytes).contents path = some bytes := by
  rw [contents_put, if_pos rfl]

/-- Of two writes to a file the second one counts. -/
@[simp] theorem put_put (w : Workspace) (path : WideText) (first second : Bytes) :
    (w.put path first).put path second = w.put path second := by
  rw [put, put, replace_replace]
  rfl

/-- Writing changes no folder. -/
theorem Writable.kind_put (h : w.Writable path) (bytes : Bytes) (name : List WideText) :
    (w.put path bytes).kind name = .folder ↔ w.kind name = .folder := by
  rw [kind_eq_folder, kind_eq_folder, put, lookUp_replace]
  by_cases hname : name = Path.name path
  · rw [if_pos hname]
    constructor
    · rintro ⟨hnone, _⟩
      cases hnone
    · intro hfolder
      exact absurd (kind_eq_folder.mpr hfolder) (hname ▸ h.kind)
  · rw [if_neg hname]

theorem Writable.locate_put (h : w.Writable path) (bytes : Bytes) {found : List WideText}
    (hlocate : w.locate other = .ok found) : (w.put path bytes).locate other = .ok found :=
  locate_of_folders (fun name => (h.kind_put bytes name).mpr) hlocate

/-- A file that has been written can be written again. -/
theorem Writable.put (h : w.Writable path) (bytes : Bytes) : (w.put path bytes).Writable path where
  check := h.check
  locate := h.locate_put bytes h.locate
  kind := by
    rw [Ne, h.kind_put]
    exact h.kind

/-- What was written is read. -/
theorem Writable.read_put (h : w.Writable path) (bytes : Bytes) :
    (w.put path bytes).read path = .ok bytes :=
  read_eq_ok.mpr ⟨h.check, h.locate_put bytes h.locate, contents_put_self w path bytes⟩

/-- Files of other names are read as before. -/
theorem Writable.read_put_of_ne (h : w.Writable path) (bytes : Bytes)
    (hother : Path.name other ≠ Path.name path) {old : Bytes} (hread : w.read other = .ok old) :
    (w.put path bytes).read other = .ok old := by
  obtain ⟨hcheck, hlocate, hcontents⟩ := read_eq_ok.mp hread
  refine read_eq_ok.mpr ⟨hcheck, h.locate_put bytes hlocate, ?_⟩
  rw [contents_put, if_neg hother, hcontents]

/-! ## Making folders -/

theorem makeFolder_eq_ok {name : List WideText} (h : w.makeFolder name = .ok w') :
    w'.files = w.files ∧ ∀ other, w.kind other = .folder → w'.kind other = .folder := by
  rw [makeFolder] at h
  split at h
  · cases h
  · cases h
    exact ⟨rfl, fun _ h => h⟩
  · cases h
    refine ⟨rfl, fun other hother => ?_⟩
    rw [kind_eq_folder] at hother ⊢
    exact ⟨hother.1, hother.2.imp_right (List.mem_append_left _)⟩

theorem makeAlong_eq_ok {start : List WideText} {parts : List WideText}
    (h : w.makeAlong start parts = .ok w') :
    w'.files = w.files ∧ ∀ other, w.kind other = .folder → w'.kind other = .folder := by
  induction parts generalizing w start with
  | nil => exact makeFolder_eq_ok h
  | cons part parts ih =>
    rw [makeAlong] at h
    split at h
    · cases h
    · next between hbetween =>
      obtain ⟨hfiles, hfolders⟩ := makeFolder_eq_ok hbetween
      have hrest : ∀ {next}, between.makeAlong next parts = .ok w' →
          w'.files = w.files ∧ ∀ other, w.kind other = .folder → w'.kind other = .folder := by
        intro next hnext
        obtain ⟨hfiles', hfolders'⟩ := ih hnext
        exact ⟨hfiles'.trans hfiles, fun other hother => hfolders' other (hfolders other hother)⟩
      split at h
      · cases h
      · split at h
        · exact hrest h
        · split at h
          · exact hrest h
          · exact hrest h

theorem makeFolders_eq_ok (h : w.makeFolders path = .ok w') :
    w'.files = w.files ∧ ∀ other, w.kind other = .folder → w'.kind other = .folder := by
  obtain ⟨_, h⟩ := checked_eq_ok.mp h
  split at h
  · cases h
  · exact makeAlong_eq_ok h

/-- Making folders changes no contents. -/
theorem contents_makeFolders (h : w.makeFolders path = .ok w') (other : WideText) :
    w'.contents other = w.contents other := by
  rw [contents, (makeFolders_eq_ok h).1]
  rfl

/-- A file is read as before folders were made. -/
theorem read_makeFolders (h : w.makeFolders path = .ok w') (hread : w.read other = .ok bytes) :
    w'.read other = .ok bytes := by
  obtain ⟨hcheck, hlocate, hcontents⟩ := read_eq_ok.mp hread
  refine read_eq_ok.mpr ⟨hcheck, locate_of_folders (makeFolders_eq_ok h).2 hlocate, ?_⟩
  rw [contents_makeFolders h, hcontents]

/-! ## Files left alone -/

/-- A file is left as it was. -/
structure Leaves (before after : Workspace) (path : WideText) : Prop where
  contents : after.contents path = before.contents path
  read : ∀ bytes, before.read path = .ok bytes → after.read path = .ok bytes

theorem Leaves.trans {before between after : Workspace} (h : Leaves before between path)
    (h' : Leaves between after path) : Leaves before after path where
  contents := h'.contents.trans h.contents
  read bytes hread := h'.read bytes (h.read bytes hread)

/-- Writing leaves other files alone. -/
theorem Writable.leaves_put (h : w.Writable path) (bytes : Bytes)
    (hother : Path.name other ≠ Path.name path) : Leaves w (w.put path bytes) other where
  contents := by rw [contents_put, if_neg hother]
  read _ hread := h.read_put_of_ne bytes hother hread

/-- Making folders leaves all files alone. -/
theorem leaves_makeFolders {folder : WideText} (h : w.makeFolders folder = .ok w')
    (path : WideText) : Leaves w w' path where
  contents := contents_makeFolders h path
  read _ hread := read_makeFolders h hread

end Workspace

end ContractOps
