import Grok.Proofs.Library.Overriding
import Grok.Proofs.Text.Decoding

namespace Grok

/-!
# Loading directories

The directories of a library are loaded one after the other, and the first path that cannot be read
ends it. Neither the order in which a directory is listed nor what it holds besides regular files
makes a difference.

* `Error.FirstIn` — the complaint about the first member of a list that there is a complaint about.
* `FileSystem.Unreadable` — why a file cannot be read as text; `FileSystem.FirstFault` — what is
  wrong with a directory: it cannot be listed, or its first unreadable file, by name.
* `FileSystem.SameFiles` — two listings yield the same regular files, in whatever order and among
  whatever else.
* `Layers.firstFault_of_loadDirectories`, `Layers.isOk_loadDirectories_iff` — loading fails with the
  first fault, and only if there is one.
* `Layers.build_by_paths` — so a library is told by its paths: it is loaded in full, or the first bad
  path is complained about.
-/

namespace Error

/-- `e` is the complaint about the first member of a list that there is a complaint about. -/
def FirstIn {α : Type} (bad : α → Error → Prop) (xs : List α) (e : Error) : Prop :=
  ∃ before x after, xs = before ++ x :: after ∧ bad x e ∧ ∀ y ∈ before, ∀ e', ¬ bad y e'

variable {α : Type} {bad : α → Error → Prop} {x : α} {xs : List α} {e e' : Error}

/-- The first member counts, or else the others do. -/
theorem firstIn_cons_iff :
    FirstIn bad (x :: xs) e ↔ bad x e ∨ (∀ e', ¬ bad x e') ∧ FirstIn bad xs e := by
  constructor
  · rintro ⟨before, y, after, heq, hbad, hbefore⟩
    -- It is the first member, or there are others in front that are not bad.
    cases before with
    | nil =>
      obtain ⟨rfl, -⟩ := List.cons.inj heq
      exact Or.inl hbad
    | cons z before =>
      obtain ⟨rfl, rfl⟩ := List.cons.inj heq
      exact Or.inr ⟨hbefore x List.mem_cons_self, before, y, after, rfl, hbad,
        fun w hw => hbefore w (List.mem_cons_of_mem x hw)⟩
  · rintro (hbad | ⟨hgood, before, y, after, rfl, hbad, hbefore⟩)
    · exact ⟨[], x, xs, rfl, hbad, by simp⟩
    · refine ⟨x :: before, y, after, rfl, hbad, fun w hw => ?_⟩
      rcases List.mem_cons.1 hw with rfl | hw
      · exact hgood
      · exact hbefore w hw

/-- Where there is a complaint about a member, there is a first one. -/
theorem exists_firstIn (hx : x ∈ xs) (hbad : bad x e) : ∃ e', FirstIn bad xs e' := by
  induction xs with
  | nil => cases hx
  | cons y xs ih =>
    by_cases hy : ∃ e', bad y e'
    · obtain ⟨e', hy⟩ := hy
      exact ⟨e', firstIn_cons_iff.2 (Or.inl hy)⟩
    · rcases List.mem_cons.1 hx with rfl | hx
      · exact absurd ⟨e, hbad⟩ hy
      · obtain ⟨e', he'⟩ := ih hx
        exact ⟨e', firstIn_cons_iff.2 (Or.inr ⟨fun e hyes => hy ⟨e, hyes⟩, he'⟩)⟩

/-- If there is one complaint about a member at most, there is one about a list at most. -/
theorem FirstIn.unique (hbad : ∀ x e e', bad x e → bad x e' → e = e') (h : FirstIn bad xs e)
    (h' : FirstIn bad xs e') : e = e' := by
  induction xs with
  | nil =>
    obtain ⟨before, x, after, heq, -⟩ := h
    simp at heq
  | cons x xs ih =>
    rcases firstIn_cons_iff.1 h with hx | ⟨hgood, hrest⟩
    · rcases firstIn_cons_iff.1 h' with hx' | ⟨hgood', -⟩
      · exact hbad x e e' hx hx'
      · exact absurd hx (hgood' e)
    · rcases firstIn_cons_iff.1 h' with hx' | ⟨-, hrest'⟩
      · exact absurd hx' (hgood e')
      · exact ih hrest hrest'

end Error

namespace FileSystem

/-! ### Bad paths -/

/-- A file cannot be read as text: its content is not to be had, or is the UTF-8 of no text. -/
inductive Unreadable : Except StreamError (List UInt8) → StreamError → Prop where
  | failed (cause : StreamError) : Unreadable (.error cause) cause
  | illFormed {bytes : List UInt8} (h : ∀ text, Utf8.encode text ≠ bytes) :
    Unreadable (.ok bytes) .notUtf8

/-- A directory has a regular file of the name that cannot be read. -/
def HasUnreadable (fs : FileSystem) (directory name : String) (cause : StreamError) : Prop :=
  ∃ entries content, fs.list directory = .ok entries ∧ .file name content ∈ entries ∧
    Unreadable content cause

/-- A directory cannot be loaded: it cannot be listed, or a regular file directly in it cannot be
    read. -/
def Unloadable (fs : FileSystem) (directory : String) : Prop :=
  (∃ cause, fs.list directory = .error cause) ∨ ∃ name cause, fs.HasUnreadable directory name cause

/-- The complaint about a directory that cannot be loaded: about the directory if it cannot be
    listed, else about its first unreadable file, by name. -/
inductive FirstFault (fs : FileSystem) (directory : String) : Error → Prop where
  | directory {cause : StreamError} (hlist : fs.list directory = .error cause) :
    FirstFault fs directory (.patternDirectory directory cause)
  | file {name : String} {cause : StreamError} (hfile : fs.HasUnreadable directory name cause)
      (hfirst : ∀ name' cause', fs.HasUnreadable directory name' cause' → ¬ name' < name) :
    FirstFault fs directory (.patternFile (entryPath directory name) cause)

/-- A name in a directory stands for one content, however often it is listed. -/
def ContentByName (fs : FileSystem) : Prop :=
  ∀ directory entries, fs.list directory = .ok entries → ∀ name content content',
    .file name content ∈ entries → .file name content' ∈ entries → content = content'

/-- The name and the content of a regular file. -/
def Entry.file? : Entry → Option (String × Except StreamError (List UInt8))
  | .file name content => some (name, content)
  | .other _ => none

/-- Two listings yield the same regular files, in whatever order and among whatever other entries;
    or both fail for the same reason. -/
inductive SameFiles : Except StreamError (List Entry) → Except StreamError (List Entry) → Prop where
  | failed (cause : StreamError) : SameFiles (.error cause) (.error cause)
  | listed {entries entries' : List Entry}
      (h : (entries.filterMap Entry.file?).Perm (entries'.filterMap Entry.file?)) :
    SameFiles (.ok entries) (.ok entries')

variable {fs : FileSystem} {directory : String}

/-- What cannot be read fails for the reason that reading it gives. -/
theorem unreadable_error_iff {cause cause' : StreamError} :
    Unreadable (.error cause) cause' ↔ cause = cause' := by
  constructor
  · rintro ⟨⟩
    rfl
  · rintro rfl
    exact .failed cause

/-- What can be read fails only if it is not UTF-8. -/
theorem unreadable_ok_iff {bytes : List UInt8} {cause : StreamError} :
    Unreadable (.ok bytes) cause ↔ Utf8.decode? bytes = none ∧ .notUtf8 = cause := by
  have hnone : Utf8.decode? bytes = none ↔ ∀ text, Utf8.encode text ≠ bytes := by
    rw [Option.eq_none_iff_forall_ne_some]
    refine forall_congr' fun text => not_congr ?_
    rw [Utf8.decode?_eq_some_iff, eq_comm]
  rw [hnone]
  constructor
  · intro h
    cases h with
    | illFormed hill => exact ⟨hill, rfl⟩
  · rintro ⟨hill, rfl⟩
    exact .illFormed hill

/-- There is one reason only. -/
theorem Unreadable.unique {content : Except StreamError (List UInt8)} {cause cause' : StreamError}
    (h : Unreadable content cause) (h' : Unreadable content cause') : cause = cause' := by
  cases h <;> cases h' <;> rfl

/-- The same for a file of a directory, as its name stands for one content. -/
theorem HasUnreadable.unique (hfs : fs.ContentByName) {name : String} {cause cause' : StreamError}
    (h : fs.HasUnreadable directory name cause) (h' : fs.HasUnreadable directory name cause') :
    cause = cause' := by
  obtain ⟨entries, content, hlist, hmem, hbad⟩ := h
  obtain ⟨_, content', hlist', hmem', hbad'⟩ := h'
  obtain rfl := Except.ok.inj (hlist.symm.trans hlist')
  obtain rfl := hfs directory entries hlist name content content' hmem hmem'
  exact hbad.unique hbad'

/-- There is one complaint about a directory at most. -/
theorem FirstFault.unique (hfs : fs.ContentByName) (directory : String) (e e' : Error)
    (h : fs.FirstFault directory e) (h' : fs.FirstFault directory e') : e = e' := by
  cases h with
  | directory hlist =>
    cases h' with
    | directory hlist' => rw [Except.error.inj (hlist.symm.trans hlist')]
    | file hfile' =>
      obtain ⟨_, _, hlist', -⟩ := hfile'
      cases hlist.symm.trans hlist'
  | file hfile hfirst =>
    cases h' with
    | directory hlist' =>
      obtain ⟨_, _, hlist, -⟩ := hfile
      cases hlist.symm.trans hlist'
    | file hfile' hfirst' =>
      -- Neither of the two files comes before the other one.
      obtain rfl := String.le_antisymm (String.not_lt.1 (hfirst _ _ hfile'))
        (String.not_lt.1 (hfirst' _ _ hfile))
      rw [hfile.unique hfs hfile']

/-- A directory with a fault cannot be loaded. -/
theorem FirstFault.unloadable {e : Error} (h : fs.FirstFault directory e) :
    fs.Unloadable directory := by
  cases h with
  | directory hlist => exact Or.inl ⟨_, hlist⟩
  | file hfile => exact Or.inr ⟨_, _, hfile⟩

end FileSystem

namespace Layers

open Error (FirstIn firstIn_cons_iff)
open FileSystem (Unreadable SameFiles)

variable {fs fs' : FileSystem} {l : Layers} {e : Error}

/-! ### Files -/

/-- The complaint about a file that cannot be read names its path. -/
theorem decodeFile_eq_error_iff {path : String} {content : Except StreamError (List UInt8)} :
    decodeFile path content = .error e ↔
      ∃ cause, Unreadable content cause ∧ .patternFile path cause = e := by
  cases content with
  | error cause => simp [decodeFile, FileSystem.unreadable_error_iff]
  | ok bytes =>
    cases hdecode : Utf8.decode? bytes <;>
      simp [decodeFile, FileSystem.unreadable_ok_iff, hdecode]

/-- The complaint about a file of a directory, if it cannot be loaded. -/
def FileFault (directory : String) (file : String × Except StreamError (List UInt8)) (e : Error) :
    Prop :=
  decodeFile (FileSystem.entryPath directory file.1) file.2 = .error e

/-- A file is decoded, or it fails. -/
theorem exists_decodeFile_eq_ok_iff {path : String} {content : Except StreamError (List UInt8)} :
    (∃ text, decodeFile path content = .ok text) ↔ ∀ e, decodeFile path content ≠ .error e := by
  cases decodeFile path content <;> simp

/-- **Files fail with the first one that cannot be read**, whatever they are loaded into. -/
theorem loadFiles_eq_error_iff {directory : String} {library : Library} {count : Nat}
    {files : List (String × Except StreamError (List UInt8))} :
    (loadFiles directory library count files).value = .error e ↔
      FirstIn (FileFault directory) files e := by
  -- Each file changes the library and the count, so both are free in the induction.
  induction files generalizing library count with
  | nil => simp [loadFiles, FirstIn]
  | cons file files ih =>
    obtain ⟨name, content⟩ := file
    rw [loadFiles, firstIn_cons_iff]
    simp [Attempt.value_andThen_eq_error_iff, FileFault, ← exists_decodeFile_eq_ok_iff, ih]

/-! ### Directories -/

/-- **A directory fails with its first fault.** -/
theorem firstFault_of_loadDirectory {directory : String} {library : Library}
    (h : (loadDirectory fs library directory).value = .error e) : fs.FirstFault directory e := by
  unfold loadDirectory at h
  cases hlist : fs.list directory with
  | error cause =>
    rw [hlist] at h
    obtain rfl := Except.error.inj h
    exact .directory hlist
  | ok entries =>
    rw [hlist] at h
    obtain ⟨before, ⟨name, content⟩, after, hfiles, hbad, hbefore⟩ := loadFiles_eq_error_iff.1 h
    obtain ⟨cause, hcause, rfl⟩ := decodeFile_eq_error_iff.1 hbad
    refine .file ⟨entries, content, hlist, mem_regularFiles_iff.1 (by simp [hfiles]), hcause⟩ ?_
    rintro name' cause' ⟨entries', content', hlist', hmem', hcause'⟩ hlt
    obtain rfl := Except.ok.inj (hlist.symm.trans hlist')
    -- A file with an earlier name is loaded before, and what is loaded before can be read.
    have hmem := mem_regularFiles_iff.2 hmem'
    rw [hfiles] at hmem
    rcases List.mem_append.1 hmem with hmem | hmem
    · exact hbefore _ hmem _ (decodeFile_eq_error_iff.2 ⟨cause', hcause', rfl⟩)
    · rcases List.mem_cons.1 hmem with heq | hmem
      · obtain ⟨rfl, -⟩ := Prod.mk.inj heq
        exact absurd hlt (String.lt_irrefl _)
      · exact absurd hlt (String.not_lt.2 ((le_of_regularFiles_eq hfiles).2 _ hmem))

/-- A directory is loaded unless it has a fault. -/
theorem isOk_loadDirectory_iff {directory : String} {library : Library} :
    (∃ loaded, (loadDirectory fs library directory).value = .ok loaded) ↔
      ¬ fs.Unloadable directory := by
  constructor
  · rintro ⟨loaded, hloaded⟩ (⟨cause, hlist⟩ | ⟨name, cause, entries, content, hlist, hmem, hbad⟩)
    · rw [loadDirectory, hlist] at hloaded
      cases hloaded
    · rw [loadDirectory, hlist] at hloaded
      have hfault : FileFault directory (name, content) _ :=
        decodeFile_eq_error_iff.2 ⟨cause, hbad, rfl⟩
      obtain ⟨e, he⟩ := Error.exists_firstIn (mem_regularFiles_iff.2 hmem) hfault
      rw [loadFiles_eq_error_iff.2 he] at hloaded
      cases hloaded
  · intro hgood
    cases hvalue : (loadDirectory fs library directory).value with
    | ok loaded => exact ⟨loaded, rfl⟩
    | error e => exact absurd (firstFault_of_loadDirectory hvalue).unloadable hgood

/-- **Directories fail with the first fault of the first one that has any.** -/
theorem firstFault_of_loadDirectories {paths : List String} {library : Library}
    (h : (loadDirectories fs library paths).value = .error e) : FirstIn fs.FirstFault paths e := by
  induction paths generalizing library with
  | nil => cases h
  | cons path paths ih =>
    rw [loadDirectories, Attempt.value_andThen_eq_error_iff] at h
    rw [firstIn_cons_iff]
    rcases h with h | ⟨⟨loaded, n⟩, hloaded, h⟩
    · exact Or.inl (firstFault_of_loadDirectory h)
    · have hrest : (loadDirectories fs loaded paths).value = .error e := by
        simpa [Attempt.value_andThen_eq_error_iff] using h
      exact Or.inr ⟨fun e' he' => isOk_loadDirectory_iff.1 ⟨_, hloaded⟩ he'.unloadable, ih hrest⟩

/-- Directories are loaded unless one of them has a fault. -/
theorem isOk_loadDirectories_iff (library : Library) {paths : List String} :
    (∃ loaded, (loadDirectories fs library paths).value = .ok loaded) ↔
      ∀ path ∈ paths, ¬ fs.Unloadable path := by
  constructor
  · rintro ⟨loaded, h⟩
    induction paths generalizing library with
    | nil => simp
    | cons path paths ih =>
      rw [loadDirectories, Attempt.value_andThen_eq_ok_iff] at h
      obtain ⟨⟨next, n⟩, hnext, h⟩ := h
      have hrest : (loadDirectories fs next paths).value = .ok loaded := by
        simpa [Attempt.value_andThen_eq_ok_iff] using h
      rw [List.forall_mem_cons]
      exact ⟨isOk_loadDirectory_iff.1 ⟨_, hnext⟩, ih next hrest⟩
  · intro hgood
    -- A failure has a first fault, and there is none.
    cases hvalue : (loadDirectories fs library paths).value with
    | ok loaded => exact ⟨loaded, rfl⟩
    | error e =>
      obtain ⟨before, path, after, rfl, hfault, -⟩ := firstFault_of_loadDirectories hvalue
      exact absurd hfault.unloadable (hgood path (by simp))

/-- Only the directories can fail. -/
theorem build_eq_error_iff :
    (l.build fs).value = .error e ↔ (loadDirectories fs l.base l.directories).value = .error e := by
  simp [build, loadBase, Attempt.value_andThen_eq_error_iff]

/-- **A library is built unless one of its directories cannot be loaded.** -/
theorem isOk_build_iff :
    (∃ library, (l.build fs).value = .ok library) ↔
      ∀ path ∈ l.directories, ¬ fs.Unloadable path := by
  rw [← isOk_loadDirectories_iff l.base]
  simp [build, loadBase, Attempt.value_andThen_eq_ok_iff]

/-! ### The order of a listing -/

/-- Files are loaded in one order, whatever the order in which they are listed. -/
theorem regularFiles_eq_of_perm {entries entries' : List FileSystem.Entry}
    (hcontent : ∀ name content content', .file name content ∈ entries →
      .file name content' ∈ entries → content = content')
    (h : (entries.filterMap FileSystem.Entry.file?).Perm
      (entries'.filterMap FileSystem.Entry.file?)) :
    regularFiles entries' = regularFiles entries := by
  have hperm : (regularFiles entries).Perm (regularFiles entries') :=
    (List.mergeSort_perm _ _).trans (h.trans (List.mergeSort_perm _ _).symm)
  refine (List.Perm.eq_of_pairwise ?_ (pairwise_regularFiles entries)
    (pairwise_regularFiles entries') hperm).symm
  rintro ⟨name, content⟩ ⟨name', content'⟩ hmem hmem' hle hge
  obtain rfl : name = name' := String.le_antisymm hle hge
  rw [hcontent name content content' (mem_regularFiles_iff.1 hmem)
    (mem_regularFiles_iff.1 (hperm.mem_iff.2 hmem'))]

/-- What is loaded from a directory depends on its files, not on how they are listed. -/
theorem loadDirectory_eq_of_sameFiles (hfs : fs.ContentByName) {directory : String}
    (h : SameFiles (fs.list directory) (fs'.list directory)) (library : Library) :
    loadDirectory fs' library directory = loadDirectory fs library directory := by
  unfold loadDirectory
  generalize hlist : fs.list directory = listing at h ⊢
  generalize fs'.list directory = listing' at h ⊢
  cases h with
  | failed cause => rfl
  | listed h => simp only [regularFiles_eq_of_perm (hfs directory _ hlist) h]

/-- The same for several directories. -/
theorem loadDirectories_eq_of_sameFiles (hfs : fs.ContentByName) {paths : List String}
    (h : ∀ path ∈ paths, SameFiles (fs.list path) (fs'.list path)) (library : Library) :
    loadDirectories fs' library paths = loadDirectories fs library paths := by
  induction paths generalizing library with
  | nil => rfl
  | cons path paths ih =>
    rw [List.forall_mem_cons] at h
    simp only [loadDirectories, loadDirectory_eq_of_sameFiles hfs h.1, ih h.2]

/-- **A library is told by its paths.** Two file systems in which the directories of a library have
    the same regular files build it alike, message by message, whatever the order in which each
    directory is listed and whatever else there is, in the directories or elsewhere. A library
    cannot be built just where one of its directories cannot be listed or has a regular file that
    is not to be read as text; the complaint is then about the first such path, by the order of the
    directories and within one by the names of the files. And a library that is built holds all
    definitions of all its layers. -/
theorem build_by_paths (fs : FileSystem) (l : Layers) :
    (fs.ContentByName → ∀ fs' : FileSystem,
      (∀ path ∈ l.directories, SameFiles (fs.list path) (fs'.list path)) →
        l.build fs' = l.build fs) ∧
    ((∃ e, (l.build fs).value = .error e) ↔ ∃ path ∈ l.directories, fs.Unloadable path) ∧
    (∀ e, (l.build fs).value = .error e → FirstIn fs.FirstFault l.directories e) ∧
    (fs.ContentByName → ∀ e, FirstIn fs.FirstFault l.directories e →
      (l.build fs).value = .error e) ∧
    ∀ library, (l.build fs).value = .ok library ↔
      (∀ path ∈ l.directories, ¬ fs.Unloadable path) ∧
        library = Library.empty.insertAll (l.inOrder fs) := by
  have hfault : ∀ e, (l.build fs).value = .error e → FirstIn fs.FirstFault l.directories e :=
    fun e he => firstFault_of_loadDirectories (build_eq_error_iff.1 he)
  have hok : (∃ library, (l.build fs).value = .ok library) ↔
      ∀ path ∈ l.directories, ¬ fs.Unloadable path := isOk_build_iff
  have hfails : (∃ e, (l.build fs).value = .error e) ↔
      ∃ path ∈ l.directories, fs.Unloadable path := by
    -- A build has a result or a complaint, and never both.
    rw [← not_iff_not, not_exists]
    push Not
    rw [← hok]
    cases (l.build fs).value <;> simp
  refine ⟨fun hfs fs' h => ?_, hfails, hfault, fun hfs e he => ?_, fun library => ?_⟩
  · simp only [build, loadDirectories_eq_of_sameFiles hfs h]
  · -- It fails, and there is one first fault only.
    obtain ⟨before, path, after, hpaths, hpath, -⟩ := id he
    obtain ⟨e', he'⟩ := hfails.2 ⟨path, by simp [hpaths], hpath.unloadable⟩
    rw [he', (hfault e' he').unique (FileSystem.FirstFault.unique hfs) he]
  · constructor
    · intro h
      exact ⟨hok.1 ⟨library, h⟩, eq_insertAll_of_build h⟩
    · rintro ⟨hgood, rfl⟩
      obtain ⟨library, h⟩ := hok.2 hgood
      rw [h, eq_insertAll_of_build h]

/-- A directory with a good file, one that is no UTF-8, one that is not to be had, and a
    sub-directory. -/
def desk : FileSystem where
  list path :=
    if path = "notes" then
      .ok [.file "c" (.error .notFound), .file "b" (.ok [0xFF]), .other "old",
        .file "a" (.ok [65, 32, 49])]
    else if path = "notes/old" then .ok [.file "a" (.ok [0xFE])]
    else .error .notFound

/-- The same files in another order, and no sub-directory. -/
def tidied : FileSystem where
  list path :=
    if path = "notes" then
      .ok [.file "a" (.ok [65, 32, 49]), .file "b" (.ok [0xFF]), .file "c" (.error .notFound)]
    else .error .notFound

/-- The directory, and behind it one that is missing. -/
def drawers : Layers := ⟨false, ["notes", "gone"], [⟨"D", "x"⟩]⟩

theorem contentByName_desk : desk.ContentByName := by
  intro path entries hlist name content content' hmem hmem'
  simp only [desk] at hlist
  split at hlist
  · obtain rfl := Except.ok.inj hlist
    simp only [List.mem_cons, FileSystem.Entry.file.injEq, List.not_mem_nil, or_false,
      reduceCtorEq, false_or] at hmem hmem'
    rcases hmem with ⟨rfl, rfl⟩ | ⟨rfl, rfl⟩ | ⟨rfl, rfl⟩ <;> simp_all
  · split at hlist
    · obtain rfl := Except.ok.inj hlist
      simp_all
    · cases hlist

theorem sameFiles_tidied : ∀ path ∈ drawers.directories,
    SameFiles (desk.list path) (tidied.list path) := by
  have hnotes : SameFiles (desk.list "notes") (tidied.list "notes") :=
    .listed (by decide)
  have hgone : SameFiles (desk.list "gone") (tidied.list "gone") := .failed .notFound
  simp [drawers, hnotes, hgone]

/-- The second file by name is the first one that cannot be read. -/
theorem firstFault_desk : desk.FirstFault "notes" (.patternFile "notes/b" .notUtf8) := by
  have hbad : Unreadable (.ok [0xFF]) .notUtf8 :=
    FileSystem.unreadable_ok_iff.2 ⟨by decide, rfl⟩
  have hpath : FileSystem.entryPath "notes" "b" = "notes/b" := by decide +kernel
  rw [← hpath]
  refine .file ⟨_, _, rfl, by simp, hbad⟩ ?_
  rintro name cause ⟨entries, content, hlist, hmem, hbad⟩ hlt
  obtain rfl := Except.ok.inj hlist
  simp only [List.mem_cons, FileSystem.Entry.file.injEq, List.not_mem_nil, or_false,
    reduceCtorEq, false_or] at hmem
  rcases hmem with ⟨rfl, rfl⟩ | ⟨rfl, rfl⟩ | ⟨rfl, rfl⟩
  · exact absurd hlt (by decide)
  · exact absurd hlt (by decide)
  · exact absurd (FileSystem.unreadable_ok_iff.1 hbad).1 (by decide)

/-- The unreadable file in front of the missing directory is complained about, though the good file
    was loaded before; and so it is where the listing has another order. -/
theorem build_by_paths_desk :
    desk.ContentByName ∧
      (∀ path ∈ drawers.directories, SameFiles (desk.list path) (tidied.list path)) ∧
      drawers.build tidied = drawers.build desk ∧
      (drawers.build desk).value = .error (.patternFile "notes/b" .notUtf8) := by
  obtain ⟨halike, -, -, hfirst, -⟩ := build_by_paths desk drawers
  refine ⟨contentByName_desk, sameFiles_tidied, halike contentByName_desk tidied sameFiles_tidied,
    hfirst contentByName_desk _ ⟨[], "notes", ["gone"], rfl, firstFault_desk, by simp⟩⟩

end Layers

end Grok
