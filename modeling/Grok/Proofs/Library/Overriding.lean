import Grok.Library.Layers
import Grok.Proofs.Library.Table

namespace Grok

/-!
# Later layers override earlier ones

A library is loaded from its layers one definition after the other. What comes out of it is told
here by name: where the body of a name comes from.

* `Layers.Call` — the steps in which layers are put together; `Layers.ofCalls_eq` says that only the
  order among directories and the order among definitions counts.
* `FileSystem.Gives`, `FileSystem.Silent` — what a directory says about a name: what its last file,
  by name, says that has a line for it.
* `Layers.Tells` — what layers tell about a name: a definition, else a directory, else the built-in
  definitions. `Layers.Tells.unique`: they tell one thing only.
* `Layers.eq_insertAll_of_build` — a library holds the definitions of all layers, inserted in order.
* `Layers.resolve_build` — so what it says about a name is what its layers tell.
-/

open Definition (lastBody?)

namespace FileSystem

/-- The definitions in a file, a line after the other; none if the file cannot be read. -/
def definitionsOf (content : Except StreamError (List UInt8)) : List Definition :=
  match content with
  | .error _ => []
  | .ok bytes => ((Utf8.decode? bytes).map DefinitionFile.definitions).getD []

/-- A directory has a regular file of the name, with these definitions. -/
def HasFile (fs : FileSystem) (directory file : String) (ds : List Definition) : Prop :=
  ∃ entries content, fs.list directory = .ok entries ∧ .file file content ∈ entries ∧
    definitionsOf content = ds

/-- A directory gives a name a body: the last file, by name, that defines it ends with this body. -/
def Gives (fs : FileSystem) (directory n body : String) : Prop :=
  ∃ file ds, fs.HasFile directory file ds ∧ lastBody? ds n = some body ∧
    ∀ later ds', fs.HasFile directory later ds' → file < later → lastBody? ds' n = none

/-- No file of a directory defines a name. -/
def Silent (fs : FileSystem) (directory n : String) : Prop :=
  ∀ file ds, fs.HasFile directory file ds → lastBody? ds n = none

/-- No directory has two files of one name. -/
def FilesDistinct (fs : FileSystem) : Prop :=
  ∀ directory file ds ds', fs.HasFile directory file ds → fs.HasFile directory file ds' → ds = ds'

variable {fs : FileSystem} {directory n body body' : String}

/-- A directory that gives a definition is not silent about its name. -/
theorem Gives.not_silent (h : fs.Gives directory n body) : ¬ fs.Silent directory n := by
  obtain ⟨file, ds, hfile, hbody, -⟩ := h
  intro hsilent
  rw [hsilent file ds hfile] at hbody
  cases hbody

/-- A directory gives a name one body only. -/
theorem Gives.unique (hfs : fs.FilesDistinct) (h : fs.Gives directory n body)
    (h' : fs.Gives directory n body') : body = body' := by
  obtain ⟨file, ds, hfile, hbody, hlater⟩ := h
  obtain ⟨file', ds', hfile', hbody', hlater'⟩ := h'
  -- Neither of the two files comes before the other one, so they are the same.
  have hle : ¬ file' < file := by
    intro hlt
    rw [hlater' file ds hfile hlt] at hbody
    cases hbody
  have hle' : ¬ file < file' := by
    intro hlt
    rw [hlater file' ds' hfile' hlt] at hbody'
    cases hbody'
  obtain rfl : file = file' := String.le_antisymm (String.not_lt.1 hle) (String.not_lt.1 hle')
  rw [hfs directory file ds ds' hfile hfile', hbody'] at hbody
  exact (Option.some.inj hbody).symm

end FileSystem

namespace Layers

/-! ### Putting layers together -/

/-- A step of putting layers together. -/
inductive Call where
  | withoutBuiltIn
  | directory (path : String)
  | directories (paths : List String)
  | definition (d : Definition)
  | definitions (ds : List Definition)
  deriving DecidableEq, Repr

namespace Call

/-- The step taken. -/
def apply (l : Layers) : Call → Layers
  | .withoutBuiltIn => l.withoutBuiltIn
  | .directory path => l.directory path
  | .directories paths => l.addDirectories paths
  | .definition d => l.definition d
  | .definitions ds => l.addDefinitions ds

/-- The directories that a step adds. -/
def paths : Call → List String
  | .directory path => [path]
  | .directories paths => paths
  | _ => []

/-- The definitions that a step adds. -/
def added : Call → List Definition
  | .definition d => [d]
  | .definitions ds => ds
  | _ => []

end Call

/-- Layers put together step by step, from the built-in definitions alone. -/
def ofCalls (calls : List Call) : Layers := calls.foldl Call.apply {}

/-- What a step does to each of the layers. -/
theorem apply_eq (l : Layers) (c : Call) :
    c.apply l = ⟨l.builtIn && c ≠ .withoutBuiltIn, l.directories ++ c.paths,
      l.definitions ++ c.added⟩ := by
  cases c <;>
    simp [Call.apply, Call.paths, Call.added, withoutBuiltIn, directory, addDirectories, definition,
      addDefinitions]

/-- **Steps on different layers can be swapped**: what counts is whether the built-in definitions
    were left out, and the directories and the definitions in the order of adding. -/
theorem ofCalls_eq (calls : List Call) :
    ofCalls calls = ⟨.withoutBuiltIn ∉ calls, calls.flatMap Call.paths,
      calls.flatMap Call.added⟩ := by
  -- The layers that the steps start from are free, since each step changes them.
  have hrun : ∀ l : Layers, calls.foldl Call.apply l =
      ⟨l.builtIn && decide (.withoutBuiltIn ∉ calls), l.directories ++ calls.flatMap Call.paths,
        l.definitions ++ calls.flatMap Call.added⟩ := by
    induction calls with
    | nil => simp
    | cons c calls ih =>
      intro l
      rw [List.foldl_cons, ih, apply_eq]
      simp [Bool.and_assoc, eq_comm]
  rw [ofCalls, hrun]
  simp

/-! ### What layers tell -/

/-- What layers tell about a name. -/
inductive Tells (fs : FileSystem) (l : Layers) (n : String) : Except Error String → Prop where
  /-- the last definition of the name counts -/
  | definition {body : String} (hbody : lastBody? l.definitions n = some body) :
    Tells fs l n (.ok body)
  /-- else the last directory that defines the name -/
  | directory {before after : List String} {path body : String}
      (hdefinitions : lastBody? l.definitions n = none)
      (hdirectories : l.directories = before ++ path :: after) (hgives : fs.Gives path n body)
      (hafter : ∀ p ∈ after, fs.Silent p n) :
    Tells fs l n (.ok body)
  /-- else the built-in definitions, unless they are left out -/
  | builtIn {body : String} (hdefinitions : lastBody? l.definitions n = none)
      (hdirectories : ∀ p ∈ l.directories, fs.Silent p n) (hbuiltIn : l.builtIn = true)
      (hbody : lastBody? BuiltIn.definitions n = some body) :
    Tells fs l n (.ok body)
  /-- else the name is unknown -/
  | unknown (hdefinitions : lastBody? l.definitions n = none)
      (hdirectories : ∀ p ∈ l.directories, fs.Silent p n)
      (hbuiltIn : l.builtIn = true → lastBody? BuiltIn.definitions n = none) :
    Tells fs l n (.error (.unknownPattern n))

variable {fs : FileSystem} {l : Layers} {n : String}

/-- The last directory that says something is told by the directories. -/
theorem last_unique {before before' after after' : List String} {path path' body body' : String}
    (h : before ++ path :: after = before' ++ path' :: after') (hgives : fs.Gives path n body)
    (hgives' : fs.Gives path' n body') (hafter : ∀ p ∈ after, fs.Silent p n)
    (hafter' : ∀ p ∈ after', fs.Silent p n) : path = path' := by
  rcases List.append_eq_append_iff.1 h with ⟨more, hmore, hpath⟩ | ⟨more, hmore, hpath⟩
  · cases more with
    | nil => exact (List.cons.inj hpath).1
    | cons p more =>
      -- `path'` would come behind `path`, where all are silent.
      obtain ⟨-, rfl⟩ := List.cons.inj hpath
      exact absurd (hafter path' (by simp)) hgives'.not_silent
  · cases more with
    | nil => exact (List.cons.inj hpath).1.symm
    | cons p more =>
      obtain ⟨-, rfl⟩ := List.cons.inj hpath
      exact absurd (hafter' path (by simp)) hgives.not_silent

/-- A directory that gives a name a body is not among directories that are silent about it. -/
theorem not_silent_of_gives {before after : List String} {path body : String}
    (hdirectories : l.directories = before ++ path :: after) (hgives : fs.Gives path n body) :
    ¬ ∀ p ∈ l.directories, fs.Silent p n :=
  fun hsilent => hgives.not_silent (hsilent path (by simp [hdirectories]))

/-- **Layers tell one thing about a name.** -/
theorem Tells.unique (hfs : fs.FilesDistinct) {r r' : Except Error String} (h : l.Tells fs n r)
    (h' : l.Tells fs n r') : r = r' := by
  -- Each layer counts only where those above it are silent.
  cases h with
  | definition hbody =>
    cases h' with
    | definition hbody' => rw [Option.some.inj (hbody.symm.trans hbody')]
    | directory hnone => simp [hbody] at hnone
    | builtIn hnone => simp [hbody] at hnone
    | unknown hnone => simp [hbody] at hnone
  | directory hnone hdirs hgives hafter =>
    cases h' with
    | definition hbody => simp [hbody] at hnone
    | directory _ hdirs' hgives' hafter' =>
      obtain rfl := last_unique (hdirs.symm.trans hdirs') hgives hgives' hafter hafter'
      rw [hgives.unique hfs hgives']
    | builtIn _ hsilent => exact absurd hsilent (not_silent_of_gives hdirs hgives)
    | unknown _ hsilent => exact absurd hsilent (not_silent_of_gives hdirs hgives)
  | builtIn hnone hsilent hbuiltIn hbody =>
    cases h' with
    | definition hbody => simp [hbody] at hnone
    | directory _ hdirs hgives => exact absurd hsilent (not_silent_of_gives hdirs hgives)
    | builtIn _ _ _ hbody' => rw [Option.some.inj (hbody.symm.trans hbody')]
    | unknown _ _ hnone' => simp [hnone' hbuiltIn] at hbody
  | unknown hnone hsilent hbuiltIn =>
    cases h' with
    | definition hbody => simp [hbody] at hnone
    | directory _ hdirs hgives => exact absurd hsilent (not_silent_of_gives hdirs hgives)
    | builtIn _ _ hon hbody => simp [hbuiltIn hon] at hbody
    | unknown => rfl

/-! ### Loading -/

/-- The definitions of the files of a directory in the order of the files. -/
def directoryDefinitions (fs : FileSystem) (path : String) : List Definition :=
  match fs.list path with
  | .error _ => []
  | .ok entries =>
    (regularFiles entries).flatMap fun file => FileSystem.definitionsOf file.2

/-- The definitions of all layers in the order of loading. -/
def inOrder (fs : FileSystem) (l : Layers) : List Definition :=
  (if l.builtIn then BuiltIn.definitions else []) ++
    l.directories.flatMap (directoryDefinitions fs) ++ l.definitions

/-- A file whose text could be decoded holds the definitions of the text. -/
theorem definitionsOf_of_decodeFile {path : String} {content : Except StreamError (List UInt8)}
    {text : List Char} (h : decodeFile path content = .ok text) :
    FileSystem.definitionsOf content = DefinitionFile.definitions text := by
  unfold decodeFile at h
  cases content with
  | error cause => cases h
  | ok bytes =>
    cases hdecode : Utf8.decode? bytes with
    | none => simp [hdecode] at h
    | some cs =>
      obtain rfl : cs = text := by simpa [hdecode] using h
      simp [FileSystem.definitionsOf, hdecode]

/-- Files that could be loaded have their definitions inserted one after the other. -/
theorem eq_insertAll_of_loadFiles {directory : String} {library library' : Library} {count n : Nat}
    {files : List (String × Except StreamError (List UInt8))}
    (h : (loadFiles directory library count files).value = .ok (library', n)) :
    library' = library.insertAll (files.flatMap fun file => FileSystem.definitionsOf file.2) := by
  -- Each file changes the library and the count, so both are free in the induction.
  induction files generalizing library count with
  | nil =>
    obtain ⟨rfl, -⟩ : library = library' ∧ count = n := by simpa [loadFiles] using h
    rfl
  | cons file files ih =>
    obtain ⟨name, content⟩ := file
    rw [loadFiles, Attempt.value_andThen_eq_ok_iff] at h
    obtain ⟨text, htext, h⟩ := h
    rw [Attempt.value_ofExcept] at htext
    simp only [Attempt.value_andThen_eq_ok_iff] at h
    obtain ⟨-, -, h⟩ := h
    rw [ih h, List.flatMap_cons, Library.insertAll_append, definitionsOf_of_decodeFile htext]
    rfl

/-- So have the files of a directory. -/
theorem eq_insertAll_of_loadDirectory {path : String} {library library' : Library} {n : Nat}
    (h : (loadDirectory fs library path).value = .ok (library', n)) :
    library' = library.insertAll (directoryDefinitions fs path) := by
  unfold loadDirectory at h
  unfold directoryDefinitions
  cases hlist : fs.list path with
  | error cause => simp [hlist] at h
  | ok entries =>
    rw [hlist] at h
    exact eq_insertAll_of_loadFiles h

/-- So have the directories. -/
theorem eq_insertAll_of_loadDirectories {paths : List String} {library library' : Library}
    (h : (loadDirectories fs library paths).value = .ok library') :
    library' = library.insertAll (paths.flatMap (directoryDefinitions fs)) := by
  induction paths generalizing library with
  | nil =>
    obtain rfl : library = library' := by simpa [loadDirectories] using h
    rfl
  | cons path paths ih =>
    rw [loadDirectories, Attempt.value_andThen_eq_ok_iff] at h
    obtain ⟨⟨loaded, n⟩, hloaded, h⟩ := h
    simp only [Attempt.value_andThen_eq_ok_iff] at h
    obtain ⟨-, -, h⟩ := h
    rw [ih h, eq_insertAll_of_loadDirectory hloaded, List.flatMap_cons, Library.insertAll_append]

/-- **A library holds the definitions of its layers**, inserted in their order. -/
theorem eq_insertAll_of_build {library : Library} (h : (l.build fs).value = .ok library) :
    library = Library.empty.insertAll (l.inOrder fs) := by
  unfold build at h
  simp only [Attempt.value_andThen_eq_ok_iff, loadBase, Except.ok.injEq, exists_eq_left'] at h
  obtain ⟨loaded, hloaded, -, -, h⟩ := h
  obtain rfl := Except.ok.inj h
  rw [eq_insertAll_of_loadDirectories hloaded, inOrder, Library.insertAll_append,
    Library.insertAll_append]
  congr 2
  unfold base
  split <;> rfl

/-! ### Where the body of a name comes from -/

/-- The regular files of a listing are its files. -/
theorem mem_regularFiles_iff {entries : List FileSystem.Entry} {file : String}
    {content : Except StreamError (List UInt8)} :
    (file, content) ∈ regularFiles entries ↔ FileSystem.Entry.file file content ∈ entries := by
  rw [regularFiles, List.mem_mergeSort, List.mem_filterMap]
  constructor
  · rintro ⟨entry, hentry, heq⟩
    cases entry with
    | file name content' =>
      obtain ⟨rfl, rfl⟩ : name = file ∧ content' = content := by simpa using heq
      exact hentry
    | other name => cases heq
  · intro hentry
    exact ⟨_, hentry, rfl⟩

/-- The files that are loaded are those of the listing. -/
theorem hasFile_iff {path : String} {entries : List FileSystem.Entry}
    (h : fs.list path = .ok entries) {file : String} {ds : List Definition} :
    fs.HasFile path file ds ↔
      ∃ content, (file, content) ∈ regularFiles entries ∧
        FileSystem.definitionsOf content = ds := by
  simp only [FileSystem.HasFile, h, Except.ok.injEq, mem_regularFiles_iff]
  constructor
  · rintro ⟨_, content, rfl, hentry, hds⟩
    exact ⟨content, hentry, hds⟩
  · rintro ⟨content, hentry, hds⟩
    exact ⟨entries, content, rfl, hentry, hds⟩

/-- Files are loaded in the order of their names. -/
theorem pairwise_regularFiles (entries : List FileSystem.Entry) :
    (regularFiles entries).Pairwise (·.1 ≤ ·.1) := by
  unfold regularFiles
  refine (List.pairwise_mergeSort ?_ ?_ _).imp ?_
  · intro a b c hab hbc
    simp only [decide_eq_true_eq] at hab hbc ⊢
    exact String.le_trans hab hbc
  · intro a b
    simp only [Bool.or_eq_true, decide_eq_true_eq]
    exact String.le_total a.1 b.1
  · intro a b hab
    simpa using hab

/-- No file that is loaded before another one has a later name, and none behind it an earlier one. -/
theorem le_of_regularFiles_eq {entries : List FileSystem.Entry}
    {before after : List (String × Except StreamError (List UInt8))}
    {file : String × Except StreamError (List UInt8)}
    (h : regularFiles entries = before ++ file :: after) :
    (∀ f ∈ before, f.1 ≤ file.1) ∧ ∀ f ∈ after, file.1 ≤ f.1 := by
  have hordered := pairwise_regularFiles entries
  rw [h] at hordered
  obtain ⟨-, hafter, hbefore⟩ := List.pairwise_append.1 hordered
  exact ⟨fun f hf => hbefore f hf file List.mem_cons_self, (List.pairwise_cons.1 hafter).1⟩

/-- **The last file that defines a name counts** among those of a directory. -/
theorem gives_of_lastBody?_eq_some {path body : String}
    (h : lastBody? (directoryDefinitions fs path) n = some body) : fs.Gives path n body := by
  unfold directoryDefinitions at h
  cases hlist : fs.list path with
  | error cause => simp [hlist, lastBody?] at h
  | ok entries =>
    simp only [hlist] at h
    obtain ⟨before, ⟨file, content⟩, after, hfiles, hbody, hafter⟩ :=
      Definition.lastBody?_flatMap_eq_some h
    refine ⟨file, _, (hasFile_iff hlist).2 ⟨content, by simp [hfiles], rfl⟩, hbody, ?_⟩
    intro later ds hlater hlt
    obtain ⟨content', hmem, rfl⟩ := (hasFile_iff hlist).1 hlater
    -- A file with a later name is not among those that are loaded before.
    rw [hfiles] at hmem
    rcases List.mem_append.1 hmem with hbefore | hmem
    · exact absurd hlt (String.not_lt.2 ((le_of_regularFiles_eq hfiles).1 _ hbefore))
    · rcases List.mem_cons.1 hmem with heq | hmem
      · obtain ⟨rfl, rfl⟩ := Prod.mk.inj heq
        exact absurd hlt (String.lt_irrefl _)
      · exact hafter _ hmem

/-- A directory whose files do not define a name is silent about it. -/
theorem silent_of_lastBody?_eq_none {path : String}
    (h : lastBody? (directoryDefinitions fs path) n = none) : fs.Silent path n := by
  intro file ds hfile
  obtain ⟨entries, content, hlist, -⟩ := id hfile
  obtain ⟨content, hmem, rfl⟩ := (hasFile_iff hlist).1 hfile
  unfold directoryDefinitions at h
  simp only [hlist] at h
  exact Definition.lastBody?_flatMap_eq_none_iff.1 h _ hmem

/-- A library that holds the definitions of layers says what the layers tell. -/
theorem tells_of_inOrder (fs : FileSystem) (l : Layers) (n : String) :
    l.Tells fs n ((Library.empty.insertAll (l.inOrder fs)).resolve n) := by
  rw [Library.resolve, Library.get?_insertAll, Library.get?_empty, Option.or_none, inOrder,
    Definition.lastBody?_append, Definition.lastBody?_append]
  -- The layers are asked from the last to the first.
  cases hdefinitions : lastBody? l.definitions n with
  | some body => exact .definition hdefinitions
  | none =>
    simp only [Option.none_or]
    cases hdirectories : lastBody? (l.directories.flatMap (directoryDefinitions fs)) n with
    | some body =>
      obtain ⟨before, path, after, hpaths, hbody, hafter⟩ :=
        Definition.lastBody?_flatMap_eq_some hdirectories
      exact .directory hdefinitions hpaths (gives_of_lastBody?_eq_some hbody)
        fun p hp => silent_of_lastBody?_eq_none (hafter p hp)
    | none =>
      have hsilent : ∀ p ∈ l.directories, fs.Silent p n := fun p hp =>
        silent_of_lastBody?_eq_none (Definition.lastBody?_flatMap_eq_none_iff.1 hdirectories p hp)
      simp only [Option.none_or]
      cases hbuiltIn : l.builtIn with
      | false => exact .unknown hdefinitions hsilent (by simp [hbuiltIn])
      | true =>
        simp only [if_true]
        cases hbody : lastBody? BuiltIn.definitions n with
        | some body => exact .builtIn hdefinitions hsilent hbuiltIn hbody
        | none => exact .unknown hdefinitions hsilent fun _ => hbody

/-- **Later layers win**, whatever the order of the steps. Of the steps only the order among
    directories and the order among definitions counts. What a library that was built says about a
    name is the last definition of it; else what the last directory says that defines it, in its
    last file that does; else the built-in definition, unless those were left out; else that the
    name is unknown. The definitions, the look-up and the size describe the same table. -/
theorem resolve_build (fs : FileSystem) (calls : List Call) (library : Library)
    (h : ((ofCalls calls).build fs).value = .ok library) :
    ofCalls calls = ⟨.withoutBuiltIn ∉ calls, calls.flatMap Call.paths,
      calls.flatMap Call.added⟩ ∧
    (∀ n, (ofCalls calls).Tells fs n (library.resolve n)) ∧
    (fs.FilesDistinct → ∀ n r, (ofCalls calls).Tells fs n r → library.resolve n = r) ∧
    (∀ n, library.contains n = true ↔ ∃ body, library.resolve n = .ok body) ∧
    (∀ n body, ⟨n, body⟩ ∈ library.definitions ↔ library.resolve n = .ok body) ∧
    library.size = Set.ncard {n | ∃ body, library.resolve n = .ok body} := by
  -- A library that was built is the merge of its layers, from the lowest to the highest.
  have htold : ∀ n, (ofCalls calls).Tells fs n (library.resolve n) := by
    intro n
    rw [eq_insertAll_of_build h]
    exact tells_of_inOrder fs _ n
  refine ⟨ofCalls_eq calls, htold, fun hfs n r hr => (htold n).unique hfs hr,
    fun _ => Library.contains_iff, ?_, ?_⟩
  · intro n body
    rw [Library.mem_definitions_iff, Library.resolve_eq_ok_iff]
  · simp only [Library.size_eq_ncard, Library.contains_iff]

/-- Two directories: one with two files, and something else that has a name like a file; the other
    one with a definition that is commented out. -/
def shelves : FileSystem where
  list path :=
    if path = "low" then
      .ok [.file "2" (.ok [65, 32, 50]), .other "3", .file "1" (.ok [65, 32, 49, 10, 66, 32, 49])]
    else if path = "high" then .ok [.file "1" (.ok [67, 32, 51, 10, 35, 65, 32, 51])]
    else .error .notFound

theorem filesDistinct_shelves : shelves.FilesDistinct := by
  rintro path file _ _ ⟨entries, content, hlist, hmem, rfl⟩ ⟨_, content', hlist', hmem', rfl⟩
  obtain rfl := Except.ok.inj (hlist.symm.trans hlist')
  simp only [shelves] at hlist
  split at hlist
  · obtain rfl := Except.ok.inj hlist
    simp only [List.mem_cons, FileSystem.Entry.file.injEq, List.not_mem_nil, or_false,
      reduceCtorEq, false_or] at hmem hmem'
    rcases hmem with ⟨rfl, rfl⟩ | ⟨rfl, rfl⟩ <;> simp_all
  · split at hlist
    · obtain rfl := Except.ok.inj hlist
      simp_all
    · cases hlist

/-- Steps on all layers, in no particular order. -/
def steps : List Call :=
  [.definition ⟨"C", "x"⟩, .directory "low", .withoutBuiltIn, .directories ["high"],
    .definitions [⟨"D", "x"⟩, ⟨"C", "y"⟩]]

/-- The second file comes last, though it is listed first. -/
theorem loadDirectory_low (library : Library) :
    (loadDirectory shelves library "low").value =
      .ok (library.insertAll [⟨"A", "1"⟩, ⟨"B", "1"⟩, ⟨"A", "2"⟩], 3) := by
  have hfiles : regularFiles
      [.file "2" (.ok [65, 32, 50]), .other "3", .file "1" (.ok [65, 32, 49, 10, 66, 32, 49])] =
      [("1", .ok [65, 32, 49, 10, 66, 32, 49]), ("2", .ok [65, 32, 50])] := by
    simp [regularFiles, List.mergeSort, List.MergeSort.Internal.splitInTwo]
  simp only [loadDirectory, shelves, if_true, hfiles]
  rfl

theorem loadDirectory_high (library : Library) :
    (loadDirectory shelves library "high").value = .ok (library.insertAll [⟨"C", "3"⟩], 1) := by
  have hfiles : regularFiles [.file "1" (.ok [67, 32, 51, 10, 35, 65, 32, 51])] =
      [("1", .ok [67, 32, 51, 10, 35, 65, 32, 51])] := by
    simp [regularFiles]
  have hne : ¬ "high" = "low" := by decide
  simp only [loadDirectory, shelves, hne, if_true, if_false, hfiles]
  rfl

/-- The second file overrides the first one, and the last definition overrides the others. -/
theorem resolve_build_shelves :
    ((ofCalls steps).build shelves).value =
        .ok (Library.empty.insertAll [⟨"A", "2"⟩, ⟨"B", "1"⟩, ⟨"C", "y"⟩, ⟨"D", "x"⟩]) ∧
      shelves.FilesDistinct ∧
      ∀ r, (ofCalls steps).Tells shelves "A" r ↔ .ok "2" = r := by
  have h : ((ofCalls steps).build shelves).value =
      .ok (Library.empty.insertAll [⟨"A", "2"⟩, ⟨"B", "1"⟩, ⟨"C", "y"⟩, ⟨"D", "x"⟩]) := by
    have hlayers : ofCalls steps =
        ⟨false, ["low", "high"], [⟨"C", "x"⟩, ⟨"D", "x"⟩, ⟨"C", "y"⟩]⟩ := rfl
    rw [hlayers, build, Attempt.value_andThen_eq_ok_iff]
    refine ⟨.empty, rfl, ?_⟩
    simp only [Attempt.value_andThen_eq_ok_iff, loadDirectories]
    exact ⟨_, ⟨_, loadDirectory_low _, _, rfl, _, loadDirectory_high _, _, rfl, rfl⟩, _, rfl, rfl⟩
  obtain ⟨-, htold, hunique, -⟩ := resolve_build shelves steps _ h
  refine ⟨h, filesDistinct_shelves, fun r => ⟨hunique filesDistinct_shelves "A" r, ?_⟩⟩
  rintro rfl
  exact htold "A"

end Layers

end Grok
