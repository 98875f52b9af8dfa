import Grok.FileTree
import Grok.Library.BuiltIn
import Grok.Library.DefinitionFile
import Grok.Text.Utf8

namespace Grok

/-!
# Layers of a library

A library is put together from three layers, each overriding the ones before: the built-in
definitions, directories of definition files, and single definitions.

* `Layers` says what goes into a library; its builders may be called in any order.
* `Layers.build` loads the layers in their order and reports what it loads.
-/

/-- A computation that reports messages and may fail. -/
abbrev Attempt (α : Type) : Type := Logged (Except Error α)

namespace Attempt

variable {α β : Type}

/-- Goes on with the result unless the first part failed. -/
def andThen (x : Attempt α) (f : α → Attempt β) : Attempt β :=
  ⟨x.log ++ (match x.value with | .ok a => (f a).log | .error _ => []),
    x.value.bind fun a => (f a).value⟩

/-- A result without messages. -/
def ofExcept (x : Except Error α) : Attempt α := ⟨[], x⟩

/-- Messages only. -/
def report (log : List Log.Entry) : Attempt Unit := ⟨log, .ok ()⟩

/-- Both parts of a computation that succeeds succeed. -/
theorem value_andThen_eq_ok_iff {x : Attempt α} {f : α → Attempt β} {b : β} :
    (x.andThen f).value = .ok b ↔ ∃ a, x.value = .ok a ∧ (f a).value = .ok b := by
  unfold andThen
  cases x.value with
  | ok a => simp [Except.bind]
  | error e => simp [Except.bind]

/-- A computation fails with its first part, or with the second one behind a first that succeeds. -/
theorem value_andThen_eq_error_iff {x : Attempt α} {f : α → Attempt β} {e : Error} :
    (x.andThen f).value = .error e ↔
      x.value = .error e ∨ ∃ a, x.value = .ok a ∧ (f a).value = .error e := by
  unfold andThen
  cases x.value with
  | ok a => simp [Except.bind]
  | error e => simp [Except.bind]

@[simp] theorem value_ofExcept (x : Except Error α) : (ofExcept x).value = x := rfl

@[simp] theorem value_report (log : List Log.Entry) : (report log).value = .ok () := rfl

end Attempt

/-- What a library is put together from. -/
structure Layers where
  builtIn : Bool := true
  directories : List String := []
  definitions : List Definition := []
  deriving DecidableEq, Repr, Inhabited

namespace Layers

/-- Leaves the built-in definitions out. -/
def withoutBuiltIn (l : Layers) : Layers := { l with builtIn := false }

/-- Adds a directory behind those added so far. -/
def directory (l : Layers) (path : String) : Layers :=
  { l with directories := l.directories ++ [path] }

/-- Adds several directories. -/
def addDirectories (l : Layers) (paths : List String) : Layers :=
  { l with directories := l.directories ++ paths }

/-- Adds a definition behind those added so far. -/
def definition (l : Layers) (d : Definition) : Layers :=
  { l with definitions := l.definitions ++ [d] }

/-- Adds several definitions. -/
def addDefinitions (l : Layers) (ds : List Definition) : Layers :=
  { l with definitions := l.definitions ++ ds }

/-- The regular files of a listing, ordered by name. -/
def regularFiles (entries : List FileSystem.Entry) :
    List (String × Except StreamError (List UInt8)) :=
  (entries.filterMap fun
    | .file name content => some (name, content)
    | .other _ => none).mergeSort fun a b => a.1 ≤ b.1

/-- The text of a file that could be read. -/
def decodeFile (path : String) (content : Except StreamError (List UInt8)) :
    Except Error (List Char) :=
  match content with
  | .error cause => .error (.patternFile path cause)
  | .ok bytes =>
    match Utf8.decode? bytes with
    | some text => .ok text
    | none => .error (.patternFile path .notUtf8)

/-- Adds the definitions of a file to a library; also their number. -/
def loadText (library : Library) (content : List Char) : Library × Nat :=
  let ds := DefinitionFile.definitions content
  (library.insertAll ds, ds.length)

/-- Loads the files of one directory in their order, counting definitions from `count` on. -/
def loadFiles (directory : String) (library : Library) (count : Nat) :
    List (String × Except StreamError (List UInt8)) → Attempt (Library × Nat)
  | [] => .ofExcept (.ok (library, count))
  | (name, content) :: files =>
    let path := FileSystem.entryPath directory name
    Attempt.andThen (.ofExcept (decodeFile path content)) fun text =>
      let (library, n) := loadText library text
      Attempt.andThen (.report (DefinitionFile.messages text ++ [⟨.debug, "Loaded " ++ toString n ++
        " grok definitions from `" ++ path ++ "`"⟩])) fun _ =>
      loadFiles directory library (count + n) files

/-- Loads one directory. -/
def loadDirectory (fs : FileSystem) (library : Library) (directory : String) :
    Attempt (Library × Nat) :=
  match fs.list directory with
  | .error cause => .ofExcept (.error (.patternDirectory directory cause))
  | .ok entries => loadFiles directory library 0 (regularFiles entries)

/-- Loads directories in their order. -/
def loadDirectories (fs : FileSystem) (library : Library) : List String → Attempt Library
  | [] => .ofExcept (.ok library)
  | directory :: directories =>
    Attempt.andThen (loadDirectory fs library directory) fun (library, n) =>
    Attempt.andThen (.report [⟨.debug, "Loaded " ++ toString n ++ " grok definitions from directory `"
      ++ directory ++ "`"⟩]) fun _ =>
    loadDirectories fs library directories

/-- The library of the first layer. -/
def base (l : Layers) : Library :=
  if l.builtIn then Library.empty.insertAll BuiltIn.definitions else .empty

/-- The messages about the first layer. -/
def baseMessages (l : Layers) : List Log.Entry :=
  if l.builtIn then
    BuiltIn.groups.map fun g => ⟨.debug, "Loaded " ++ toString g.definitions.length ++
      " built-in grok definitions from `" ++ g.name ++ "`"⟩
  else []

/-- The library of the first layer alone. -/
def loadBase (l : Layers) : Attempt Library := ⟨l.baseMessages, .ok l.base⟩

/-- Loads all layers in their order. -/
def build (fs : FileSystem) (l : Layers) : Attempt Library :=
  Attempt.andThen l.loadBase fun library =>
  Attempt.andThen (loadDirectories fs library l.directories) fun library =>
  let library := library.insertAll l.definitions
  Attempt.andThen (.report [⟨.debug, "Grok pattern library ready with " ++ toString library.size ++
    " definitions (" ++ toString l.definitions.length ++ " custom)"⟩]) fun _ =>
  .ofExcept (.ok library)

end Layers

namespace Library

/-- The built-in definitions alone. -/
def builtIn : Attempt Library := Layers.loadBase {}

/-- The messages that list every definition. -/
def listing (l : Library) : List Log.Entry :=
  l.definitions.map fun d => ⟨.debug, d.name ++ " " ++ d.body⟩

end Library

end Grok
