import Grok.Error

namespace Grok

/-!
# Directories and files

Definition files are found through a `FileSystem`, which only has to list directories.

* `FileSystem.Entry` is what a listing yields: a file with its content, or something else.
* `FileTree` is a file system held in memory, with its paths relative to one working directory.
-/

namespace FileSystem

/-- An entry of a directory. -/
inductive Entry where
  /-- a regular file, and what reading it yields -/
  | file (name : String) (content : Except StreamError (List UInt8))
  /-- anything that is not a regular file -/
  | other (name : String)

end FileSystem

/-- What can be found under paths: the entries of each directory, in no particular order. -/
structure FileSystem where
  list : String → Except StreamError (List FileSystem.Entry)

/-- The path of an entry of a directory. -/
def FileSystem.entryPath (directory name : String) : String :=
  if directory.endsWith "/" then directory ++ name else directory ++ "/" ++ name

/-- A file system in memory. Paths are lists of names, from the working directory down. -/
structure FileTree where
  directories : List (List String)
  files : List (List String × List UInt8)

namespace FileTree

/-- The names that make up a path, without empty ones and `.`. -/
def names (path : String) : List String :=
  (path.splitOn "/").filter fun n => n ≠ "" ∧ n ≠ "."

/-- Writes a file; one that is there already is replaced. -/
def write (files : List (List String × List UInt8)) (path : List String) (content : List UInt8) :
    List (List String × List UInt8) :=
  files.filter (·.1 ≠ path) ++ [(path, content)]

/-- A tree with the given directories and files; the parents of a directory are there as well, and
    of two files with one path the later one stays. -/
def ofPaths (directories : List String) (files : List (String × List UInt8)) : FileTree where
  directories := [] :: directories.flatMap fun d =>
    (List.range' 1 (names d).length).map (names d).take
  files := files.foldl (fun fs (path, content) => write fs (names path) content) []

/-- The most bytes that a path may have. -/
def longestPath : Nat := 4095

/-- The most bytes that a name in a path may have. -/
def longestName : Nat := 255

/-- Follows a path name by name; `..` leads back to the parent. -/
def follow (t : FileTree) (here : List String) : List String → Except StreamError (List String)
  | [] => .ok here
  | n :: ns =>
    if longestName < n.utf8ByteSize then .error .nameTooLong
    else
      let next := if n = ".." then here.dropLast else here ++ [n]
      if t.directories.contains next then t.follow next ns
      else if t.files.any (·.1 = next) then .error .notDirectory
      else .error .notFound

/-- The name of a path below a directory, if it is directly in it. -/
def childName? (dir path : List String) : Option String :=
  if path ≠ [] ∧ path.dropLast = dir then path.getLast? else none

/-- The entries of a directory that is listed under a path. A file whose own path would be too long
    cannot be told to be one. -/
def entries (t : FileTree) (path : String) (dir : List String) : List FileSystem.Entry :=
  (t.directories.filterMap (childName? dir)).eraseDups.map .other ++
    t.files.filterMap fun (file, content) =>
      (childName? dir file).map fun name =>
        if longestPath < (FileSystem.entryPath path name).utf8ByteSize then .other name
        else .file name (.ok content)

/-- The listing of a path. An absolute path, or none at all, leads to nothing. -/
def list (t : FileTree) (path : String) : Except StreamError (List FileSystem.Entry) :=
  if path.contains '\x00' then .error .zeroInPath
  else if longestPath < path.utf8ByteSize then .error .nameTooLong
  else if path = "" ∨ path.startsWith "/" then .error .notFound
  else (t.follow [] (names path)).map (t.entries path)

/-- The tree as a file system. -/
def fileSystem (t : FileTree) : FileSystem := ⟨t.list⟩

end FileTree

end Grok
