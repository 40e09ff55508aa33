import Std.Data.TreeMap.Basic
import Typewright.Files.Error
import Typewright.Files.Path

/-!
# Stored files

What a program that works in one directory knows of its files. Directories are numbered, and under a number and a name
stands a file with its bytes or another directory. A path is followed part by part, and every part but the last must
lead to a directory. Of what lies above the working directory only the directories that lead to it are known, and
what has been put there.
-/

namespace Typewright

/-- The working directory has the number zero, those above it the numbers below, those that are made the ones above. -/
abbrev DirectoryNumber := Int

inductive StoredEntry where
  | file (bytes : ByteArray)
  | directory (number : DirectoryNumber)

structure FileStore where
  /-- A directory that has been made has the one that it is in under two dots. -/
  entries : Std.TreeMap (DirectoryNumber × String) StoredEntry (compareLex (compareOn (·.1)) (compareOn (·.2)))
  /-- How many directories have been made. -/
  made : Nat

namespace FileStore

def empty : FileStore := ⟨∅, 0⟩

def workingDirectory : DirectoryNumber := 0

/-- The directory that a directory is in. -/
def parent (store : FileStore) (number : DirectoryNumber) : DirectoryNumber :=
  match store.entries[(number, "..")]? with
  | some (.directory above) => above
  | _ => number - 1

def put (store : FileStore) (number : DirectoryNumber) (name : String) (entry : StoredEntry) : FileStore :=
  { store with entries := store.entries.insert (number, name) entry }

/-- A new directory under a name. -/
def addDirectory (store : FileStore) (number : DirectoryNumber) (name : String) : FileStore :=
  let new : DirectoryNumber := store.made + 1
  { (store.put number name (.directory new)).put new ".." (.directory number) with made := store.made + 1 }

/-- How many bytes a part of a path may have. -/
def nameLimit : Nat := 255

/-- How many bytes a path may have. -/
def pathLimit : Nat := 4095

/-- What one part of a path leads to from a directory, if anything is there. -/
def step (store : FileStore) (number : DirectoryNumber) (part : String) : Except FileError (Option StoredEntry) :=
  if part = "" ∨ part = "." then .ok (some (.directory number))
  else if part = ".." then .ok (some (.directory (store.parent number)))
  else if nameLimit < part.utf8ByteSize then .error .nameTooLong
  else .ok store.entries[(number, part)]?

/-- Refuses what is no directory. -/
def requireDirectory : Option StoredEntry → Except FileError DirectoryNumber
  | none => .error .notFound
  | some (.file _) => .error .notDirectory
  | some (.directory number) => .ok number

/-- What the parts of a path lead to from `place`, if anything is there. -/
def follow (store : FileStore) (place : Option StoredEntry) : List String → Except FileError (Option StoredEntry)
  | [] => .ok place
  | part :: rest => do
    store.follow (← store.step (← requireDirectory place) part) rest

/-- What the parts of a path lead to from the working directory. -/
def find (store : FileStore) (path : List String) : Except FileError (Option StoredEntry) :=
  store.follow (some (.directory workingDirectory)) path

/-- Refuses a path that no file can have. -/
def checkPath (path : String) : Except FileError Unit :=
  if path.contains '\x00' then .error .nullInPath
  else if path.isEmpty then .error .notFound
  else if pathLimit < path.utf8ByteSize then .error .nameTooLong
  else .ok ()

/-- The text of a file. -/
def read (store : FileStore) (path : String) : Except FileError String := do
  checkPath path
  if path.startsWith "/" then
    .error .notFound
  match ← store.find (FilePath.parts path) with
  | none => .error .notFound
  | some (.directory _) => .error .isDirectory
  | some (.file bytes) =>
    match String.fromUTF8? bytes with
    | some text => .ok text
    | none => .error .invalidText

/-- Whether a part stays where it is or leads back. -/
def isDots (part : String) : Bool := part == "." || part == ".."

/-- A new directory, where the path has the parts `path`. -/
def makeDirectory (store : FileStore) (path : List String) : Except FileError FileStore := do
  checkPath ("/".intercalate path)
  let number ← requireDirectory (← store.find path.dropLast)
  match path.getLast? with
  | none => .error .notFound
  | some part =>
    if isDots part then .error .alreadyExists
    else
      match ← store.step number part with
      | some _ => .error .alreadyExists
      | none => .ok (store.addDirectory number part)

/-- Whether the path with the parts `path` leads to a directory. -/
def isDirectory (store : FileStore) (path : List String) : Bool :=
  ((checkPath ("/".intercalate path) >>= fun _ => store.find path) >>= requireDirectory).isOk

/-- `makeDirectory` where the directory may be there already. -/
def ensureDirectory (store : FileStore) (path : List String) : Except FileError FileStore :=
  match store.makeDirectory path with
  | .ok store => .ok store
  | .error e => if store.isDirectory path then .ok store else .error e

/-- A directory with all directories above it, as far as they are missing. -/
def makeDirectories (store : FileStore) (path : List String) : Except FileError FileStore :=
  if _h : path = [] then .ok store
  else
    match store.makeDirectory path with
    | .error .notFound => do
      let store ← store.makeDirectories (FilePath.above path)
      store.ensureDirectory path
    | _ => store.ensureDirectory path
termination_by path.length
decreasing_by exact FilePath.length_above_lt _h

/-- The file at `path` with these bytes, whether it was there before or not. -/
def write (store : FileStore) (path : String) (bytes : ByteArray) : Except FileError FileStore := do
  checkPath path
  let parts := FilePath.parts path
  let named := (parts.reverse.dropWhile (·.isEmpty)).reverse
  let number ← requireDirectory (← store.find named.dropLast)
  match named.getLast? with
  | none => .error .isDirectory
  | some part =>
    if isDots part || parts.length ≠ named.length then .error .isDirectory
    else
      match ← store.step number part with
      | some (.directory _) => .error .isDirectory
      | _ => .ok (store.put number part (.file bytes))

/-- `write` that first makes the directories above the file, as far as they are missing. -/
def save (store : FileStore) (path : String) (bytes : ByteArray) : Except FileError FileStore := do
  let store ← store.makeDirectories (FilePath.above (FilePath.parts path))
  store.write path bytes

end FileStore

end Typewright
