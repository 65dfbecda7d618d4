import Phrasebook.Files.Path
import Phrasebook.SortedMap

/-!
# Trees of files

A `FileTree` is what a file system holds: directories, and files as sequences of bytes.  Its root
is the directory that paths start from.  A path may leave it by `..`, to the directories that the
root is in; nothing is there but what has been written there.

* `FileTree.locate` follows a path from directory to directory.
* `FileTree.isDirectory`, `FileTree.read` and `FileTree.write` do what programs do with files; a
  `FileError` says why one of them cannot.
* `FileTree.addDirectory` and `FileTree.addFile` build a tree, with all directories on the way.
* `FileTree.changes` lists what another tree has inside its root that this one has not.
-/

namespace Phrasebook

/-- Why a file cannot be read or written. -/
inductive FileError where
  /-- There is nothing at the path. -/
  | notFound
  /-- The path goes through something that is no directory. -/
  | notDirectory
  /-- A directory is at the path. -/
  | isDirectory
  /-- A name or the path is too long. -/
  | nameTooLong
  /-- The path has a null character. -/
  | nullInName
  /-- The file holds no text. -/
  | invalidText
  /-- Any other reason, in the words of the system. -/
  | other (description : String)
  deriving DecidableEq, Repr

namespace FileError

/-- The wording of an error. -/
def message : FileError → String
  | notFound => "No such file or directory (os error 2)"
  | notDirectory => "Not a directory (os error 20)"
  | isDirectory => "Is a directory (os error 21)"
  | nameTooLong => "File name too long (os error 36)"
  | nullInName => "file name contained an unexpected NUL byte"
  | invalidText => "stream did not contain valid UTF-8"
  | other description => description

instance : ToString FileError := ⟨message⟩

end FileError

/-- What is filed under a name. -/
inductive FileItem where
  /-- A directory. -/
  | directory
  /-- A file and its bytes. -/
  | file (bytes : List UInt8)
  deriving DecidableEq

/-- A tree of files: what is at each place, where a place is the names that lead there from the
root, joined by slashes.  Outside the root, they start with `..`. -/
structure FileTree where
  /-- Everything but the root and the directories that it is in, by its place. -/
  items : SortedMap FileItem
  deriving DecidableEq

namespace FileTree

/-- The tree with nothing in it. -/
def empty : FileTree := ⟨.empty⟩

/-- The names that lead to a place, joined. -/
def place (names : List String) : String := "/".intercalate names

/-- Whether names lead from the root to itself or to a directory that it is in. -/
def leadsUp (names : List String) : Bool := names.all (· == "..")

/-- The names that lead one directory up from the end of `names`. -/
def parent (names : List String) : List String :=
  if leadsUp names then names ++ [".."] else names.dropLast

/-- What is at the end of `names`. -/
def item? (t : FileTree) (names : List String) : Option FileItem :=
  if leadsUp names then some .directory else t.items.get? (place names)

/-- The names that lead to where the parts of a path lead to from `names`.  All that the path goes
through must be directories, but its end need not exist. -/
def walk (t : FileTree) (names : List String) : List String → Except FileError (List String)
  | [] => .ok names
  | part :: rest =>
    match t.item? names with
    | none => .error .notFound
    | some (.file _) => .error .notDirectory
    | some .directory =>
      if Path.isIdle part then t.walk names rest
      else if part = ".." then t.walk (parent names) rest
      else if 255 < part.utf8ByteSize then .error .nameTooLong
      else t.walk (names ++ [part]) rest

/-- The names that a path leads to from the root. -/
def locate (t : FileTree) (path : String) : Except FileError (List String) :=
  if path.isEmpty then .error .notFound
  else if path.contains '\x00' then .error .nullInName
  else if 4096 ≤ path.utf8ByteSize then .error .nameTooLong
  else t.walk [] (Path.parts path)

/-- Whether a directory is at a path. -/
def isDirectory (t : FileTree) (path : String) : Bool :=
  match t.locate path with
  | .ok names => t.item? names == some .directory
  | .error _ => false

/-- The text of the file at a path. -/
def read (t : FileTree) (path : String) : Except FileError String := do
  match t.item? (← t.locate path) with
  | none => throw .notFound
  | some .directory => throw .isDirectory
  | some (.file bytes) =>
    match String.fromUTF8? ⟨bytes.toArray⟩ with
    | some text => return text
    | none => throw .invalidText

/-- The tree with a text in the file at a path, which is made if it does not exist. -/
def write (t : FileTree) (path text : String) : Except FileError FileTree := do
  let names ← t.locate path
  match t.item? names with
  | some .directory => throw .isDirectory
  | _ => return ⟨t.items.insert (place names) (.file text.toUTF8.toList)⟩

/-! ## Building a tree -/

/-- The names that a path leads to, wherever it goes through. -/
def namesOf (path : String) : List String :=
  (Path.parts path).foldl
    (fun names part =>
      if Path.isIdle part then names
      else if part = ".." then parent names
      else names ++ [part]) []

/-- The tree with a directory at the end of each beginning of `names`. -/
def addDirectories (t : FileTree) (names : List String) : FileTree :=
  (List.range names.length).foldl
    (fun t n => ⟨t.items.insert (place (names.take (n + 1))) .directory⟩) t

/-- The tree with a directory at a path. -/
def addDirectory (t : FileTree) (path : String) : FileTree := t.addDirectories (namesOf path)

/-- The tree with a file at a path. -/
def addFile (t : FileTree) (path : String) (bytes : List UInt8) : FileTree :=
  let names := namesOf path
  ⟨(t.addDirectories names.dropLast).items.insert (place names) (.file bytes)⟩

/-- The files inside the root of a later tree that are new or not as they were, by their places. -/
def changes (before after : FileTree) : List (String × List UInt8) :=
  after.items.toList.filterMap fun (place, item) =>
    match item with
    | .file bytes =>
      if before.items.get? place = some item || place.startsWith "../" then none
      else some (place, bytes)
    | .directory => none

end FileTree

end Phrasebook
