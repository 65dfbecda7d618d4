import Phrasebook.Files.FileTree

/-!
# Hosts

What a command needs of the system it runs on: looking at directories, reading and writing texts,
and two channels to print to.  Commands are written for any monad with these operations.

`Session` is a host without a system: a tree of files and what has been printed.  A command that
runs in it is a function, and what it does to the files is there to look at.
-/

namespace Phrasebook

/-- The operations of a host. -/
class Host (m : Type → Type) where
  /-- Whether a directory is at a path. -/
  isDirectory : String → m Bool
  /-- The text of a file. -/
  readText : String → m (Except FileError String)
  /-- Puts a text in a file. -/
  writeText : String → String → m (Except FileError Unit)
  /-- Prints a text to the output. -/
  print : String → m Unit
  /-- Prints a text to the channel for warnings. -/
  warn : String → m Unit

/-- A host that keeps everything in a value. -/
structure Session where
  /-- The files. -/
  files : FileTree
  /-- What has been printed. -/
  output : String
  /-- What has been printed as warnings. -/
  warnings : String

namespace Session

/-- The session in which nothing has been printed. -/
def start (files : FileTree) : Session := ⟨files, "", ""⟩

/-- Writes a text into the files of a session. -/
def write (path text : String) (s : Session) : Except FileError Unit × Session :=
  match s.files.write path text with
  | .ok files => (.ok (), { s with files := files })
  | .error e => (.error e, s)

instance : Host (StateM Session) where
  isDirectory path := fun s => (s.files.isDirectory path, s)
  readText path := fun s => (s.files.read path, s)
  writeText path text := Session.write path text
  print text := modify fun s => { s with output := s.output ++ text }
  warn text := modify fun s => { s with warnings := s.warnings ++ text }

end Session

end Phrasebook
