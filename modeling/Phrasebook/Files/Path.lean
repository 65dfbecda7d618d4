/-!
# File paths

A path is a text of names divided by slashes.  Its *parts* are the texts between slashes; an empty
part and `.` stand for nothing, except a `.` at the very beginning, and `..` leads one directory
up.

* `Path.join` appends a path to a directory.
* `Path.directory` is the path of the directory that a file is in.
* `Path.extension?` is what stands behind the last dot of the last name.
-/

namespace Phrasebook.Path

/-- The parts of a path; there is always one more than slashes. -/
def partsOf : List Char → List (List Char)
  | [] => [[]]
  | c :: rest =>
    if c = '/' then [] :: partsOf rest
    else
      match partsOf rest with
      | p :: more => (c :: p) :: more
      | [] => [[c]]

/-- The parts of a path. -/
def parts (path : String) : List String := (partsOf path.toList).map String.ofList

/-- Whether a part stands for nothing. -/
def isIdle (part : String) : Bool := part == "" || part == "."

/-- The path that leads from the directory `base` to `path`. -/
def join (base path : String) : String :=
  if path.startsWith "/" then path
  else if base.isEmpty || base.endsWith "/" then base ++ path
  else base ++ "/" ++ path

/-- `parts` without those at the end that stand for nothing. -/
def dropIdle (parts : List String) : List String := (parts.reverse.dropWhile isIdle).reverse

/-- The path of the directory that a file is in; empty for a path without a slash. -/
def directory (path : String) : String :=
  match parts path with
  | [] => ""
  | first :: rest =>
    match dropIdle rest with
    | [] => ""
    | rest =>
      let onTheWay := "/".intercalate (dropIdle rest.dropLast)
      if first.isEmpty then "/" ++ onTheWay
      else if onTheWay.isEmpty then first
      else first ++ "/" ++ onTheWay

/-- What stands behind the last dot of a path's last name, if a name is before the dot. -/
def extension? (path : String) : Option String :=
  match (dropIdle (parts path)).getLast? with
  | none => none
  | some name =>
    if name = ".." then none
    else
      let behind := name.toList.reverse.takeWhile (· != '.')
      if behind.length + 1 < name.length then some (String.ofList behind.reverse) else none

end Phrasebook.Path
