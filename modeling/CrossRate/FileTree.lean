import CrossRate.OrderedMap
import CrossRate.Text.Bytes
import CrossRate.Text.Search

/-!
# Trees of files

A `FileTree` holds files in directories. `walk` follows the names of a path, and fails where
there is nothing, or something that is not a directory; on it rest reading, writing, renaming
and removing a file, and making a directory. `makeDirectories` makes a directory together with
those that it lies in.
-/

namespace CrossRate

/-- Why a file could not be used. -/
inductive FileFault where
  | missing
  | present
  | notDirectory
  | isDirectory
  | nameTooLong
  /-- A path holds the character that ends paths. -/
  | endedWithin
deriving DecidableEq

namespace FileFault

def message : FileFault → String
  | missing => "No such file or directory (os error 2)"
  | present => "File exists (os error 17)"
  | notDirectory => "Not a directory (os error 20)"
  | isDirectory => "Is a directory (os error 21)"
  | nameTooLong => "File name too long (os error 36)"
  | endedWithin => "file name contained an unexpected NUL byte"

end FileFault

/-- What stands at a place of a tree. -/
inductive FileNode where
  | directory
  | file (content : Bytes)
deriving DecidableEq

/-- A place of a tree: the names on the way from its root. -/
abbrev FilePlace := List String

/-- Files in directories. -/
structure FileTree where
  nodes : OrderedMap FilePlace FileNode

namespace FileTree

/-- The directory from which paths start that do not start at the root. -/
def workPlace : FilePlace := ["work"]

/-- A tree whose working directory is empty. -/
def start : FileTree :=
  ⟨.ofList [([], .directory), (["dev"], .directory), (["dev", "null"], .file []),
    (["tmp"], .directory), (workPlace, .directory)]⟩

/-- The greatest number of bytes in a name. -/
def longestName : Nat := 255

/-- The greatest number of bytes in a path. -/
def longestPath : Nat := 4095

/-- What is wrong with a path, wherever it leads. -/
def faultOf? (path : String) : Option FileFault :=
  if path.toList.contains '\x00' then some .endedWithin
  else if path.utf8ByteSize > longestPath then some .nameTooLong
  else none

/-- The names in a path. -/
def namesOf (path : String) : List String := Text.splitAt '/' path

/-- Where a path starts. -/
def originOf (path : String) : FilePlace :=
  if path.toList.head? = some '/' then [] else workPlace

/-- Whether a name in a path stays at the directory before it. -/
def stays (name : String) : Bool := name = "" || name = "."

/-- Follow names from a place. All places before the last have to be directories. -/
def walk (t : FileTree) (place : FilePlace) : List String → Except FileFault FilePlace
  | [] => .ok place
  | name :: rest =>
    match t.nodes.get? place with
    | none => .error .missing
    | some (.file _) => .error .notDirectory
    | some .directory =>
      if stays name then t.walk place rest
      else if name = ".." then t.walk place.dropLast rest
      else if name.utf8ByteSize > longestName then .error .nameTooLong
      else t.walk (place ++ [name]) rest

/-- The place of a path. -/
def locate (t : FileTree) (path : String) : Except FileFault FilePlace :=
  match faultOf? path with
  | some fault => .error fault
  | none => if path = "" then .error .missing else t.walk (originOf path) (namesOf path)

/-- The content of the file at a place. -/
def contentAt (t : FileTree) (place : FilePlace) : Except FileFault Bytes :=
  match t.nodes.get? place with
  | none => .error .missing
  | some .directory => .error .isDirectory
  | some (.file content) => .ok content

/-- Read a file. -/
def read (t : FileTree) (path : String) : Except FileFault Bytes :=
  (t.locate path).bind t.contentAt

/-- Put a file at a place, unless that is a directory. -/
def putAt (t : FileTree) (place : FilePlace) (content : Bytes) : Except FileFault FileTree :=
  match t.nodes.get? place with
  | some .directory => .error .isDirectory
  | _ => .ok ⟨t.nodes.insert place (.file content)⟩

/-- Write a file. -/
def write (t : FileTree) (path : String) (content : Bytes) : Except FileFault FileTree :=
  (t.locate path).bind (t.putAt · content)

/-- Remove a file. -/
def remove (t : FileTree) (path : String) : Except FileFault FileTree := do
  let place ← t.locate path
  let _ ← t.contentAt place
  return ⟨t.nodes.erase place⟩

/-- Give a file another path, in place of any file there. -/
def rename (t : FileTree) (path target : String) : Except FileFault FileTree := do
  let place ← t.locate path
  let content ← t.contentAt place
  (⟨t.nodes.erase place⟩ : FileTree).putAt (← t.locate target) content

/-- Whether names lead from a place to a directory. -/
def leadToDirectory (t : FileTree) (origin : FilePlace) (names : List String) : Bool :=
  match t.walk origin names with
  | .ok place => t.nodes.get? place = some .directory
  | .error _ => false

/-- Make the directory that names lead to from a place. The one that it lies in has to be
there; slashes at the end of a path count for nothing. -/
def makeDirectory (t : FileTree) (origin : FilePlace) (names : List String) :
    Except FileFault FileTree :=
  match (names.reverse.dropWhile (· = "")) with
  | [] => .error .present
  | last :: before => do
    let place ← t.walk origin before.reverse
    match t.nodes.get? place with
    | none => .error .missing
    | some (.file _) => .error .notDirectory
    | some .directory =>
      if last = "." ∨ last = ".." then .error .present
      else if last.utf8ByteSize > longestName then .error .nameTooLong
      else if t.nodes.contains (place ++ [last]) then .error .present
      else .ok ⟨t.nodes.insert (place ++ [last]) .directory⟩

/-- Make a directory unless it is there. -/
def ensureDirectory (t : FileTree) (origin : FilePlace) (names : List String) :
    Except FileFault FileTree :=
  match t.makeDirectory origin names with
  | .error .present => if t.leadToDirectory origin names then .ok t else .error .present
  | result => result

/-- Make the first of some directories, each of which lies in the next, and as many of the
others as are missing. -/
def ensureDirectories (t : FileTree) (origin : FilePlace) :
    List (List String) → Except FileFault FileTree
  | [] => .ok t
  | names :: above =>
    match t.ensureDirectory origin names with
    | .error .missing =>
      (t.ensureDirectories origin above).bind (·.ensureDirectory origin names)
    | result => result

/-- The names on the way to a place, one less at a time, the place itself left out. -/
def above (names : List String) : List (List String) :=
  let steps := names.filter (fun name => !stays name)
  (List.range (steps.length - 1)).reverse.map (fun n => steps.take (n + 1))

/-- Make a directory and those that it lies in. -/
def makeDirectories (t : FileTree) (path : String) : Except FileFault FileTree :=
  match faultOf? path with
  | some fault => .error fault
  | none =>
    if path = "" then .ok t
    else t.ensureDirectories (originOf path) (namesOf path :: above (namesOf path))

/-- Write a file, and make the directories that it lies in. -/
def writeDeep (t : FileTree) (path : String) (content : Bytes) : Except FileFault FileTree :=
  match faultOf? path with
  | some fault => .error fault
  | none =>
    (t.ensureDirectories (originOf path) (above (namesOf path))).bind (·.write path content)

/-- The names in a directory. -/
def list (t : FileTree) (path : String) : Except FileFault (List String) := do
  let place ← t.locate path
  match t.nodes.get? place with
  | none => .error .missing
  | some (.file _) => .error .notDirectory
  | some .directory =>
    return t.nodes.keys.filterMap fun p =>
      if p.dropLast = place then p.getLast? else none

end FileTree

end CrossRate
