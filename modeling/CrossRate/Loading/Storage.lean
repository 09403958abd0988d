import CrossRate.FileTree
import CrossRate.Loading.Error

/-!
# Stores of payloads

A `Storage` keeps the payload that a resource was loaded with last, so that it is at hand
when the network is not. It keeps payloads in memory or in the files of a directory, one for
each resource; there the name of a file shows only letters, digits, `-` and `_` of the
identifier, so that no file lies outside the directory.
-/

namespace CrossRate

/-- Where payloads are kept. -/
inductive StoragePlace where
  /-- In memory, where reading or writing may be out of order. -/
  | memory (readable writable : Bool)
  /-- In the files of a directory. -/
  | directory (path : String)

/-- A store of payloads. -/
structure Storage where
  place : StoragePlace := .memory true true
  /-- The payloads in memory. -/
  kept : OrderedMap String Bytes := .empty
  /-- The files of the machine. -/
  files : FileTree := .start

namespace Storage

/-- Whether a character of an identifier shows in the name of a file. -/
def shows (c : Char) : Bool := c.isAlphanum || c = '-' || c = '_'

/-- The stem of the file of a resource. -/
def stemOf (id : String) : String := id.map (fun c => if shows c then c else '_')

/-- The name of the file of a resource. -/
def fileNameOf (id : String) : String := stemOf id ++ ".dat"

/-- The name of the file in which a payload is prepared. A name that is all ending keeps it. -/
def draftNameOf (id : String) : String :=
  if id = "" then ".dat.tmp" else stemOf id ++ ".tmp"

/-- The path of a file in a directory. -/
def pathIn (directory name : String) : String :=
  if directory = "" ∨ directory.endsWith "/" then directory ++ name
  else directory ++ "/" ++ name

/-- A store in a directory, which is made if need be. -/
def inDirectory (path : String) (files : FileTree) : Except StorageFault Storage :=
  ((files.makeDirectories path).mapError .files).map
    (fun files => { place := .directory path, files := files })

/-- A store in a directory, or in memory if there is none. -/
def opened (directory : Option String) (files : FileTree) : Except StorageFault Storage :=
  match directory with
  | some path => inDirectory path files
  | none => .ok { files := files }

/-- The payload of a resource, if there is one. -/
def read (s : Storage) (id : String) : Except StorageFault (Option Bytes) :=
  match s.place with
  | .memory readable _ => if readable then .ok (s.kept.get? id) else .error .unreadable
  | .directory path =>
    match s.files.read (pathIn path (fileNameOf id)) with
    | .ok payload => .ok (some payload)
    | .error .missing => .ok none
    | .error fault => .error (.files fault)

/-- Keep the payload of a resource in place of the one before. In a directory it is prepared
in a file of its own, so that the file of the resource is never half written; that file
stays behind when it cannot take the other's place. -/
def write (s : Storage) (id : String) (payload : Bytes) : Except StorageFault Unit × Storage :=
  match s.place with
  | .memory _ writable =>
    if writable then (.ok (), { s with kept := s.kept.insert id payload }) else (.error .full, s)
  | .directory path =>
    let draft := pathIn path (draftNameOf id)
    match s.files.write draft payload with
    | .error fault => (.error (.files fault), s)
    | .ok prepared =>
      match prepared.rename draft (pathIn path (fileNameOf id)) with
      | .error fault => (.error (.files fault), { s with files := prepared })
      | .ok files => (.ok (), { s with files := files })

/-- Drop the payload of a resource, if there is one. -/
def remove (s : Storage) (id : String) : Except StorageFault Unit × Storage :=
  match s.place with
  | .memory .. => (.ok (), { s with kept := s.kept.erase id })
  | .directory path =>
    match s.files.remove (pathIn path (fileNameOf id)) with
    | .ok files => (.ok (), { s with files := files })
    | .error .missing => (.ok (), s)
    | .error fault => (.error (.files fault), s)

/-- The store with a payload kept if that is possible. -/
def keeping (s : Storage) (id : String) (payload : Bytes) : Storage := (s.write id payload).2

/-- How often files are used to read or to drop a payload. -/
def usesToRead (s : Storage) : Nat :=
  match s.place with
  | .memory .. => 0
  | .directory _ => 1

/-- How often files are used to keep a payload: the draft is written, then it takes its
place. -/
def usesToWrite (s : Storage) : Nat := 2 * s.usesToRead

end Storage

end CrossRate
