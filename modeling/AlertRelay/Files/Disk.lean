/-
AlertRelay/Files/Disk.lean

Files and directories.

A disk holds files and directories under their places: names from the top, without `.` and `..`.
The top is a directory that is always there.  A path leads to a place by its names, of which all
but the last have to be directories; it starts at the top if it begins with a slash, and at the
place that is worked at if it does not.  What goes wrong on the way has a number and a text.
-/
import AlertRelay.Files.Path
import AlertRelay.SystemFault
import AlertRelay.Text.Utf8

namespace AlertRelay

/-- What can go wrong with a file. -/
inductive FileFault where
  | notFound
  | exists
  | notDirectory
  | isDirectory
  /-- It was to be read as a text and is none. -/
  | notText
deriving DecidableEq, Repr

namespace FileFault

/-- The fault of the system behind a fault. -/
def system? : FileFault → Option SystemFault
  | .notFound => some ⟨2, "NotFound", "No such file or directory"⟩
  | .exists => some ⟨17, "AlreadyExists", "File exists"⟩
  | .notDirectory => some ⟨20, "NotADirectory", "Not a directory"⟩
  | .isDirectory => some ⟨21, "IsADirectory", "Is a directory"⟩
  | .notText => none

/-- The text of a fault that is none of the system. -/
def notTextMessage : String :=
  "stream did not contain valid UTF-8"

/-- A fault in words. -/
def message (f : FileFault) : String :=
  match f.system? with
  | some system => system.message
  | none => notTextMessage

end FileFault

/-- What stands at a place. -/
inductive DiskEntry where
  | file (content : Bytes)
  | directory
deriving DecidableEq

/-- Names from the top. -/
abbrev DiskPlace := List String

/-- Files and directories. -/
structure Disk where
  entries : KeyedMap DiskEntry := ∅
  /-- Where paths start that do not begin with a slash. -/
  here : DiskPlace := []

namespace Disk

/-- The key of a place. -/
def placeKey (place : DiskPlace) : String :=
  "/".intercalate place

/-- What stands at a place. -/
def entry? (d : Disk) (place : DiskPlace) : Option DiskEntry :=
  if place = [] then some .directory else d.entries.get? (placeKey place)

/-- Puts something at a place. -/
def put (d : Disk) (place : DiskPlace) (e : DiskEntry) : Disk :=
  { d with entries := d.entries.insert (placeKey place) e }

/-! ### Ways -/

/-- The place that some names lead to.  Nothing has to stand at the end of the way. -/
def walk (d : Disk) : (here : DiskPlace) → List String → Except FileFault DiskPlace
  | here, [] => .ok here
  | here, n :: rest =>
    if n = "." then walk d here rest
    else if n = ".." then walk d here.dropLast rest
    else
      match rest with
      | [] => .ok (here ++ [n])
      | m :: rest =>
        match d.entry? (here ++ [n]) with
        | none => .error .notFound
        | some (.file _) => .error .notDirectory
        | some .directory => walk d (here ++ [n]) (m :: rest)

/-- The names of a path; a slash at its end asks for a directory. -/
def wayOf (path : String) : List String :=
  Path.names path ++ if Path.endsInSlash path then ["."] else []

/-- Where a path starts. -/
def startOf (d : Disk) (path : String) : DiskPlace :=
  if Path.isFromTop path then [] else d.here

/-- What a path leads to. -/
def lookUp (d : Disk) (path : String) : Except FileFault DiskEntry := do
  if path = "" then .error .notFound
  let place ← d.walk (d.startOf path) (wayOf path)
  match d.entry? place with
  | none => .error .notFound
  | some e => .ok e

/-- Whether a path leads to something. -/
def has (d : Disk) (path : String) : Bool :=
  (d.lookUp path).isOk

/-! ### Reading and writing -/

/-- The content of a file. -/
def read (d : Disk) (path : String) : Except FileFault Bytes := do
  match ← d.lookUp path with
  | .file content => .ok content
  | .directory => .error .isDirectory

/-- The content of a file as a text. -/
def readText (d : Disk) (path : String) : Except FileFault String := do
  match ofUtf8? (← d.read path) with
  | some s => .ok s
  | none => .error .notText

/-- Makes a directory. -/
def makeDirectory (d : Disk) (start : DiskPlace) (names : List String) :
    Except FileFault Disk := do
  let place ← d.walk start names
  match d.entry? place with
  | none => .ok (d.put place .directory)
  | some _ => .error .exists

/-- Whether some names lead to a directory. -/
def isDirectory (d : Disk) (start : DiskPlace) (names : List String) : Bool :=
  match d.walk start names with
  | .error _ => false
  | .ok place => d.entry? place = some .directory

/-- Makes a directory, unless it is there. -/
def ensureDirectory (d : Disk) (start : DiskPlace) (names : List String) : Except FileFault Disk :=
  match d.makeDirectory start names with
  | .ok d => .ok d
  | .error f => if d.isDirectory start names then .ok d else .error f

/-- Makes a directory and all directories it lies in, from so many names on. -/
def makeDirectoriesFrom (d : Disk) (start : DiskPlace) (names : List String) :
    (count : Nat) → Except FileFault Disk
  | 0 => .ok d
  | count + 1 =>
    match d.ensureDirectory start (names.take (count + 1)) with
    | .ok d => .ok d
    | .error .notFound => do
      let d ← makeDirectoriesFrom d start names count
      d.ensureDirectory start (names.take (count + 1))
    | .error f => .error f

/-- Makes a directory and all directories it lies in. -/
def makeDirectories (d : Disk) (start : DiskPlace) (names : List String) : Except FileFault Disk :=
  makeDirectoriesFrom d start names names.length

/-- Makes the directories that a path lies in. -/
def makeParents (d : Disk) (path : String) : Except FileFault Disk :=
  d.makeDirectories (d.startOf path) ((Path.parent? path).getD [])

/-- Writes a file, whatever it held. -/
def write (d : Disk) (path : String) (content : Bytes) : Except FileFault Disk := do
  let place ← d.walk (d.startOf path) (Path.names path)
  if Path.endsInSlash path then .error .isDirectory
  else
    match d.entry? place with
    | some .directory => .error .isDirectory
    | _ => .ok (d.put place (.file content))

end Disk

end AlertRelay
