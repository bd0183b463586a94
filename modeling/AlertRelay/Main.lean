/-
AlertRelay/Main.lean

The programs on a machine without a network.

The first word names the program: `server`, `submitter` or `watcher`; the others are its command
line. The files that the command line is about are read before, and written afterwards if they have
changed. A server at work takes every line of its input as a posted body and prints the answer.
When the input ends it ticks once and prints the events that it handed over, the newest first.

Everything here moves data in and out; what is done with it is decided in the modules above.
-/
import AlertRelay.Program.Server
import AlertRelay.Program.Submitter
import AlertRelay.Program.Watcher

namespace AlertRelay

namespace Main

/-- The paths that some words may name: each word, what follows the equals sign in it, and both with
the extension of settings. -/
def mentioned (words : List String) : List String :=
  let values := words.map fun w => String.ofList ((w.toList.dropWhile (· ≠ '=')).drop 1)
  let named := (words ++ values).filter (· ≠ "")
  Environment.fileName :: ({} : WatcherFlags).config :: named ++ named.map Path.withToml

/-- Reads what stands at a place and at the places above it. -/
def readPlace (d : Disk) (place : DiskPlace) : IO Disk := do
  let mut disk := d
  for count in List.range place.length do
    let here := place.take (count + 1)
    let path := (← IO.currentDir) / ("/" ++ Disk.placeKey here)
    if ← path.isDir then
      disk := disk.put here .directory
    else if ← path.pathExists then
      disk := disk.put here (.file (← IO.FS.readBinFile path).data.toList)
  return disk

/-- Reads the files that some words may name. -/
def readDisk (words : List String) : IO Disk := do
  let here := Path.names (← IO.currentDir).toString
  let mut disk ← readPlace { here } here
  for path in mentioned words do
    match disk.walk (disk.startOf path) (Path.names path) with
    | .ok place => disk ← readPlace disk place
    | .error _ => disk ← readPlace disk (disk.startOf path ++ Path.names path)
  return disk

/-- Writes what is new on a disk. -/
def writeDisk (before after : Disk) : IO Unit := do
  for (key, entry) in after.entries.toList do
    if before.entries.get? key ≠ some entry then
      let path := (← IO.currentDir) / ("/" ++ key)
      match entry with
      | .directory => IO.FS.createDirAll path
      | .file content => IO.FS.writeBinFile path ⟨content.toArray⟩

/-- The variables of the environment that are looked at. -/
def readEnvironment : IO Environment := do
  let mut env : Environment := ∅
  for name in ["PORT", "XDG_CONFIG_HOME", "HOME"] do
    if let some value ← IO.getEnv name then
      env := env.insert name value
  return env

/-- The time that the clock shows, read off a file that is made for it. -/
def now : IO Int64 := do
  let (_, path) ← IO.FS.createTempFile
  let time := (← path.metadata).modified.sec
  IO.FS.removeFile path
  return Int64.ofInt time

/-- Tells how a program ended. -/
def finish (e : Ending) : IO UInt32 := do
  IO.eprint e.complaint
  return UInt32.ofNat e.status

/-- Takes the lines of the input as posted bodies. -/
partial def serveLines (s : Serving) : IO Serving := do
  let line ← (← IO.getStdin).getLine
  if line.isEmpty then return s
  let request : Request := { target := s.settings.http.path, body := { chunks := [utf8 line] } }
  let answered := s.relay.store.answer s.settings.http.path .isolated (← now) [] request
  for response in answered.response do
    IO.print response.text
  serveLines { s with relay := { s.relay with store := answered.store.settle } }

/-- Runs the server. -/
def runServer (words : List String) : IO UInt32 := do
  let before ← readDisk words
  let (start, after) := server words (← readEnvironment) before .isolated
  writeDisk before after
  match start with
  | .error ending => finish ending
  | .ok serving =>
    let served ← serveLines serving
    let (_, relay) := served.relay.tick (← now)
    for event in relay.queue.events relay.delivery.name do
      IO.println event.json
    finish {}

/-- Runs a program. -/
def run : List String → IO UInt32
  | "server" :: words => runServer words
  | "submitter" :: words => do finish (submitter words .isolated (← now) []).1
  | "watcher" :: words => do
    finish (watcher words (← readDisk words) .isolated fun _ => []).1
  | _ => finish (.ofUsage .missingArgument)

end Main

end AlertRelay

/-- Runs the program that the first word names. -/
def main (words : List String) : IO UInt32 :=
  AlertRelay.Main.run words
