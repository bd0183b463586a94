/-
AlertRelay/Settings/File.lean

Files with settings.

A file of settings ends in `.toml`, whatever is asked for.  A file that is not there is written
with the defaults, so that there is something to change.
-/
import AlertRelay.Environment
import AlertRelay.Settings.Document

namespace AlertRelay

/-- Where a file of settings is looked for below a directory for them. -/
def settingsFile : String :=
  "httpbroker/config.toml"

/-- The file of settings that is used when none is named. -/
def defaultSettingsPath (env : Environment) : Except SettingsFault String :=
  match env.get? "XDG_CONFIG_HOME" with
  | some dir => .ok (Path.join dir settingsFile)
  | none =>
    match env.get? "HOME" with
    | some home => .ok (Path.join (Path.join home ".config") settingsFile)
    | none => .error .pathUnavailable

namespace Settings

/-- Writes settings to a file and makes the directories it lies in.  Settings that cannot be
written leave the disk as it was. -/
def save (s : Settings) (path : String) (d : Disk) : Except SettingsFault Unit × Disk :=
  match s.document? with
  | none => (.error .serializeFailed, d)
  | some text =>
    match d.makeParents path with
    | .error f => (.error (.writeFailed f), d)
    | .ok d =>
      match d.write path (utf8 text) with
      | .error f => (.error (.writeFailed f), d)
      | .ok d => (.ok (), d)

/-- Reads settings from a file, which is written first if it is not there. -/
def loadFrom (path : String) (d : Disk) : Except SettingsFault Settings × Disk :=
  if d.has path then
    match d.readText path with
    | .error f => (.error (.readFailed f), d)
    | .ok text =>
      match parse? text with
      | none => (.error .parseFailed, d)
      | some s => (.ok s, d)
  else
    match save {} path d with
    | (.error f, d) => (.error f, d)
    | (.ok (), d) => (.ok {}, d)

/-- Reads settings from the file that is named, or else from the usual one. -/
def load (path : Option String) (env : Environment) (d : Disk) :
    Except SettingsFault Settings × Disk :=
  match path with
  | some path => loadFrom (Path.withToml path) d
  | none =>
    match defaultSettingsPath env with
    | .error f => (.error f, d)
    | .ok path => loadFrom path d

end Settings

end AlertRelay
