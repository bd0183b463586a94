/-
AlertRelay/Files/Path.lean

Paths of files.

A path is a text whose names are separated by slashes.  Slashes in a row count as one, and a
slash or a dot at the end is not part of the last name.  The names `.` and `..` are the place
itself and the place above.

A name ends in an extension: what follows its last dot, unless the dot is its first character.
-/
import AlertRelay.KeyedMap
import AlertRelay.Text.Pieces

namespace AlertRelay

namespace Path

/-- The names of a path. -/
def names (path : String) : List String :=
  ((pieces (· = '/') path.toList).filter (· ≠ [])).map String.ofList

/-- Whether a path ends in a slash. -/
def endsInSlash (path : String) : Bool :=
  path.toList.getLast? = some '/'

/-- Whether a path begins at the top. -/
def isFromTop (path : String) : Bool :=
  path.toList.head? = some '/'

/-- A path with another one after it; one that begins with a slash stands for itself. -/
def join (path more : String) : String :=
  if isFromTop more then more
  else if path = "" || endsInSlash path then path ++ more
  else path ++ "/" ++ more

/-! ### The last name -/

/-- Drops slashes and lone dots from a reversed path. -/
def dropEnd : List Char → List Char
  | '/' :: rest => dropEnd rest
  | '.' :: '/' :: rest => dropEnd rest
  | s => s

/-- Everything before the last name and that name, unless the path ends in none. -/
def lastName? (path : String) : Option (List Char × List Char) :=
  let back := dropEnd path.toList.reverse
  let name := (back.takeWhile (· ≠ '/')).reverse
  if name = [] || name = ['.'] || name = ['.', '.'] then none
  else some ((back.dropWhile (· ≠ '/')).reverse, name)

/-- A name without its extension, and the extension. -/
def splitName (name : List Char) : List Char × Option (List Char) :=
  let back := name.reverse
  match back.dropWhile (· ≠ '.') with
  | [] => (name, none)
  | _ :: stem =>
    if stem = [] then (name, none)
    else (stem.reverse, some (back.takeWhile (· ≠ '.')).reverse)

/-- The path of the place in which a path lies: its names without the last one.  A path without
names lies in nothing. -/
def parent? (path : String) : Option (List String) :=
  match (names path).filter (· ≠ ".") with
  | [] => none
  | ns => some ns.dropLast

/-- The extension of configuration files. -/
def tomlExtension : List Char := "toml".toList

/-- A path with the extension of configuration files, in place of any other. -/
def withToml (path : String) : String :=
  match lastName? path with
  | none => path
  | some (before, name) =>
    match splitName name with
    | (stem, ext) =>
      if ext = some tomlExtension then path
      else String.ofList (before ++ stem ++ '.' :: tomlExtension)

end Path

end AlertRelay
