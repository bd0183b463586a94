/-
AlertRelay/Url/Domain.lean

Names of hosts.

A name can be written in any letters.  The network knows names in ASCII only, so a label with
foreign letters is brought to its usual spelling and then into ASCII, behind the mark `xn--`; a
label that already has the mark has to be one that could have come about that way.

The characters, what stands for them, and how marks, joiners and directions go together are those of
Unicode 17.
-/
import AlertRelay.Text.Pieces
import AlertRelay.Text.Utf8
import AlertRelay.Url.Direction
import AlertRelay.Url.Joiners
import AlertRelay.Url.Punycode

namespace AlertRelay

namespace Domain

/-- Whether a character of ASCII can stand in no name. -/
def isForbidden (c : Char) : Bool :=
  c ≤ ' ' || c = '\x7f' ||
    ['%', '#', '/', ':', '<', '>', '?', '@', '[', '\\', ']', '^', '|'].contains c

/-- Whether a character is one of ASCII. -/
def isAscii (c : Char) : Bool :=
  c.toNat < 128

/-- What stands for a character, if it can stand in a name. -/
def usual? (c : Char) : Option (List Char) :=
  if isAscii c then some [c.toLower] else Letters.standsFor? c

/-- What stands for the characters of a name, with every mark in its letter that can be.  In ASCII
there are no marks. -/
def spelled? (name : List Char) : Option (List Char) :=
  if name.all isAscii then some (name.map Char.toLower)
  else (name.mapM usual?).map fun parts => Marks.joinAll parts.flatten

/-- The usual spelling of a name. -/
def usualName? (name : List Char) : Option (List Char) :=
  match spelled? name with
  | none => none
  | some name => if name.any isForbidden then none else some name

/-- The labels of a name, which dots separate. -/
def labels : List Char → List (List Char) :=
  pieces (· = '.')

/-- The mark of a label that is spelled in ASCII. -/
def spelledMark : List Char := "xn--".toList

/-- Whether letters can be a label: they do not begin with a mark, and have joiners only where those
make a difference. -/
def isSound (letters : List Char) : Bool :=
  !(letters.head?.any Marks.isMark) && Joiners.fit [] letters

/-- The letters of a label that has the mark: the label has to be their spelling, and they have to
need one. -/
def ofSpelling? (spelled : List Char) : Option (List Char) :=
  match Punycode.decode? spelled with
  | none => none
  | some letters =>
    if spelled.all isAscii && !letters.all isAscii && isSound letters &&
        usualName? letters = some letters && Punycode.encode letters = spelled then some letters
    else none

/-- The letters of a label in its usual spelling. -/
def letters? (label : List Char) : Option (List Char) :=
  if spelledMark.isPrefixOf label then ofSpelling? (label.drop spelledMark.length)
  else if isSound label then some label
  else none

/-- The letters of a label in ASCII. -/
def inAscii (letters : List Char) : List Char :=
  if letters.all isAscii then letters else spelledMark ++ Punycode.encode letters

/-- A name in ASCII. -/
def ascii? (name : List Char) : Option String := do
  let name ← usualName? name
  let labels ← (labels name).mapM letters?
  if Direction.keepsOrder labels then
    some (".".intercalate (labels.map fun l => String.ofList (inAscii l)))
  else none

end Domain

end AlertRelay
