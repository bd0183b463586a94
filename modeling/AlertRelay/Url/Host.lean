/-
AlertRelay/Url/Host.lean

The host of a URL.

Schemes that everybody knows have hosts in the network: a name or an address.  In other schemes a
host is any text without the characters that end it.
-/
import AlertRelay.Url.Ip
import AlertRelay.Url.Percent

namespace AlertRelay

/-- What can be wrong with a URL. -/
inductive UrlFault where
  /-- There is no scheme. -/
  | relative
  | emptyHost
  | invalidPort
  | invalidIpv4
  | invalidIpv6
  /-- The host is no name. -/
  | invalidName
  /-- The host of a foreign scheme has a character that it cannot have. -/
  | invalidCharacter
deriving DecidableEq, Repr

/-- A fault in words. -/
def UrlFault.message : UrlFault → String
  | .relative => "relative URL without a base"
  | .emptyHost => "empty host"
  | .invalidPort => "invalid port number"
  | .invalidIpv4 => "invalid IPv4 address"
  | .invalidIpv6 => "invalid IPv6 address"
  | .invalidName => "invalid international domain name"
  | .invalidCharacter => "invalid domain character"

/-- A host. -/
inductive Host where
  | name (text : String)
  | v4 (address : UInt32)
  /-- An address of eight groups. -/
  | v6 (groups : List Nat)
deriving DecidableEq, Repr

namespace Host

/-- A host as it is shown. -/
def text : Host → String
  | .name s => s
  | .v4 a => Ip.v4Text a
  | .v6 gs => "[" ++ Ip.v6Text gs ++ "]"

/-- An address between brackets, of which the first has been read. -/
def bracketed (cs : List Char) : Except UrlFault Host :=
  match cs.reverse with
  | ']' :: back =>
    match Ip.v6? back.reverse with
    | some gs => .ok (.v6 gs)
    | none => .error .invalidIpv6
  | _ => .error .invalidIpv6

/-- A host in the network. -/
def parse (cs : List Char) : Except UrlFault Host :=
  match cs with
  | '[' :: rest => bracketed rest
  | cs =>
    match (ofUtf8? (Percent.decode (utf8 (String.ofList cs)))).bind fun s =>
        Domain.ascii? s.toList with
    | none => .error .invalidName
    | some s =>
      if s = "" then .error .emptyHost
      else if Ip.isMeant s.toList then
        match Ip.v4? s.toList with
        | some a => .ok (.v4 a)
        | none => .error .invalidIpv4
      else .ok (.name s)

/-- Whether a character cannot stand in the host of a foreign scheme. -/
def isForbidden (c : Char) : Bool :=
  ['\x00', '\t', '\n', '\r', ' ', '#', '/', ':', '<', '>', '?', '@', '[', '\\', ']', '^',
    '|'].contains c

/-- A host in a foreign scheme. -/
def parseForeign (cs : List Char) : Except UrlFault Host :=
  match cs with
  | '[' :: rest => bracketed rest
  | cs =>
    if cs.any isForbidden then .error .invalidCharacter
    else .ok (.name (String.ofList (Percent.encode Percent.inAny cs)))

end Host

end AlertRelay
