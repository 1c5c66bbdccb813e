import ReleaseTrigger.Domain.Label
import ReleaseTrigger.Percent
import ReleaseTrigger.Url.Ipv4
import ReleaseTrigger.Url.Ipv6

/-! # Hosts

A host in square brackets is an address of version 6. Any other host of a network URL is
percent-decoded and put into its ASCII form; it is then an address of version 4 if it ends in a
number, and a domain name otherwise. The host of another URL is kept with its controls escaped.
-/

namespace ReleaseTrigger.Host

/-- The host that a text in square brackets denotes, given what follows the opening one. -/
def parseBracketed (text : Text) : Except UrlError Host :=
  match text.reverse with
  | ']' :: reversed =>
    match Ipv6.parse? reversed.reverse with
    | some address => .ok (.ipv6 address)
    | none => .error .ipv6Address
  | _ => .error .ipv6Address

/-- The host that a domain name in ASCII form stands for. -/
def ofName (name : Text) : Except UrlError Host :=
  if name.isEmpty then .error .emptyHost
  else if Ipv4.endsInNumber name then
    match Ipv4.parse? name with
    | some address => .ok (.ipv4 address)
    | none => .error .ipv4Address
  else .ok (.domain name)

def parse (text : Text) : Except UrlError Host :=
  match text with
  | [] => .error .emptyHost
  | '[' :: rest => parseBracketed rest
  | _ =>
    match (Utf8.decode? (Percent.decode text)).bind Domain.toAscii? with
    | none => .error .domainName
    | some name => ofName name

def render : Host → Text
  | .domain name => name
  | .ipv4 address => Ipv4.render address
  | .ipv6 address => '[' :: Ipv6.render address ++ [']']

/-- A character that no host of a foreign URL may hold. -/
def isOpaqueForbidden (c : Char) : Bool :=
  c.toNat == 0 || (Text.of "\t\n\r #/:<>?@[\\]^|").contains c

/-- The written host of a URL that is not a network URL. -/
def parseOpaque (text : Text) : Except UrlError Text :=
  match text with
  | '[' :: rest => (parseBracketed rest).map render
  | _ =>
    if text.any isOpaqueForbidden then .error .domainCharacter
    else .ok (Percent.encode Percent.controls text)

end ReleaseTrigger.Host
