import ReleaseTrigger.Text.Utf8

/-! # URLs

A network URL names a host. Its components are kept in the form in which they are written, so user
info, path segments, query and fragment are percent-encoded already. URLs of other schemes are kept
as text, because nothing but their scheme and their spelling is ever asked for.
-/

namespace ReleaseTrigger

/-- The schemes whose URLs name a host and have a hierarchical path. -/
inductive Scheme where
  | http
  | https
  | ws
  | wss
  | ftp
deriving DecidableEq, Repr

namespace Scheme

def name : Scheme → Text
  | http => Text.of "http"
  | https => Text.of "https"
  | ws => Text.of "ws"
  | wss => Text.of "wss"
  | ftp => Text.of "ftp"

/-- The port that a URL of the scheme does not spell out. -/
def defaultPort : Scheme → Nat
  | http | ws => 80
  | https | wss => 443
  | ftp => 21

def all : List Scheme := [http, https, ws, wss, ftp]

def ofName? (name : Text) : Option Scheme := all.find? (·.name == name)

/-- A scheme over which requests can be sent. -/
def isWeb (scheme : Scheme) : Bool := scheme == http || scheme == https

end Scheme

abbrev Ipv4 := BitVec 32

/-- An address of version 6 as its eight pieces of 16 bits. -/
structure Ipv6 where
  pieces : List (BitVec 16)
  length_pieces : pieces.length = 8
deriving DecidableEq, Repr

inductive Host where
  /-- A domain name in its ASCII form. -/
  | domain (name : Text)
  | ipv4 (address : Ipv4)
  | ipv6 (address : Ipv6)
deriving DecidableEq, Repr

/-- A network URL. -/
structure Url where
  scheme : Scheme
  /-- The user name, empty when there is none. -/
  username : Text
  password : Option Text
  host : Host
  /-- The port, unless it is the default one. -/
  port : Option Nat
  path : List Text
  query : Option Text
  fragment : Option Text
deriving DecidableEq, Repr

/-- A URL of a scheme that is not a network scheme. -/
structure ForeignUrl where
  scheme : Text
  /-- User info, host and port, if the URL has an authority. -/
  authority : Option Text
  path : Text
  query : Option Text
  fragment : Option Text
deriving DecidableEq, Repr

inductive AnyUrl where
  | network (url : Url)
  | foreign (url : ForeignUrl)
deriving DecidableEq, Repr

inductive UrlError where
  | missingScheme
  | emptyHost
  | port
  | ipv4Address
  | ipv6Address
  | domainName
  | domainCharacter
deriving DecidableEq, Repr

def UrlError.message : UrlError → Text
  | missingScheme => Text.of "relative URL without a base"
  | emptyHost => Text.of "empty host"
  | port => Text.of "invalid port number"
  | ipv4Address => Text.of "invalid IPv4 address"
  | ipv6Address => Text.of "invalid IPv6 address"
  | domainName => Text.of "invalid international domain name"
  | domainCharacter => Text.of "invalid domain character"

end ReleaseTrigger
