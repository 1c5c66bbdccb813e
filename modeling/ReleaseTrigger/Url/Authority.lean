import ReleaseTrigger.Url.Host

/-! # Authorities

The authority of a network URL is user info before the last at sign, a host, and a port after the
first colon that is not inside square brackets.
-/

namespace ReleaseTrigger

structure Authority where
  username : Text
  password : Option Text
  host : Host
  /-- The port, unless it is the default one. -/
  port : Option Nat
deriving DecidableEq, Repr

namespace Authority

/-- Host and port text, divided by the first colon outside square brackets. -/
def splitPort (inside : Bool) : Text → Text × Option Text
  | [] => ([], none)
  | c :: rest =>
    if c = ':' ∧ inside = false then ([], some rest)
    else
      let (host, port) := splitPort (if c = '[' then true else if c = ']' then false else inside) rest
      (c :: host, port)

/-- The port that digits denote; no digits denote none. -/
def parsePort (digits : Text) : Except UrlError (Option Nat) :=
  if digits.all Char.isDigit then
    if digits.isEmpty then .ok none
    else
      match Text.number? 10 digits with
      | none => .error .port
      | some number => if number ≤ 65535 then .ok (some number) else .error .port
  else .error .port

/-- User name and password of a user info, encoded; an empty password counts as none. -/
def parseUserInfo (userInfo : Text) : Text × Option Text :=
  let (username, password) := Text.cut (· == ':') userInfo
  (Percent.encode Percent.userInfoSet username,
    match password with
    | none => none
    | some [] => none
    | some text => some (Percent.encode Percent.userInfoSet text))

/-- The port that is written down for a scheme: none if it is the default one. -/
def shownPort (scheme : Scheme) (port : Option Nat) : Option Nat :=
  port.filter (· ≠ scheme.defaultPort)

def parse (scheme : Scheme) (text : Text) : Except UrlError Authority := do
  let (userInfo, place) := Text.cutLast (· == '@') text
  let (username, password) := parseUserInfo (userInfo.getD [])
  let (hostText, portText) := splitPort false place
  let host ← Host.parse hostText
  let port ← parsePort (portText.getD [])
  return ⟨username, password, host, shownPort scheme port⟩

end Authority

end ReleaseTrigger
