import ReleaseTrigger.Url.Authority
import ReleaseTrigger.Url.Path

/-! # Reading URLs

Controls and spaces at both ends of a text are ignored, and so are tabs and line breaks anywhere. What
remains is a scheme, a colon, and the rest. In a network URL the rest is any number of slashes, an
authority, a path, a query after the first question mark and a fragment after the first hash;
backslashes count as slashes.
-/

namespace ReleaseTrigger

namespace Url

/-! ## The text of a URL -/

/-- A character that is ignored at both ends. -/
def isEdgeBlank (c : Char) : Bool := c.toNat ≤ 0x20

/-- A character that is ignored everywhere. -/
def isIgnored (c : Char) : Bool := c == '\t' || c == '\n' || c == '\r'

def clean (text : Text) : Text := (Text.trim isEdgeBlank text).filter (!isIgnored ·)

def isSlash (c : Char) : Bool := c == '/' || c == '\\'

/-- A character that may follow the first letter of a scheme. -/
def isSchemeChar (c : Char) : Bool := c.isAlphanum || c == '+' || c == '-' || c == '.'

/-- The scheme of a text in lower case, and what follows its colon. -/
def splitScheme? (text : Text) : Option (Text × Text) :=
  match Text.cut (· == ':') text with
  | (first :: others, some rest) =>
    if first.isAlpha && others.all isSchemeChar then some (Text.lower (first :: others), rest)
    else none
  | _ => none

/-! ## Parts -/

/-- Path, query and fragment of a text, none of them encoded. -/
def splitTail (text : Text) : Text × Option Text × Option Text :=
  let (beforeFragment, fragment) := Text.cut (· == '#') text
  let (path, query) := Text.cut (· == '?') beforeFragment
  (path, query, fragment)

def encodeQuery (query : Option Text) : Option Text := query.map (Percent.encode Percent.querySet)

def encodeFragment (fragment : Option Text) : Option Text :=
  fragment.map (Percent.encode Percent.fragmentSet)

def endsAuthority (c : Char) : Bool := isSlash c || c == '?' || c == '#'

/-- The network URL of a scheme whose text after the colon and its slashes is given. -/
def ofAuthority (scheme : Scheme) (text : Text) : Except UrlError Url := do
  let authority ← Authority.parse scheme (text.takeWhile (!endsAuthority ·))
  let (path, query, fragment) := splitTail (text.dropWhile (!endsAuthority ·))
  return {
    scheme
    username := authority.username
    password := authority.password
    host := authority.host
    port := authority.port
    path := Path.ofText isSlash path
    query := encodeQuery query
    fragment := encodeFragment fragment }

/-- The network URL of a scheme whose text after the colon is given. -/
def ofRest (scheme : Scheme) (rest : Text) : Except UrlError Url :=
  ofAuthority scheme (rest.dropWhile isSlash)

end Url

namespace ForeignUrl

open Url (splitTail isSlash)

def encodeQuery (query : Option Text) : Option Text :=
  query.map (Percent.encode Percent.plainQuerySet)

/-- The digits at the start of a text as a port, and what follows them. -/
def splitPort (text : Text) : Except UrlError (Option Nat × Text) :=
  match text.dropWhile Char.isDigit with
  | [] => (Authority.parsePort text).map (·, [])
  | c :: rest =>
    if c = '\\' then (Authority.parsePort (text.takeWhile Char.isDigit)).map (·, c :: rest)
    else .error .port

/-- The path of a URL with an authority: what follows, with a slash at the start if anything
follows. -/
def authorityPath (text : Text) : Text :=
  match text with
  | [] => []
  | '/' :: rest => Path.render (Path.extend (· == '/') [] rest)
  | _ => Path.render (Path.extend (· == '/') [] text)

/-- The URL of a scheme whose text after two slashes is given. -/
def ofAuthority (scheme rest : Text) : Except UrlError ForeignUrl := do
  let ends (c : Char) : Bool := c == '/' || c == '?' || c == '#'
  let text := rest.takeWhile (!ends ·)
  let tail := rest.dropWhile (!ends ·)
  let (userInfo, place) := Text.cutLast (· == '@') text
  if userInfo == some [] && place.isEmpty && !tail.isEmpty then throw .emptyHost
  let (username, password) := Authority.parseUserInfo (userInfo.getD [])
  let login := username ++ (match password with | none => [] | some text => ':' :: text)
  let (hostText, portText) := Authority.splitPort false place
  let host ← Host.parseOpaque hostText
  if host.isEmpty && (portText.isSome || !login.isEmpty) then throw .emptyHost
  let (port, extra) ← splitPort (portText.getD [])
  let (path, query, fragment) := splitTail (extra ++ tail)
  return {
    scheme
    authority := some ((if login.isEmpty then [] else login ++ ['@']) ++ host ++
      (match port with | none => [] | some number => ':' :: Text.decimal number))
    path := authorityPath path
    query := encodeQuery query
    fragment := Url.encodeFragment fragment }

/-- The URL of a scheme with neither authority nor host. -/
def ofPath (scheme rest : Text) : ForeignUrl :=
  let (path, query, fragment) := splitTail rest
  { scheme
    authority := none
    path := match path with
      | '/' :: text => Path.render (Path.extend (· == '/') [] text)
      | _ => Percent.encode Percent.controls path
    query := encodeQuery query
    fragment := Url.encodeFragment fragment }

/-- The host of a file; a drive letter and the local host are none. -/
def fileHost (text : Text) : Except UrlError Text := do
  if text.isEmpty then return []
  let host ← Host.parse text
  if host == .domain (Text.of "localhost") then return [] else return host.render

def ofFile (rest : Text) : Except UrlError ForeignUrl := do
  let build (host path : Text) (query fragment : Option Text) : ForeignUrl :=
    { scheme := Text.of "file"
      authority := some host
      path := Path.render (Path.ofText isSlash path)
      query := encodeQuery query
      fragment := Url.encodeFragment fragment }
  match rest with
  | first :: second :: text =>
    if isSlash first && isSlash second then
      let hostText := text.takeWhile (!Url.endsAuthority ·)
      let (path, query, fragment) := splitTail (text.dropWhile (!Url.endsAuthority ·))
      if Path.isDriveLetter hostText then return build [] (hostText ++ path) query fragment
      else return build (← fileHost hostText) path query fragment
    else
      let (path, query, fragment) := splitTail rest
      return build [] path query fragment
  | _ =>
    let (path, query, fragment) := splitTail rest
    return build [] path query fragment

def ofRest (scheme rest : Text) : Except UrlError ForeignUrl :=
  if scheme == Text.of "file" then ofFile rest
  else
    match rest with
    | '/' :: '/' :: text => ofAuthority scheme text
    | _ => .ok (ofPath scheme rest)

end ForeignUrl

def AnyUrl.parse (text : Text) : Except UrlError AnyUrl :=
  match Url.splitScheme? (Url.clean text) with
  | none => .error .missingScheme
  | some (name, rest) =>
    match Scheme.ofName? name with
    | some scheme => (Url.ofRest scheme rest).map .network
    | none => (ForeignUrl.ofRest name rest).map .foreign

end ReleaseTrigger
