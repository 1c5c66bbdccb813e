import ReleaseTrigger.Url.Reference
import ReleaseTrigger.Url.Printer

/-! # Request targets

Not every URL can be asked for. A target is either an authority alone, or a scheme, two slashes, an
authority, and a path and a query of permitted characters, and it is not too long. The redirect of an
answer is followed only if its location, read against the current URL, is a target.
-/

namespace ReleaseTrigger.Http

def maxTargetLength : Nat := 65534

/-! ## Authorities -/

/-- A character that may stand in an authority, apart from those that have a part in its form. -/
def isAuthorityChar (c : Char) : Bool :=
  c.isAlphanum || (Text.of "!$&'()*+,-.;=_~").contains c

/-- The most colons between two marks. -/
def maxColons : Nat := 8

/-- What has been seen of an authority. -/
structure AuthorityScan where
  /-- The colons since the last at sign or closing bracket. -/
  colons : Nat
  isOpened : Bool
  isClosed : Bool
  /-- Whether there was an escape since the last at sign or closing bracket. -/
  isEscaped : Bool
  endsInUserInfo : Bool
deriving DecidableEq, Repr

namespace AuthorityScan

def start : AuthorityScan := ⟨0, false, false, false, false⟩

def step? (scan : AuthorityScan) (c : Char) : Option AuthorityScan :=
  let seen := { scan with endsInUserInfo := false }
  if c = ':' then
    if maxColons ≤ scan.colons then none else some { seen with colons := scan.colons + 1 }
  else if c = '[' then
    if scan.isEscaped || scan.isOpened then none else some { seen with isOpened := true }
  else if c = ']' then
    if !scan.isOpened || scan.isClosed then none
    else some { seen with isClosed := true, colons := 0, isEscaped := false }
  else if c = '@' then some { seen with colons := 0, isEscaped := false, endsInUserInfo := true }
  else if c = '%' then some { seen with isEscaped := true }
  else if isAuthorityChar c then some seen
  else none

/-- Whether an authority may end here: brackets match, at most one colon stands before a port, and
the host is there and free of escapes. -/
def mayEnd (scan : AuthorityScan) : Bool :=
  scan.isOpened == scan.isClosed && scan.colons ≤ 1 && !scan.isEscaped && !scan.endsInUserInfo

end AuthorityScan

def isAuthority (text : Text) : Bool :=
  !text.isEmpty && ((text.foldlM AuthorityScan.step? AuthorityScan.start).any (·.mayEnd))

/-! ## Targets -/

def isPathChar (c : Char) : Bool :=
  !Text.isControl c && !(Text.of " #<>?`").contains c

def isQueryChar (c : Char) : Bool :=
  !Text.isControl c && !(Text.of " \"#<>").contains c

/-- A path and a query that may stand in a target, the fragment left out. -/
def isPathAndQuery (text : Text) : Bool :=
  let (path, query) := Text.cut (· == '?') text
  path.all isPathChar && (query.getD []).all isQueryChar

def maxSchemeLength : Nat := 64

/-- The authority and what follows it, if a text starts with a scheme and two slashes. -/
def afterScheme? (text : Text) : Option Text :=
  match Text.cut (· == ':') text with
  | (scheme, some ('/' :: '/' :: rest)) =>
    if scheme.all Url.isSchemeChar && scheme.length ≤ maxSchemeLength then some rest else none
  | _ => none

/-- A character that ends the authority of a target. -/
def endsPlace (c : Char) : Bool := c == '/' || c == '?' || c == '#'

def isTarget (text : Text) : Bool :=
  decide (text.length ≤ maxTargetLength) &&
    (match afterScheme? text with
      | some rest =>
        isAuthority (rest.takeWhile (!endsPlace ·)) &&
          isPathAndQuery ((Text.cut (· == '#') (rest.dropWhile (!endsPlace ·))).1)
      | none => isAuthority text)

/-- The target that a location denotes, read against the URL it came from. -/
def followed? (base : Url) (location : Text) : Option AnyUrl :=
  match Url.resolve base.withoutFragment location with
  | .error _ => none
  | .ok url => if isTarget url.render then some url.withoutFragment else none

/-- The text of a URL in messages about redirects: a foreign URL with an authority has a path. -/
def targetText : AnyUrl → Text
  | .network url => url.withoutFragment.render
  | .foreign url =>
    if url.authority.isSome && url.path.isEmpty then
      ({ url with path := ['/'], fragment := none } : ForeignUrl).render
    else url.withoutFragment.render

end ReleaseTrigger.Http
