import ReleaseTrigger.Base64
import ReleaseTrigger.Http.Reply
import ReleaseTrigger.Percent
import ReleaseTrigger.Url.Printer

/-! # Requests

A request asks for the path and the query of a URL. User info of the first URL becomes an
authorization header until a redirect leads to another host or port, and every request after a redirect
names the URL before it.
-/

namespace ReleaseTrigger.Http

def userAgent : Text := Text.of "jenkins-trigger/0.1.0"

/-! ## Credentials -/

/-- A user name and a password, both decoded. -/
structure Credentials where
  username : Text
  /-- The password, empty when there is none. -/
  password : Text
deriving DecidableEq, Repr

/-- The credentials in the user info of a URL. A password that is no UTF-8 counts as none, and a user
name that is no UTF-8 makes the user info useless. -/
def Credentials.ofUrl? (url : Url) : Option Credentials :=
  match Utf8.decode? (Percent.decode url.username) with
  | none => none
  | some username =>
    let password := url.password.bind fun text => Utf8.decode? (Percent.decode text)
    if username.isEmpty && password.isNone then none else some ⟨username, password.getD []⟩

def Credentials.authorization (credentials : Credentials) : Text :=
  Text.of "Basic " ++
    Base64.encode (Utf8.encode (credentials.username ++ ':' :: credentials.password))

/-- The credentials that stay when a redirect leads from one URL to another: they are not sent to another
host or port. -/
def carried (credentials : Option Credentials) (url next : Url) : Option Credentials :=
  if Place.of next = Place.of url then credentials else none

/-- The URL that is asked for: credentials that are sent as a header are taken out of it. -/
def withoutCredentials (url : Url) : Url :=
  if (Credentials.ofUrl? url).isSome then url.withoutUserInfo else url

/-! ## Headers -/

/-- The URL before a redirect as the next request names it; a secure one is not named to an insecure
one. -/
def referer? (previous : Option Url) (url : Url) : Option Text :=
  match previous with
  | none => none
  | some before =>
    if before.scheme = .https ∧ url.scheme = .http then none
    else some before.withoutUserInfo.withoutFragment.render

def requestTarget (url : Url) : Text := url.renderPath ++ Url.marked '?' url.query

/-! ## Requests -/

structure Request where
  url : Url
  /-- The URL before the redirect that led here. -/
  previous : Option Url
  credentials : Option Credentials
deriving DecidableEq, Repr

namespace Request

def line (request : Request) : Text :=
  Text.of "GET " ++ requestTarget request.url ++ Text.of " HTTP/1.1"

/-- The headers, in the order of their names. -/
def headers (request : Request) : List Header :=
  [(Text.of "accept", Text.of "*/*")] ++
    (request.credentials.toList.map fun known => (Text.of "authorization", known.authorization)) ++
    [(Text.of "host", request.url.renderPlace)] ++
    ((referer? request.previous request.url).toList.map fun text => (Text.of "referer", text)) ++
    [(Text.of "user-agent", userAgent)]

def render (request : Request) : Text :=
  request.line ++ lineBreak ++ request.headers.flatMap renderHeader ++ lineBreak

end Request

end ReleaseTrigger.Http
