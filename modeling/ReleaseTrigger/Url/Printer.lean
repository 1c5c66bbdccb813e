import ReleaseTrigger.Url.Authority
import ReleaseTrigger.Url.Path

/-! # Writing URLs

Components are kept in the form in which they are written, so a URL is written by putting them one
after the other with the marks that divide them.
-/

namespace ReleaseTrigger

namespace Url

/-- A component after its mark, nothing if there is none. -/
def marked (mark : Char) : Option Text → Text
  | none => []
  | some text => mark :: text

/-- User info with its at sign, nothing if there is neither user name nor password. -/
def renderUserInfo (url : Url) : Text :=
  if url.username.isEmpty && url.password.isNone then []
  else url.username ++ marked ':' url.password ++ ['@']

def renderPlace (url : Url) : Text :=
  url.host.render ++ marked ':' (url.port.map Text.decimal)

def renderPath (url : Url) : Text := Path.render url.path

def render (url : Url) : Text :=
  url.scheme.name ++ Text.of "://" ++ url.renderUserInfo ++ url.renderPlace ++ url.renderPath ++
    marked '?' url.query ++ marked '#' url.fragment

def withoutFragment (url : Url) : Url := { url with fragment := none }

def withoutUserInfo (url : Url) : Url := { url with username := [], password := none }

end Url

namespace ForeignUrl

def render (url : ForeignUrl) : Text :=
  let place := match url.authority with
    | some authority => Text.of "//" ++ authority
    | none => if (Text.of "//").isPrefixOf url.path then Text.of "/." else []
  url.scheme ++ ':' :: place ++ url.path ++ Url.marked '?' url.query ++
    Url.marked '#' url.fragment

def withoutFragment (url : ForeignUrl) : ForeignUrl := { url with fragment := none }

end ForeignUrl

def AnyUrl.render : AnyUrl → Text
  | .network url => url.render
  | .foreign url => url.render

def AnyUrl.withoutFragment : AnyUrl → AnyUrl
  | .network url => .network url.withoutFragment
  | .foreign url => .foreign url.withoutFragment

end ReleaseTrigger
