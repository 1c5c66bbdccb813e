import ReleaseTrigger.Url.Parser

/-! # References

A reference is read against a network URL. It is a URL of its own if it starts with a scheme, unless
that is the scheme of the base with fewer than two slashes after it. Otherwise it keeps of the base
whatever comes before its first own component.
-/

namespace ReleaseTrigger.Url

def resolveRelative (base : Url) (text : Text) : Except UrlError Url :=
  let (path, query, fragment) := splitTail text
  match path with
  | [] =>
    .ok { base with
      query := if query.isSome then encodeQuery query else base.query
      fragment := encodeFragment fragment }
  | first :: rest =>
    if isSlash first then
      if (rest.head?.map isSlash).getD false then ofRest base.scheme text
      else
        .ok { base with
          path := Path.extend isSlash [] rest
          query := encodeQuery query
          fragment := encodeFragment fragment }
    else
      .ok { base with
        path := Path.extend isSlash base.path.dropLast path
        query := encodeQuery query
        fragment := encodeFragment fragment }

/-- The URL that a reference denotes. -/
def resolve (base : Url) (reference : Text) : Except UrlError AnyUrl :=
  let text := clean reference
  match splitScheme? text with
  | none => (resolveRelative base text).map .network
  | some (name, rest) =>
    if name == base.scheme.name && (rest.takeWhile isSlash).length < 2 then
      (resolveRelative base rest).map .network
    else
      match Scheme.ofName? name with
      | some scheme => (ofRest scheme rest).map .network
      | none => (ForeignUrl.ofRest name rest).map .foreign

end ReleaseTrigger.Url
