import ReleaseTrigger.Form
import ReleaseTrigger.Tag
import ReleaseTrigger.Url.Basic

/-! # Build parameters

A build is started with three parameters, which are appended to the query of the job URL. The image
tag is the one that was asked for, or else the one that the git reference names.
-/

namespace ReleaseTrigger

structure Parameters where
  token : Text
  buildRef : Text
  imageTag : Text
deriving DecidableEq, Repr

/-- A git reference from which no tag can be derived. -/
structure UnresolvableReference where
  reference : Text
deriving DecidableEq, Repr

def UnresolvableReference.message (error : UnresolvableReference) : Text :=
  Text.of "Invalid build reference '" ++ error.reference ++
    Text.of "': no tag can be derived from it"

namespace Parameters

/-- The tag of a reference, or the reference as the reason why there is none. -/
def resolveTag (reference : Text) : Except UnresolvableReference Text :=
  match Tag.ofReference? reference with
  | some tag => .ok tag
  | none => .error ⟨reference⟩

/-- The parameters of a build. A tag that is given is taken as it is. -/
def resolve (token buildRef : Text) : Option Text → Except UnresolvableReference Parameters
  | some imageTag => .ok ⟨token, buildRef, imageTag⟩
  | none => (resolveTag buildRef).map fun tag => ⟨token, buildRef, tag⟩

/-- The parameters with the names under which they are sent, in the order in which they are sent. -/
def pairs (parameters : Parameters) : List Form.Pair :=
  [(Text.of "token", parameters.token), (Text.of "BUILD_REF", parameters.buildRef),
    (Text.of "IMAGE_TAG", parameters.imageTag)]

def get? (parameters : Parameters) (name : Text) : Option Text := parameters.pairs.lookup name

/-- The URL with the parameters at the end of its query. -/
def addTo (parameters : Parameters) (url : Url) : Url :=
  { url with query := some (Form.appendAll (url.query.getD []) parameters.pairs) }

end Parameters

end ReleaseTrigger
