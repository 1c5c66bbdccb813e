import ReleaseTrigger.Text.Basic

/-! # Image tags

The tag of a build is the last segment of its git reference. The main branch is published under the
tag `latest`. A reference that ends in a slash, or is empty, names no tag.
-/

namespace ReleaseTrigger.Tag

def mainBranch : Text := Text.of "master"

/-- The tag of the main branch. -/
def latest : Text := Text.of "latest"

/-- What follows the last slash of a reference. -/
def lastSegment (reference : Text) : Text := (Text.cutLast (· == '/') reference).2

/-- The tag that a git reference names. -/
def ofReference? (reference : Text) : Option Text :=
  let segment := lastSegment reference
  if segment.isEmpty then none
  else if segment = mainBranch then some latest
  else some segment

end ReleaseTrigger.Tag
