import ReleaseTrigger.Percent

/-! # Paths

The segments of a path are read from left to right onto a stack. A single-dot segment adds nothing, a
double-dot segment takes the last segment away, and either of them at the end leaves an empty
segment, so that the path still ends in a slash. A drive letter is never taken away.
-/

namespace ReleaseTrigger.Path

/-! ## Dot segments -/

/-- The ways to write one dot. -/
def dots : List Text := [Text.of ".", Text.of "%2e"]

/-- A segment that names where it stands. -/
def isSingleDot (segment : Text) : Bool := dots.contains (Text.lower segment)

def isDoubleDot (segment : Text) : Bool :=
  dots.any fun first => dots.any fun second => Text.lower segment == first ++ second

/-- A letter and a colon or a bar. -/
def isDriveLetter : Text → Bool
  | [letter, mark] => letter.isAlpha && (mark == ':' || mark == '|')
  | _ => false

/-! ## The stack -/

/-- The stack, last segment first, without its last segment. -/
def pop : List Text → List Text
  | [] => []
  | last :: before => if isDriveLetter last then last :: before else before

/-- The stack after the segments of a text that stand on it. -/
def push (stack : List Text) : List Text → List Text
  | [] => stack
  | [last] =>
    if isDoubleDot last then [] :: pop stack
    else if isSingleDot last then [] :: stack
    else Percent.encode Percent.pathSet last :: stack
  | segment :: others =>
    if isDoubleDot segment then push (pop stack) others
    else if isSingleDot segment then push stack others
    else push (Percent.encode Percent.pathSet segment :: stack) others

/-- The segments that a text adds to those of a base. -/
def extend (isSlash : Char → Bool) (base : List Text) (text : Text) : List Text :=
  (push base.reverse (List.splitOnP isSlash text)).reverse

/-- The segments of a text that starts at the root; the first slash may be missing. -/
def ofText (isSlash : Char → Bool) (text : Text) : List Text :=
  match text with
  | [] => extend isSlash [] []
  | first :: rest => extend isSlash [] (if isSlash first then rest else first :: rest)

def render (segments : List Text) : Text := segments.flatMap ('/' :: ·)

/-- A stack that a text was pushed on is not empty. -/
theorem push_ne_nil (stack : List Text) {segments : List Text} (some : segments ≠ []) :
    push stack segments ≠ [] := by
  fun_induction push stack segments <;> simp_all

end ReleaseTrigger.Path
