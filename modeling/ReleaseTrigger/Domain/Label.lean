import ReleaseTrigger.Domain.Punycode
import ReleaseTrigger.Unicode.Bidi
import ReleaseTrigger.Unicode.Categories
import ReleaseTrigger.Unicode.DomainMapping
import ReleaseTrigger.Unicode.Joining
import ReleaseTrigger.Unicode.Normalization

/-! # Labels of international domain names

A domain name is mapped character by character, normalised and divided at dots into labels. A label
is readable if it is ASCII, or if it consists of valid characters in normal form, does not begin
with a mark, and puts joiners only where a script needs them; a label that starts with `xn--` must
encode such a label. If some label has characters that run from right to left, every label must
keep its direction.
-/

namespace ReleaseTrigger.Domain

open ReleaseTrigger.Unicode

/-! ## Mapping -/

/-- What a character of a domain name is replaced by; `none` if it may not occur. -/
def mapChar? (c : Char) : Option Text :=
  if !Text.isWide c then some [c.toLower]
  else if domainIgnored.contains c.toNat then some []
  else
    match domainReplaced.get? c.toNat with
    | some codes => some (codes.map Char.ofNat)
    | none => if domainAllowed.contains c.toNat then some [c] else none

def map? (name : Text) : Option Text := (name.mapM mapChar?).map List.flatten

/-- A character that the mapping leaves as it is. -/
def isValid (c : Char) : Bool := mapChar? c == some [c]

/-! ## Joiners -/

/-- Whether the characters before a joiner, last first, end in one that joins to the left or on both
sides, up to transparent ones. -/
def joinsBefore (reversed : Text) : Bool :=
  match reversed.dropWhile (joiningTransparent.contains ·.toNat) with
  | [] => false
  | c :: _ => joiningLeft.contains c.toNat || joiningDual.contains c.toNat

/-- Whether the characters after a joiner begin with one that joins to the right or on both sides,
up to transparent ones. -/
def joinsAfter (text : Text) : Bool :=
  match text.dropWhile (joiningTransparent.contains ·.toNat) with
  | [] => false
  | c :: _ => joiningRight.contains c.toNat || joiningDual.contains c.toNat

def isVirama (c : Char) : Bool := combiningClass c.toNat == viramaClass

/-- Whether every joiner stands after a virama, or, if it is a non-joiner, between characters that
would join without it. `reversed` holds what has been read, last first. -/
def joinersAllowed (reversed : Text) : Text → Bool
  | [] => true
  | c :: rest =>
    let afterVirama := match reversed with
      | [] => false
      | last :: _ => isVirama last
    let allowed :=
      if c.toNat = 0x200D then afterVirama
      else if c.toNat = 0x200C then afterVirama || (joinsBefore reversed && joinsAfter rest)
      else true
    allowed && joinersAllowed (c :: reversed) rest

/-! ## Direction -/

/-- The classes of characters that the rules of direction tell apart. -/
inductive Direction where
  | left
  | right
  | arabicLetter
  | arabicNumber
  | europeanNumber
  | europeanSeparator
  | europeanTerminator
  | commonSeparator
  | otherNeutral
  | boundaryNeutral
  | mark
deriving DecidableEq, Repr

def Direction.of (c : Char) : Direction :=
  let code := c.toNat
  if code < 0x80 then
    if c.isAlpha then .left
    else if c.isDigit then .europeanNumber
    else if c == '+' || c == '-' then .europeanSeparator
    else if c == ',' || c == '.' || c == '/' || c == ':' then .commonSeparator
    else if c == '#' || c == '$' || c == '%' then .europeanTerminator
    else .otherNeutral
  else if rightToLeft.contains code then .right
  else if arabicLetters.contains code then .arabicLetter
  else if arabicNumbers.contains code then .arabicNumber
  else if europeanNumbers.contains code then .europeanNumber
  else if europeanSeparators.contains code then .europeanSeparator
  else if europeanTerminators.contains code then .europeanTerminator
  else if commonSeparators.contains code then .commonSeparator
  else if otherNeutrals.contains code then .otherNeutral
  else if boundaryNeutrals.contains code then .boundaryNeutral
  else if nonspacingMarks.contains code then .mark
  else .left

/-- A class whose presence makes the name one in which direction matters. -/
def Direction.isRightward (direction : Direction) : Bool :=
  direction == .right || direction == .arabicLetter || direction == .arabicNumber

/-- A class that may stand in a label of either direction. -/
def Direction.isNeutral : Direction → Bool
  | .europeanNumber | .europeanSeparator | .europeanTerminator | .commonSeparator
  | .otherNeutral | .boundaryNeutral | .mark => true
  | _ => false

/-- The rules of direction for one label: the first character fixes the direction, the label holds
only classes of that direction, ends in one of its letters or numbers apart from marks, and does not
mix Arabic and European numbers when it runs from right to left. -/
def keepsDirection (label : Text) : Bool :=
  let classes := label.map Direction.of
  let last := (classes.reverse.dropWhile (· == .mark)).head?
  match classes.head? with
  | none => true
  | some .left =>
    classes.all (fun direction => direction == .left || direction.isNeutral) &&
      (last == some .left || last == some .europeanNumber)
  | some .right | some .arabicLetter =>
    classes.all (fun direction => direction.isRightward || direction.isNeutral) &&
      (last == some .right || last == some .arabicLetter || last == some .europeanNumber ||
        last == some .arabicNumber) &&
      !(classes.contains .europeanNumber && classes.contains .arabicNumber)
  | some _ => false

/-! ## Labels -/

/-- Whether a label with characters outside ASCII is acceptable as it stands. -/
def isReadable (label : Text) : Bool :=
  label.all isValid && composed label == label &&
    (match label with
      | [] => true
      | first :: _ => !marks.contains first.toNat) &&
    joinersAllowed [] label

/-- What a label that stands for characters outside ASCII begins with. -/
def encodedMark : Text := Text.of "xn--"

/-- The most octets an encoded label may have after its mark. -/
def maxEncodedLength : Nat := 2000

/-- The most characters a label may have to be encoded. -/
def maxLabelLength : Nat := 1000

/-- The label that is read, given a mapped and normalised one. -/
def read? (label : Text) : Option Text :=
  match Text.after? encodedMark label with
  | some encoding =>
    if encoding.any Text.isWide || encoding.getLast? == some '-' ||
        maxEncodedLength < encoding.length then none
    else
      match Punycode.decode? encoding with
      | none => none
      | some decoded => if decoded.any Text.isWide && isReadable decoded then some decoded else none
  | none => if label.all (!Text.isWide ·) || isReadable label then some label else none

/-- The ASCII form of a label that can be read. -/
def write? (label : Text) : Option Text :=
  if label.all (!Text.isWide ·) then some label
  else if maxLabelLength < label.length then none
  else some (encodedMark ++ Punycode.encode label)

/-! ## Names -/

/-- ASCII characters that no domain name may hold. -/
def isForbidden (c : Char) : Bool :=
  Text.isControl c || (Text.of " #/:<>?@[\\]^|%").contains c

def toAscii? (name : Text) : Option Text := do
  let mapped ← map? name
  let labels := List.splitOn '.' (composed mapped)
  let readings ← labels.mapM read?
  let turns := readings.any (·.any (Direction.of · |>.isRightward))
  let written ← labels.mapM write?
  let ascii := List.intercalate ['.'] written
  if turns && !readings.all keepsDirection then none
  else if ascii.any isForbidden then none
  else some ascii

end ReleaseTrigger.Domain
