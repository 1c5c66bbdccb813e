import ReleaseTrigger.Unicode.CombiningClass
import ReleaseTrigger.Unicode.Decomposition

/-! # Canonical composition

Normalisation form C in its three steps: every character is decomposed, runs of marks are put into
the order of their classes, and then each mark that is not blocked is composed with the starter
before it. Hangul syllables are decomposed and composed by arithmetic.
-/

namespace ReleaseTrigger.Unicode

/-! ## Decomposition -/

def hangulParts? (code : Nat) : Option (List Nat) :=
  if 0xAC00 ≤ code ∧ code < 0xAC00 + 11172 then
    let index := code - 0xAC00
    let letters := [0x1100 + index / 588, 0x1161 + index % 588 / 28]
    some (if index % 28 = 0 then letters else letters ++ [0x11A7 + index % 28])
  else none

def decomposeTo : Nat → Nat → List Nat
  | 0, code => [code]
  | depth + 1, code =>
    match canonicalDecompositions.find? code with
    | none => [code]
    | some entry => entry.value.parts.flatMap (decomposeTo depth)

/-- The full canonical decomposition of a character; entries nest at most three deep. -/
def decomposition (code : Nat) : List Nat :=
  if code < 0x80 then [code] else (hangulParts? code).getD (decomposeTo 3 code)

/-! ## Order of marks -/

/-- A character put before the marks of greater class at the end of a reversed text. -/
def insertMark (code : Nat) : List Nat → List Nat
  | [] => [code]
  | last :: before =>
    if combiningClass code ≠ 0 ∧ combiningClass code < combiningClass last then
      last :: insertMark code before
    else code :: last :: before

/-- The text with every run of marks in ascending order of class, marks of one class in the order
they came. -/
def orderMarks (codes : List Nat) : List Nat :=
  (codes.foldl (fun reversed code => insertMark code reversed) []).reverse

/-! ## Composition -/

def composeHangul? (first second : Nat) : Option Nat :=
  if 0x1100 ≤ first ∧ first < 0x1113 ∧ 0x1161 ≤ second ∧ second < 0x1176 then
    some (0xAC00 + ((first - 0x1100) * 21 + (second - 0x1161)) * 28)
  else if 0xAC00 ≤ first ∧ first < 0xAC00 + 11172 ∧ (first - 0xAC00) % 28 = 0 ∧
      0x11A7 < second ∧ second < 0x11C3 then
    some (first + (second - 0x11A7))
  else none

def compose? (first second : Nat) : Option Nat :=
  match composeHangul? first second with
  | some syllable => some syllable
  | none =>
    (canonicalDecompositions.toList.find?
      fun entry => entry.value.composes && entry.value.parts == [first, second]).map (·.first)

/-- Composition of the characters after a starter. `passed` holds, last first, the marks that
stayed, and a mark is blocked when the last of them has its class or a greater one. -/
def composeFrom (starter : Nat) (passed : List Nat) : List Nat → List Nat
  | [] => starter :: passed.reverse
  | code :: rest =>
    let blocked := match passed with
      | [] => false
      | last :: _ => combiningClass code ≤ combiningClass last
    match if blocked then none else compose? starter code with
    | some composite => composeFrom composite passed rest
    | none =>
      if combiningClass code = 0 then starter :: passed.reverse ++ composeFrom code [] rest
      else composeFrom starter (code :: passed) rest

/-- Composition of a decomposed and ordered text. Marks before the first starter stay. -/
def composeAll : List Nat → List Nat
  | [] => []
  | code :: rest =>
    if combiningClass code = 0 then composeFrom code [] rest else code :: composeAll rest

/-- The canonical composition of a text. Text of ASCII is its own composition. -/
def composed (text : Text) : Text :=
  if text.all (!Text.isWide ·) then text
  else ((composeAll (orderMarks ((text.map Char.toNat).flatMap decomposition))).map Char.ofNat)

end ReleaseTrigger.Unicode
