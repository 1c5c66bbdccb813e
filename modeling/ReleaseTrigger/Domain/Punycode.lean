import ReleaseTrigger.Text.Basic

/-! # Punycode

A label with characters outside ASCII is written in ASCII as its ASCII characters, a hyphen, and
the other characters in ascending order, each as the distance from the insertion before it. A
distance is a numeral in base 36 whose digits, least significant first, have thresholds that follow
a running bias; the first digit below its threshold is the last one.
-/

namespace ReleaseTrigger.Domain.Punycode

/-! ## Digits and bias -/

/-- The character of a digit below 36: letters, then decimal digits. -/
def digitChar (digit : Nat) : Char :=
  if digit < 26 then Char.ofNat (0x61 + digit) else Char.ofNat (0x30 + digit - 26)

def digit? (c : Char) : Option Nat :=
  if c.isLower then some (c.toNat - 0x61)
  else if c.isUpper then some (c.toNat - 0x41)
  else if c.isDigit then some (c.toNat - 0x30 + 26)
  else none

/-- The threshold of the digit at a position, counted in steps of 36. -/
def threshold (position bias : Nat) : Nat :=
  if position ≤ bias then 1 else if bias + 26 ≤ position then 26 else position - bias

theorem threshold_bounds (position bias : Nat) :
    1 ≤ threshold position bias ∧ threshold position bias ≤ 26 := by
  unfold threshold
  split
  · omega
  · split <;> omega

def biasOf (distance bias : Nat) : Nat :=
  if 455 < distance then biasOf (distance / 35) (bias + 36)
  else bias + 36 * distance / (distance + 38)
termination_by distance
decreasing_by exact Nat.div_lt_self (by omega) (by omega)

/-- The bias after an insertion: the distance is damped, more so the first time, and scaled by the
number of characters now present. -/
def adapt (distance present : Nat) (isFirst : Bool) : Nat :=
  let damped := if isFirst then distance / 700 else distance / 2
  biasOf (damped + damped / present) 0

/-! ## Encoding -/

/-- The digits of a distance from a position on. -/
def encodeDistance (bias position distance : Nat) : Text :=
  let bound := threshold position bias
  if distance < bound then [digitChar distance]
  else
    digitChar (bound + (distance - bound) % (36 - bound)) ::
      encodeDistance bias (position + 36) ((distance - bound) / (36 - bound))
termination_by distance
decreasing_by
  have bounds := threshold_bounds position bias
  have := Nat.div_le_self (distance - threshold position bias) (36 - threshold position bias)
  omega

/-- What encoding carries from one insertion to the next. -/
structure Encoding where
  output : Text
  /-- The distance since the last insertion. -/
  distance : Nat
  bias : Nat
  written : Nat

/-- One character of the label while the character `code` is being inserted. -/
def Encoding.visit (asciiCount code : Nat) (state : Encoding) (c : Char) : Encoding :=
  if c.toNat < code then { state with distance := state.distance + 1 }
  else if c.toNat = code then
    { output := state.output ++ encodeDistance state.bias 36 state.distance
      distance := 0
      bias := adapt state.distance (state.written + 1) (state.written == asciiCount)
      written := state.written + 1 }
  else state

/-- The insertion of the characters `codes`, in ascending order, when all below `next` are done. -/
def Encoding.insertAll (label : Text) (asciiCount : Nat) :
    List Nat → Nat → Encoding → Encoding
  | [], _, state => state
  | code :: codes, next, state =>
    let start := { state with
      distance := state.distance + (code - next) * (state.written + 1) }
    let visited := label.foldl (Encoding.visit asciiCount code) start
    insertAll label asciiCount codes (code + 1)
      { visited with distance := visited.distance + 1 }

def encode (label : Text) : Text :=
  let ascii := label.filter (!Text.isWide ·)
  let codes := (((label.filter Text.isWide).map Char.toNat).mergeSort (· ≤ ·)).eraseDups
  let inserted := Encoding.insertAll label ascii.length codes 0x80 ⟨[], 0, 72, ascii.length⟩
  (if ascii.isEmpty then [] else ascii ++ ['-']) ++ inserted.output

/-! ## Decoding -/

/-- Distances and weights stay below this bound. -/
def overflow : Nat := 0x100000000

/-- The distance that digits from a position on denote, added to `total`, with the digits after
it. -/
def decodeDistance? (bias : Nat) : Text → Nat → Nat → Nat → Option (Nat × Text)
  | [], _, _, _ => none
  | c :: rest, position, weight, total =>
    match digit? c with
    | none => none
    | some digit =>
      let sum := total + digit * weight
      let bound := threshold position bias
      if overflow ≤ sum then none
      else if digit < bound then some (sum, rest)
      else if overflow ≤ weight * (36 - bound) then none
      else decodeDistance? bias rest (position + 36) (weight * (36 - bound)) sum

/-- Reading a distance uses at least one digit. -/
theorem decodeDistance?_shorter {bias : Nat} {digits : Text} {position weight total : Nat}
    {result : Nat × Text} (read : decodeDistance? bias digits position weight total = some result) :
    result.2.length < digits.length := by
  induction digits generalizing position weight total with
  | nil => simp [decodeDistance?] at read
  | cons c rest ih =>
    simp only [decodeDistance?] at read
    split at read
    · simp at read
    · split at read
      · simp at read
      · split at read
        · cases read
          simp
        · split at read
          · simp at read
          · exact Nat.lt_succ_of_lt (ih read)

/-- The insertion of the characters that the rest of an encoding describes. `code` is the least
character that may come next and `index` where it would stand. -/
def insertions? (bias code index : Nat) (label : Text) (digits : Text) : Option Text :=
  match digits with
  | [] => some label
  | c :: rest =>
    match _read : decodeDistance? bias (c :: rest) 36 1 index with
    | none => none
    | some (total, others) =>
      let present := label.length + 1
      let next := code + total / present
      if next.isValidChar then
        insertions? (adapt (total - index) present (index == 0)) next (total % present + 1)
          (label.insertIdx (total % present) (Char.ofNat next)) others
      else none
termination_by digits.length
decreasing_by
  have := decodeDistance?_shorter _read
  simp_all

/-- The label of an encoding. A hyphen at the very start divides nothing. -/
def decode? (encoding : Text) : Option Text :=
  match Text.cutLast (· == '-') encoding with
  | (some (first :: ascii), digits) => insertions? 72 0x80 0 (first :: ascii) digits
  | _ => insertions? 72 0x80 0 [] encoding

end ReleaseTrigger.Domain.Punycode
