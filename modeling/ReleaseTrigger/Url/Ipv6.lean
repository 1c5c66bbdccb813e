import ReleaseTrigger.Url.Basic

/-! # Addresses of version 6

An address is eight pieces of up to four hexadecimal digits between colons. Once, two colons may
stand for one or more zero pieces, and the last two pieces may be written as four decimal octets.
The written form is in lower case without leading zeros, and the first of the longest runs of at
least two zero pieces is left out.
-/

namespace ReleaseTrigger.Ipv6

/-! ## Reading -/

/-- The piece that one to four hexadecimal digits denote. -/
def piece? (digits : Text) : Option (BitVec 16) :=
  if digits.length ≤ 4 then (Text.number? 16 digits).map (BitVec.ofNat 16) else none

/-- The value of a decimal octet without leading zeros. -/
def octet? (digits : Text) : Option Nat :=
  match digits with
  | '0' :: _ :: _ => none
  | _ =>
    if digits.length ≤ 3 then (Text.number? 10 digits).filter (· < 256) else none

/-- The two pieces that four decimal octets denote. -/
def tail? (text : Text) : Option (List (BitVec 16)) :=
  match (List.splitOn '.' text).mapM octet? with
  | some [a, b, c, d] => some [BitVec.ofNat 16 (a * 256 + b), BitVec.ofNat 16 (c * 256 + d)]
  | _ => none

/-- The pieces between colons; only the last may be four decimal octets. -/
def run? : List Text → Option (List (BitVec 16))
  | [] => some []
  | [last] =>
    if last.contains '.' then tail? last else (piece? last).map ([·])
  | first :: others => do some ((← piece? first) :: (← run? others))

/-- The pieces of a text between colons; an empty text has none. -/
def side? (text : Text) : Option (List (BitVec 16)) :=
  if text.isEmpty then some [] else run? (List.splitOn ':' text)

/-- What stands before and after the first two colons in a row. -/
def cutAtGap : Text → Option (Text × Text)
  | ':' :: ':' :: rest => some ([], rest)
  | c :: rest => (cutAtGap rest).map fun (before, after) => (c :: before, after)
  | [] => none

def ofPieces? (pieces : List (BitVec 16)) : Option Ipv6 :=
  if length : pieces.length = 8 then some ⟨pieces, length⟩ else none

/-- The address that the text between brackets denotes. -/
def parse? (text : Text) : Option Ipv6 :=
  match cutAtGap text with
  | none => (run? (List.splitOn ':' text)).bind ofPieces?
  | some (before, after) => do
    let left ← if before.contains '.' then none else side? before
    let right ← side? after
    if left.length + right.length < 8 then
      ofPieces? (left ++ List.replicate (8 - left.length - right.length) 0 ++ right)
    else none

/-! ## Writing -/

/-- The length of the run of zero pieces at the start. -/
def zeros (pieces : List (BitVec 16)) : Nat := (pieces.takeWhile (· == 0)).length

/-- The start and length of the first of the longest runs of zero pieces, counting positions from
`start`. -/
def longestRun (start : Nat) : List (BitVec 16) → Nat × Nat
  | [] => (start, 0)
  | piece :: rest =>
    let later := longestRun (start + 1) rest
    let here := zeros (piece :: rest)
    if later.2 ≤ here then (start, here) else later

def joined (pieces : List (BitVec 16)) : Text :=
  List.intercalate [':'] (pieces.map fun piece => Text.hexadecimal piece.toNat)

def render (address : Ipv6) : Text :=
  let (start, length) := longestRun 0 address.pieces
  if length < 2 then joined address.pieces
  else
    joined (address.pieces.take start) ++ [':', ':'] ++
      joined (address.pieces.drop (start + length))

end ReleaseTrigger.Ipv6
