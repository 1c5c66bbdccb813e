import ReleaseTrigger.Url.Basic

/-! # Addresses of version 4

A host whose last label is a number is an address. Each of its up to four numbers is decimal,
octal after a leading zero or hexadecimal after `0x`; all but the last are octets, and the last
fills the octets that remain.
-/

namespace ReleaseTrigger.Ipv4

/-! ## Reading -/

/-- The number that a part of an address denotes; a base mark without digits denotes zero. -/
def number? (part : Text) : Option Nat :=
  match part with
  | [] => none
  | ['0'] => some 0
  | '0' :: 'x' :: digits | '0' :: 'X' :: digits =>
    if digits.isEmpty then some 0 else Text.number? 16 digits
  | '0' :: digits => Text.number? 8 digits
  | digits => Text.number? 10 digits

/-- The parts of a dotted text; an empty one at the end is dropped. -/
def parts (text : Text) : List Text :=
  match (List.splitOn '.' text).reverse with
  | [] :: before@(_ :: _) => before.reverse
  | reversed => reversed.reverse

/-- Whether the last part of a host is all digits or a number, which makes the host an address. -/
def endsInNumber (host : Text) : Bool :=
  match (parts host).getLast? with
  | none => false
  | some part => (!part.isEmpty && part.all Char.isDigit) || (number? part).isSome

def ofNumbers? (numbers : List Nat) : Option Ipv4 :=
  match numbers.reverse with
  | [] => none
  | last :: before =>
    let room := Nat.pow 256 (5 - numbers.length)
    if numbers.length ≤ 4 ∧ before.all (· < 256) ∧ last < room then
      some (BitVec.ofNat 32 (Text.valueOf 256 before.reverse * room + last))
    else none

def parse? (host : Text) : Option Ipv4 :=
  ((parts host).mapM number?).bind ofNumbers?

/-! ## Writing -/

def octets (address : Ipv4) : List Nat :=
  [address.toNat / 0x1000000 % 256, address.toNat / 0x10000 % 256, address.toNat / 0x100 % 256,
    address.toNat % 256]

/-- The dotted decimal form of an address. -/
def render (address : Ipv4) : Text :=
  List.intercalate ['.'] ((octets address).map Text.decimal)

end ReleaseTrigger.Ipv4
