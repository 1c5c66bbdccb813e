import ReleaseTrigger.Text.Basic

/-! # UTF-8

Text is encoded character by character. Octets are read by a machine that takes one octet at a
time and knows how many more a character still needs and which range the next one must fall
in. What the machine reports is a list of units: a character, or one maximal run of octets that
starts a character without completing it. Strict decoding refuses the second kind, lenient
decoding replaces each by U+FFFD.
-/

namespace ReleaseTrigger.Utf8

/-! ## Encoding -/

def encodeChar (c : Char) : Octets :=
  let code := c.toNat
  if code < 0x80 then [code.toUInt8]
  else if code < 0x800 then
    [(0xC0 + code / 0x40).toUInt8, (0x80 + code % 0x40).toUInt8]
  else if code < 0x10000 then
    [(0xE0 + code / 0x1000).toUInt8, (0x80 + code / 0x40 % 0x40).toUInt8,
      (0x80 + code % 0x40).toUInt8]
  else
    [(0xF0 + code / 0x40000).toUInt8, (0x80 + code / 0x1000 % 0x40).toUInt8,
      (0x80 + code / 0x40 % 0x40).toUInt8, (0x80 + code % 0x40).toUInt8]

def encode (text : Text) : Octets := text.flatMap encodeChar

def length (text : Text) : Nat := (encode text).length

/-! ## Decoding -/

/-- A character of which only the first octets have been read. -/
structure Pending where
  bits : Nat
  /-- How many octets are owed after the next one. -/
  owed : Nat
  low : Nat
  high : Nat
deriving DecidableEq, Repr

/-- The machine stands between characters or inside one. -/
abbrev State := Option Pending

/-- A character, or `none` for a malformed run. -/
abbrev Unit := Option Char

/-- What the first octet of a character leads to. The ranges of the second octet exclude
overlong forms, surrogates and everything beyond U+10FFFF. -/
def lead (octet : UInt8) : List Unit × State :=
  let code := octet.toNat
  if code < 0x80 then ([some (Char.ofNat code)], none)
  else if code < 0xC2 then ([none], none)
  else if code < 0xE0 then ([], some ⟨code - 0xC0, 0, 0x80, 0xBF⟩)
  else if code < 0xF0 then
    ([], some ⟨code - 0xE0, 1, if code = 0xE0 then 0xA0 else 0x80,
      if code = 0xED then 0x9F else 0xBF⟩)
  else if code < 0xF5 then
    ([], some ⟨code - 0xF0, 2, if code = 0xF0 then 0x90 else 0x80,
      if code = 0xF4 then 0x8F else 0xBF⟩)
  else ([none], none)

/-- One octet: the units it completes, and the state after it. An octet that cannot continue a
pending character ends that character as malformed and is read as the first of the next. -/
def step : State → UInt8 → List Unit × State
  | none, octet => lead octet
  | some pending, octet =>
    let code := octet.toNat
    if pending.low ≤ code ∧ code ≤ pending.high then
      let bits := pending.bits * 0x40 + (code - 0x80)
      match pending.owed with
      | 0 => ([some (Char.ofNat bits)], none)
      | owed + 1 => ([], some ⟨bits, owed, 0x80, 0xBF⟩)
    else
      let (units, next) := lead octet
      (none :: units, next)

/-- The units of a sequence of octets; the end of the sequence ends a pending character. -/
def units : State → Octets → List Unit
  | none, [] => []
  | some _, [] => [none]
  | state, octet :: rest =>
    let (completed, next) := step state octet
    completed ++ units next rest

/-- The text that octets encode, if they are well formed. -/
def decode? (octets : Octets) : Option Text := (units none octets).mapM id

/-- The text of octets with U+FFFD for every malformed run. -/
def decodeLossy (octets : Octets) : Text :=
  (units none octets).map (·.getD (Char.ofNat 0xFFFD))

end ReleaseTrigger.Utf8
