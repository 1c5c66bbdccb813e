/-! # Text as a list of characters

Every value the program reads or prints is text, and every rule about text in this library is
stated on its list of characters. This module fixes that view, the numerals in which numbers are
written and read, and how a list is cut at a mark.
-/

namespace ReleaseTrigger

/-- Text is the list of its characters. -/
abbrev Text := List Char

/-- Octets are what text becomes on the wire and what the operating system hands over. -/
abbrev Octets := List UInt8

namespace Text

abbrev of (string : String) : Text := string.toList

/-- Whether a character is outside ASCII. -/
def isWide (c : Char) : Bool := 0x80 ≤ c.toNat

/-- A control character of ASCII: below the space, or DEL. -/
def isControl (c : Char) : Bool := c.toNat < 0x20 || c.toNat == 0x7F

/-- The ASCII lower-case form of a text; characters outside `A`–`Z` stay. -/
def lower (text : Text) : Text := text.map Char.toLower

/-! ## Numerals -/

/-- The digits of a number in a base of at least two, most significant first; zero has one
digit. -/
def digits (base number : Nat) : List Nat :=
  if _bound : 2 ≤ base ∧ base ≤ number then
    digits base (number / base) ++ [number % base]
  else [number]
termination_by number
decreasing_by exact Nat.div_lt_self (by omega) (by omega)

def valueOf (base : Nat) (digits : List Nat) : Nat :=
  digits.foldl (fun value digit => value * base + digit) 0

/-- The character of a digit below sixteen, letters in lower case. -/
def digitChar (digit : Nat) : Char :=
  if digit < 10 then Char.ofNat (0x30 + digit) else Char.ofNat (0x57 + digit)

def hexDigit? (c : Char) : Option Nat :=
  if c.isDigit then some (c.toNat - 0x30)
  else if 'a' ≤ c ∧ c ≤ 'f' then some (c.toNat - 0x57)
  else if 'A' ≤ c ∧ c ≤ 'F' then some (c.toNat - 0x37)
  else none

/-- The value of a digit in a base of at most sixteen. -/
def digit? (base : Nat) (c : Char) : Option Nat :=
  (hexDigit? c).filter (· < base)

def decimal (number : Nat) : Text := (digits 10 number).map digitChar

def hexadecimal (number : Nat) : Text := (digits 16 number).map digitChar

/-- The number a non-empty numeral in a base denotes. -/
def number? (base : Nat) (numeral : Text) : Option Nat :=
  if numeral.isEmpty then none else (numeral.mapM (digit? base)).map (valueOf base)

def padLeft (width : Nat) (text : Text) : Text :=
  List.replicate (width - text.length) ' ' ++ text

/-! ## Cuts and ends -/

/-- A list cut at its first element that satisfies a test: what comes before, and, if there is
such an element, what comes after. -/
def cut {α : Type} (isMark : α → Bool) (list : List α) : List α × Option (List α) :=
  match list.dropWhile (!isMark ·) with
  | [] => (list.takeWhile (!isMark ·), none)
  | _ :: rest => (list.takeWhile (!isMark ·), some rest)

/-- A list cut at its last element that satisfies a test: what comes before, if there is such an
element, and what comes after. -/
def cutLast {α : Type} (isMark : α → Bool) (list : List α) : Option (List α) × List α :=
  match list.reverse.dropWhile (!isMark ·) with
  | [] => (none, list)
  | _ :: before => (some before.reverse, (list.reverse.takeWhile (!isMark ·)).reverse)

/-- A list without the elements at both ends that satisfy a test. -/
def trim {α : Type} (isBlank : α → Bool) (list : List α) : List α :=
  ((list.dropWhile isBlank).reverse.dropWhile isBlank).reverse

/-- The rest of a list after a first part, if the list begins with it. -/
def after? {α : Type} [BEq α] (start list : List α) : Option (List α) :=
  if start.isPrefixOf list then some (list.drop start.length) else none

end Text

end ReleaseTrigger
