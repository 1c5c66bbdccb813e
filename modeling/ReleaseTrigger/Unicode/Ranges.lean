import ReleaseTrigger.Text.Basic

/-! # Tables of character properties

The properties of characters outside ASCII are data of the Unicode standard. A table is written as
blank-separated words of hexadecimal numerals and read once into an array of disjoint ranges in
ascending order, in which a code point is found by bisection.
-/

namespace ReleaseTrigger.Unicode

/-- A closed range of code points with what the table says about it. -/
structure Entry (α : Type) where
  first : Nat
  last : Nat
  value : α
deriving Repr

/-- Disjoint entries in ascending order. -/
abbrev Table (α : Type) := Array (Entry α)

namespace Table

variable {α : Type}

/-- The entry at the positions from `low` up to but not including `high` whose range holds a code
point. -/
def search (table : Table α) (code low high : Nat) : Option (Entry α) :=
  if low < high then
    match table[(low + high) / 2]? with
    | none => none
    | some entry =>
      if code < entry.first then search table code low ((low + high) / 2)
      else if entry.last < code then search table code ((low + high) / 2 + 1) high
      else some entry
  else none
termination_by high - low
decreasing_by all_goals omega

def find? (table : Table α) (code : Nat) : Option (Entry α) :=
  table.search code 0 table.size

end Table

def tableNumber (numeral : Text) : Nat := (Text.number? 16 numeral).getD 0

def tableNumbers (list : Text) : List Nat :=
  (List.splitOn '.' list).map tableNumber

def tableWords (string : String) : List Text :=
  (List.splitOnP (·.isWhitespace) string.toList).filter (!·.isEmpty)

/-- The entry a word stands for: bounds, then what follows the first mark, read by `value`. The
upper bound may be left out when it equals the lower. -/
def tableEntry {α : Type} (value : Char → Text → α) (word : Text) : Entry α :=
  let isBound (c : Char) : Bool := c.isAlphanum || c == '-'
  let content := match word.dropWhile isBound with
    | [] => value ' ' []
    | mark :: rest => value mark rest
  match List.splitOn '-' (word.takeWhile isBound) with
  | [low, high] => ⟨tableNumber low, tableNumber high, content⟩
  | low :: _ => ⟨tableNumber low, tableNumber low, content⟩
  | [] => ⟨0, 0, content⟩

/-! ## Sets of characters -/

/-- A set of code points. -/
abbrev Ranges := Table Unit

/-- The set that words `a-b` and `a` describe. -/
def Ranges.ofString (string : String) : Ranges :=
  ((tableWords string).map (tableEntry fun _ _ => ())).toArray

def Ranges.contains (ranges : Ranges) (code : Nat) : Bool := (ranges.find? code).isSome

/-! ## Replacements -/

inductive Replacement where
  | constant (codes : List Nat)
  | raised (distance : Nat)
  | lowered (distance : Nat)
  /-- The first character and every second one after it by the one at a distance above it. -/
  | alternate (distance : Nat)
deriving Repr

abbrev Replacements := Table Replacement

/-- The table of words `a-b>x.y`, `a-b+d`, `a-b~d` and `a-b/d`. -/
def Replacements.ofString (string : String) : Replacements :=
  let value (mark : Char) (rest : Text) : Replacement :=
    match mark with
    | '+' => .raised (tableNumber rest)
    | '~' => .lowered (tableNumber rest)
    | '/' => .alternate (tableNumber rest)
    | _ => .constant (tableNumbers rest)
  ((tableWords string).map (tableEntry value)).toArray

def Replacements.get? (table : Replacements) (code : Nat) : Option (List Nat) :=
  match table.find? code with
  | none => none
  | some entry =>
    match entry.value with
    | .constant codes => some codes
    | .raised distance => some [code + distance]
    | .lowered distance => some [code - distance]
    | .alternate distance =>
      if (code - entry.first) % 2 = 0 then some [code + distance] else none

/-! ## Decompositions -/

structure Decomposition where
  parts : List Nat
  /-- Whether the parts compose to the character again. -/
  composes : Bool
deriving Repr

abbrev Decompositions := Table Decomposition

/-- The table of words `c=x.y` for what composes again and `c>x.y` for what does not. -/
def Decompositions.ofString (string : String) : Decompositions :=
  let value (mark : Char) (rest : Text) : Decomposition := ⟨tableNumbers rest, mark == '='⟩
  ((tableWords string).map (tableEntry value)).toArray

/-! ## Classes -/

/-- Characters with a number other than zero. -/
abbrev Classes := Table Nat

/-- The table of words `a-b+n`. -/
def Classes.ofString (string : String) : Classes :=
  ((tableWords string).map (tableEntry fun _ rest => tableNumber rest)).toArray

/-- The number of a code point, zero when it has no entry. -/
def Classes.get (table : Classes) (code : Nat) : Nat :=
  ((table.find? code).map (·.value)).getD 0

end ReleaseTrigger.Unicode
