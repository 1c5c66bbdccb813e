import ReleaseTrigger.Text.Terminal
import ReleaseTrigger.Text.Utf8

/-! # Wrapping at a width

A line is broken before a word that would reach beyond the width, unless it is the first word. Words
end after the spaces that follow them. Line breaks in the text are kept, and control sequences take
no room.
-/

namespace ReleaseTrigger.Wrapped

/-- A character that counts as blank at the end of a word. -/
def isBlank (c : Char) : Bool :=
  let code := c.toNat
  (9 ≤ code ∧ code ≤ 13) || code == 0x20 || code == 0x85 || code == 0xA0 || code == 0x1680 ||
    (0x2000 ≤ code ∧ code ≤ 0x200A) || code == 0x2028 || code == 0x2029 || code == 0x202F ||
    code == 0x205F || code == 0x3000

def trimEnd (word : Text) : Text := (word.reverse.dropWhile isBlank).reverse

/-- The room that a text takes when a control hides what follows it up to the next `m`. -/
def shownWidth (hidden : Bool) : Text → Nat
  | [] => 0
  | c :: rest =>
    let hides := hidden || Text.isControl c
    if hides && c == 'm' then shownWidth false rest
    else if hides then shownWidth true rest
    else 1 + shownWidth false rest

/-- The words of a line, each with the spaces after it. -/
def words (line : Text) : List Text :=
  line.splitBy fun first second => !(first == ' ' && second != ' ')

def lines (text : Text) : List Text := text.splitBy fun first _ => first != '\n'

/-- Where a line stands while it is being filled. -/
structure Line where
  width : Nat
  /-- What every further line starts with, once the first word is known. -/
  indent : Option Text
deriving DecidableEq, Repr

def Line.empty : Line := ⟨0, none⟩

/-- The words after the first, with breaks put in. `last` is the word before them. -/
def fill (limit : Nat) (line : Line) (last : Text) : List Text → Text × Line
  | [] => (last, line)
  | word :: others =>
    let trimmed := trimEnd word
    let room := shownWidth false trimmed
    let blanks := Utf8.length word - Utf8.length trimmed
    if limit < line.width + room then
      let indent := line.indent.getD []
      let (rest, final) :=
        fill limit { line with width := Utf8.length indent + room + blanks } word others
      (trimEnd last ++ '\n' :: indent ++ rest, final)
    else
      let (rest, final) := fill limit { line with width := line.width + room + blanks } word others
      (last ++ rest, final)

/-- A line of words added to what is on the line already. -/
def addWords (limit : Nat) (line : Line) : List Text → Text × Line
  | [] => ([], line)
  | word :: others =>
    let trimmed := trimEnd word
    let indent := line.indent.getD (if word.all isBlank then word else [])
    let blanks := Utf8.length word - Utf8.length trimmed
    fill limit ⟨line.width + shownWidth false trimmed + blanks, some indent⟩ word others

/-- Lines added to what is on the line already; each but the first starts afresh. -/
def addLines (limit : Nat) (line : Line) : List Text → Text × Line
  | [] => ([], line)
  | first :: others =>
    let (text, after) := addWords limit line (words first)
    let (rest, final) := match others with
      | [] => ([], after)
      | _ => addLines limit Line.empty others
    (text ++ rest, final)

/-- Segments added to what is on the line already; control sequences are copied. -/
def addSegments (limit : Nat) (line : Line) : List (Bool × Text) → Text
  | [] => []
  | (false, controls) :: rest => controls ++ addSegments limit line rest
  | (true, text) :: rest =>
    let (wrapped, after) := addLines limit line (lines text)
    wrapped ++ addSegments limit after rest

def wrap (limit : Nat) (text : Text) : Text :=
  addSegments limit Line.empty (Terminal.segments text)

def indent (width : Nat) (text : Text) : Text :=
  text.flatMap fun c => if c = '\n' then '\n' :: List.replicate width ' ' else [c]

end ReleaseTrigger.Wrapped
