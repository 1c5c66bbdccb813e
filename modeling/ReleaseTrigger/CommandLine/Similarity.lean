import ReleaseTrigger.Text.Basic

/-! # Similar names

Two names are as similar as the mean of three ratios: the shares of either name that are matched by
equal characters of the other not too far away, and the share of the matches that stand in order.
-/

namespace ReleaseTrigger.Similarity

/-- A ratio of two numbers, the second of them positive. -/
structure Ratio where
  above : Nat
  below : Nat
deriving DecidableEq, Repr

def Ratio.le (first second : Ratio) : Bool := first.above * second.below ≤ second.above * first.below

/-- The first position of `known` at or after `low` and before `high` that holds a character and is
not taken. -/
def match? (known : Text) (taken : List Nat) (low high : Nat) (c : Char) : Option Nat :=
  (List.range (min high known.length)).find? fun position =>
    decide (low ≤ position) && !taken.contains position && known[position]? == some c

/-- The matched characters of a name from a position on, and the positions they take in `known`. -/
def matchAll (known : Text) (reach : Nat) : Nat → Text → List Nat → Text × List Nat
  | _, [], taken => ([], taken)
  | position, c :: rest, taken =>
    match match? known taken (position - reach) (position + reach + 1) c with
    | none => matchAll known reach (position + 1) rest taken
    | some found =>
      let (others, final) := matchAll known reach (position + 1) rest (found :: taken)
      (c :: others, final)

def similarity (name known : Text) : Ratio :=
  let reach := max name.length known.length / 2 - 1
  let (matched, taken) := matchAll known reach 0 name []
  let ordered := (List.range known.length).filterMap fun position =>
    if taken.contains position then known[position]? else none
  let swapped := ((matched.zip ordered).countP fun (first, second) => first != second) / 2
  let count := matched.length
  if count = 0 then ⟨0, 1⟩
  else
    ⟨count * count * known.length + count * count * name.length +
      (count - swapped) * name.length * known.length, 3 * name.length * known.length * count⟩

/-- The least similarity that is worth a hint. -/
def threshold : Ratio := ⟨7, 10⟩

/-- The candidate whose name is most similar to a text, if it is similar enough; of several, the
last. -/
def best? {α : Type} (nameOf : α → Text) (text : Text) (candidates : List α) : Option α :=
  (candidates.foldl (fun best candidate =>
    let ratio := similarity text (nameOf candidate)
    match best with
    | none => if threshold.le ratio then some (ratio, candidate) else none
    | some (least, _) => if least.le ratio then some (ratio, candidate) else best) none).map (·.2)

end ReleaseTrigger.Similarity
