import ReleaseTrigger.Percent

/-! # Form-encoded pairs

A query is read and extended as `application/x-www-form-urlencoded`: pairs between ampersands, name
and value divided by the first equals sign, a space as a plus sign, and everything but ASCII
letters, digits and `*-._` escaped.
-/

namespace ReleaseTrigger.Form

/-- A name with its value. -/
abbrev Pair := Text × Text

/-- Characters that stand for themselves. -/
def keeps (c : Char) : Bool := c.isAlphanum || (Text.of "*-._").contains c

def encodeChar (c : Char) : Text :=
  if keeps c then [c] else if c = ' ' then ['+'] else Percent.escapeChar c

def encode (text : Text) : Text := text.flatMap encodeChar

def encodePair (pair : Pair) : Text := encode pair.1 ++ '=' :: encode pair.2

/-- The name or value that an encoding stands for; malformed UTF-8 is replaced. -/
def decode (text : Text) : Text :=
  Utf8.decodeLossy (Percent.decode (text.map fun c => if c = '+' then ' ' else c))

/-- The pair that a piece of a query stands for; without an equals sign the value is empty. -/
def decodePair (piece : Text) : Pair :=
  let (name, value) := Text.cut (· == '=') piece
  (decode name, decode (value.getD []))

/-- The pairs of a query; empty pieces count for nothing. -/
def decodePairs (query : Text) : List Pair :=
  ((List.splitOn '&' query).filter (!·.isEmpty)).map decodePair

/-- A query with one more pair. An ampersand divides it from what is there already. -/
def append (query : Text) (pair : Pair) : Text :=
  if query.isEmpty then encodePair pair else query ++ '&' :: encodePair pair

def appendAll (query : Text) (pairs : List Pair) : Text := pairs.foldl append query

@[simp] theorem appendAll_nil (query : Text) : appendAll query [] = query := rfl

@[simp] theorem appendAll_cons (query : Text) (pair : Pair) (pairs : List Pair) :
    appendAll query (pair :: pairs) = appendAll (append query pair) pairs := rfl

end ReleaseTrigger.Form
