import ReleaseTrigger.Text.Basic

/-! # Control sequences

Text that is not shown on a terminal is freed of control sequences: controls other than blanks, and
everything from an escape character to the end of the sequence that it starts. A machine reads the
text one character at a time and tells which characters belong to it.
-/

namespace ReleaseTrigger.Terminal

/-- Where the machine stands. -/
inductive State where
  | ground
  | escape
  | intermediate
  | control
  /-- Inside a command for the system, which the bell ends. -/
  | command
  /-- Inside a string, which only a new sequence ends. -/
  | string
deriving DecidableEq, Repr

/-- A control that moves the cursor like a blank. -/
def isBlankControl (c : Char) : Bool :=
  c == '\t' || c == '\n' || c == '\r' || c.toNat == 0x0C

/-- The state after a character that may belong to a sequence, or `none` if the character is text,
which ends any sequence. -/
def step? (state : State) (c : Char) : Option State :=
  let code := c.toNat
  if Text.isWide c then none
  else if code = 0x1B then some .escape
  else if code = 0x18 ∨ code = 0x1A then some .ground
  else
    match state with
    | .ground =>
      if code < 0x20 then (if isBlankControl c then none else some .ground)
      else if code = 0x7F then some .ground
      else none
    | .escape =>
      if code < 0x20 then (if isBlankControl c then none else some .escape)
      else if code = 0x7F then some .escape
      else if code < 0x30 then some .intermediate
      else if c = '[' then some .control
      else if c = ']' then some .command
      else if c = 'P' ∨ c = 'X' ∨ c = '^' ∨ c = '_' then some .string
      else some .ground
    | .intermediate =>
      if code < 0x20 then (if isBlankControl c then none else some .intermediate)
      else if code = 0x7F ∨ code < 0x30 then some .intermediate
      else some .ground
    | .control =>
      if code < 0x20 then (if isBlankControl c then none else some .control)
      else if code = 0x7F ∨ code < 0x40 then some .control
      else some .ground
    | .command => if code = 0x07 then some .ground else some .command
    | .string => some .string

/-- Every character with whether it is text. -/
def marked (state : State) : Text → List (Char × Bool)
  | [] => []
  | c :: rest =>
    match step? state c with
    | none => (c, true) :: marked .ground rest
    | some next => (c, false) :: marked next rest

def strip (text : Text) : Text :=
  (marked .ground text).filterMap fun (c, isText) => if isText then some c else none

/-- The longest runs of a text that lie wholly inside or wholly outside control sequences. -/
def segments (text : Text) : List (Bool × Text) :=
  ((marked .ground text).splitBy fun first second => first.2 == second.2).map fun run =>
    ((run.head?.map (·.2)).getD true, run.map (·.1))

end ReleaseTrigger.Terminal
