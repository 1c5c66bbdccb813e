import ReleaseTrigger.Outcome

/-! # Heads of answers

The head of an answer is a status line, header lines, and an empty line. Lines end in a line feed with
or without a carriage return. Reading stops at the first fault, and a text that ends before the empty
line is incomplete. A head with an informational status announces another one, which follows it.
-/

namespace ReleaseTrigger.Http

inductive HeadError where
  | incomplete
  | version
  | status
  | header
  /-- There are too many header lines, or the body is said to be too long. -/
  | tooLarge
  | contentLength
  /-- An answer of version 1.0 names a transfer encoding. -/
  | transferEncoding
deriving DecidableEq, Repr

def HeadError.message : HeadError → Text
  | incomplete => Text.of "connection closed before message completed"
  | version => Text.of "invalid HTTP version parsed"
  | status => Text.of "invalid HTTP status-code parsed"
  | header => Text.of "invalid HTTP header parsed"
  | tooLarge => Text.of "message head is too large"
  | contentLength => Text.of "invalid content-length parsed"
  | transferEncoding => Text.of "unexpected transfer-encoding parsed"

/-- The name of a header in lower case, with its value. -/
abbrev Header := Text × Text

structure Head where
  /-- Whether the version is 1.1. -/
  isCurrent : Bool
  status : Status
  headers : List Header
deriving DecidableEq, Repr

def Head.values (head : Head) (name : Text) : List Text :=
  (head.headers.filter (·.1 == name)).map (·.2)

/-! ## Lines -/

/-- What comes after the end of a line that stands at the start. -/
def lineEnd (fault : HeadError) : Text → Except HeadError Text
  | [] => .error .incomplete
  | ['\r'] => .error .incomplete
  | '\n' :: rest => .ok rest
  | '\r' :: '\n' :: rest => .ok rest
  | _ => .error fault

/-- A character that may stand in a reason or in the value of a header. -/
def isValueChar (c : Char) : Bool := c == '\t' || !Text.isControl c

/-- The value at the start of a text up to the end of its line, and what comes after the line. -/
def lineValue (fault : HeadError) (text : Text) : Except HeadError (Text × Text) :=
  (lineEnd fault (text.dropWhile isValueChar)).map (text.takeWhile isValueChar, ·)

def isNameChar (c : Char) : Bool := c.isAlphanum || (Text.of "!#$%&'*+-.^_`|~").contains c

def isPadding (c : Char) : Bool := c == ' ' || c == '\t'

def readHeader (text : Text) : Except HeadError (Header × Text) :=
  let name := text.takeWhile isNameChar
  match text.dropWhile isNameChar with
  | [] => .error .incomplete
  | mark :: rest =>
    if name.isEmpty ∨ mark ≠ ':' then .error .header
    else
      (lineValue .header rest).map fun (value, others) =>
        ((Text.lower name, Text.trim isPadding value), others)

/-! ## The head -/

def maxHeaders : Nat := 100

/-- The header lines at the start of a text up to the empty line, at most `left` of them, and what
comes after it. -/
def readHeaders (left : Nat) (text : Text) : Except HeadError (List Header × Text) :=
  match text with
  | [] => .error .incomplete
  | first :: _ =>
    if first = '\r' ∨ first = '\n' then (lineEnd .header text).map ([], ·)
    else
      match readHeader text with
      | .error error => .error error
      | .ok (header, rest) =>
        match left with
        | 0 => .error .tooLarge
        | left + 1 => (readHeaders left rest).map fun (headers, others) =>
            (header :: headers, others)

def skipEmptyLines : Text → Except HeadError Text
  | '\n' :: rest => skipEmptyLines rest
  | '\r' :: '\n' :: rest => skipEmptyLines rest
  | ['\r'] => .error .incomplete
  | '\r' :: _ => .error .header
  | text => .ok text

def versionStart : Text := Text.of "HTTP/1."

/-- Whether the version at the start of a text is 1.1, and what comes after the space behind it. -/
def readVersion (text : Text) : Except HeadError (Bool × Text) :=
  if text.length < 8 then
    if text.isPrefixOf versionStart then .error .incomplete else .error .version
  else
    match Text.after? versionStart text with
    | some ('1' :: rest) => (space rest).map (true, ·)
    | some ('0' :: rest) => (space rest).map (false, ·)
    | _ => .error .version
where
  space : Text → Except HeadError Text
    | [] => .error .incomplete
    | c :: rest => if c = ' ' then .ok rest else .error .version

/-- The digits that are left of a status code, and what comes after them. -/
def readDigits : Nat → Nat → Text → Except HeadError (Nat × Text)
  | 0, code, text => .ok (code, text)
  | _ + 1, _, [] => .error .incomplete
  | left + 1, code, c :: rest =>
    if c.isDigit then readDigits left (code * 10 + (c.toNat - 0x30)) rest else .error .status

/-- The rest of a status line after the code, given with what comes after it. -/
def readReason : Text → Except HeadError Text
  | [] => .error .incomplete
  | ' ' :: rest => (lineValue .status rest).map (·.2)
  | text => lineEnd .status text

def Head.read (text : Text) : Except HeadError (Head × Text) := do
  let (isCurrent, afterVersion) ← readVersion (← skipEmptyLines text)
  let (code, afterCode) ← readDigits 3 0 afterVersion
  let (headers, rest) ← readHeaders maxHeaders (← readReason afterCode)
  match Status.ofNat? code with
  | none => .error .status
  | some status => .ok (⟨isCurrent, status, headers⟩, rest)

/-! ## Framing -/

/-- The lengths that can be written stay below this bound. -/
def lengthBound : Nat := 0x10000000000000000

def lengthOf? (value : Text) : Option Nat :=
  if value.all Char.isDigit then (Text.number? 10 value).filter (· < lengthBound) else none

def lengths? (values : List Text) : Option (List Nat) :=
  if values.any (·.any fun c => Text.isWide c) then none
  else (values.flatMap (List.splitOn ',')).mapM fun value =>
    lengthOf? (Text.trim isPadding value)

def maxLength : Nat := lengthBound - 3

/-- Checks that the end of the body can be told. -/
def Head.checkFraming (head : Head) : Except HeadError Unit :=
  let lengths := head.values (Text.of "content-length")
  if head.status.code = 101 ∨ head.status.code = 204 ∨ head.status.code = 304 then .ok ()
  else if !(head.values (Text.of "transfer-encoding")).isEmpty then
    if head.isCurrent then .ok () else .error .transferEncoding
  else if lengths.isEmpty then .ok ()
  else
    match lengths? lengths with
    | some (length :: others) =>
      if others.all (· == length) then
        if length ≤ maxLength then .ok () else .error .tooLarge
      else .error .contentLength
    | _ => .error .contentLength

/-- A status that announces another head. -/
def Head.isInformational (head : Head) : Bool :=
  head.status.code < 200 && head.status.code != 101

/-- The final head of an answer, read from at most `fuel` heads. -/
def finalHeadWithin : Nat → Text → Except HeadError Head
  | 0, _ => .error .incomplete
  | fuel + 1, text =>
    match Head.read text with
    | .error error => .error error
    | .ok (head, rest) =>
      if head.isInformational then finalHeadWithin fuel rest
      else (head.checkFraming).map fun _ => head

/-- The final head of an answer. A head has characters, so there are no more heads than those. -/
def finalHead (text : Text) : Except HeadError Head := finalHeadWithin (text.length + 1) text

end ReleaseTrigger.Http
