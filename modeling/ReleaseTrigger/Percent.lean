import ReleaseTrigger.Text.Utf8

/-! # Percent encoding

A component of a URL escapes the characters of its encode set, and always controls and characters
outside ASCII, as `%XX` for each octet of their UTF-8 form. Decoding turns every well-formed escape
into its octet and leaves all else.
-/

namespace ReleaseTrigger.Percent

/-- The upper-case hexadecimal digit of a number below sixteen. -/
def hexDigit (digit : Nat) : Char :=
  if digit < 10 then Char.ofNat (0x30 + digit) else Char.ofNat (0x37 + digit)

def escape (octet : UInt8) : Text :=
  ['%', hexDigit (octet.toNat / 16), hexDigit (octet.toNat % 16)]

def escapeChar (c : Char) : Text := (Utf8.encodeChar c).flatMap escape

/-- The characters that a component escapes. -/
abbrev EncodeSet := Char → Bool

/-- Controls and characters outside ASCII, which every component escapes. -/
def controls : EncodeSet := fun c => Text.isControl c || Text.isWide c

def fragmentSet : EncodeSet := fun c => controls c || (Text.of " \"<>`").contains c

/-- The encode set of path segments. -/
def pathSet : EncodeSet := fun c => fragmentSet c || (Text.of "#?\x7b\x7d").contains c

def userInfoSet : EncodeSet := fun c => pathSet c || (Text.of "/:;=@[\\]^|").contains c

/-- The encode set of queries of network URLs. -/
def querySet : EncodeSet := fun c => controls c || (Text.of " \"#<>'").contains c

/-- The encode set of queries of other URLs. -/
def plainQuerySet : EncodeSet := fun c => controls c || (Text.of " \"#<>").contains c

/-- The encoding of a text for a component. -/
def encode (set : EncodeSet) (text : Text) : Text :=
  text.flatMap fun c => if set c then escapeChar c else [c]

/-- The octets of a text with every escape replaced by the octet it stands for. -/
def decode : Text → Octets
  | [] => []
  | '%' :: first :: second :: rest =>
    match Text.hexDigit? first, Text.hexDigit? second with
    | some high, some low => (high * 16 + low).toUInt8 :: decode rest
    | _, _ => Utf8.encodeChar '%' ++ decode (first :: second :: rest)
  | c :: rest => Utf8.encodeChar c ++ decode rest

@[simp] theorem encode_nil (set : EncodeSet) : encode set [] = [] := rfl

@[simp] theorem encode_append (set : EncodeSet) (first second : Text) :
    encode set (first ++ second) = encode set first ++ encode set second := by
  simp [encode]

/-- Text without a character of the set is its own encoding. -/
theorem encode_of_clean {set : EncodeSet} {text : Text} (clean : ∀ c ∈ text, set c = false) :
    encode set text = text := by
  induction text with
  | nil => rfl
  | cons c rest ih =>
    have here := clean c (List.mem_cons_self ..)
    have others := ih fun d member => clean d (List.mem_cons_of_mem _ member)
    simp_all [encode]

end ReleaseTrigger.Percent
