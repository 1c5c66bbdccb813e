import ReleaseTrigger.Proofs.Percent

/-! # Escapes in an encoded text

Decoding sees a text as a list of signs: escapes, and characters that stand for themselves, a stray mark
among them. A character that an encode set holds is no part of an escape, and a mark is never followed by
a digit that was not there before. So encoding works sign by sign (`signs_encode`): escapes and stray marks
stay what they are, and the only new escapes are those of the characters that are escaped. Decoding
therefore sees no difference.
-/

namespace ReleaseTrigger.Percent

/-! ## Signs -/

/-- What a part of a text is read as. -/
inductive Sign where
  /-- A mark with two hexadecimal digits. -/
  | escape (first second : Char)
  /-- A character that stands for itself. -/
  | plain (c : Char)
deriving DecidableEq, Repr

namespace Sign

/-- How a sign is written. -/
def text : Sign → Text
  | escape first second => ['%', first, second]
  | plain c => [c]

/-- The octets that a sign stands for. -/
def octets : Sign → Octets
  | escape first second =>
    [((Text.hexDigit? first).getD 0 * 16 + (Text.hexDigit? second).getD 0).toUInt8]
  | plain c => Utf8.encodeChar c

/-- The escape of an octet. -/
def ofOctet (octet : UInt8) : Sign :=
  escape (hexDigit (octet.toNat / 16)) (hexDigit (octet.toNat % 16))

/-- The signs that encoding puts in the place of one: a character of the set gives way to the escapes of
its octets, all else stays. -/
def encode (set : EncodeSet) : Sign → List Sign
  | escape first second => [escape first second]
  | plain c => if set c then (Utf8.encodeChar c).map ofOctet else [plain c]

end Sign

/-- Whether two characters make an escape of a mark before them. -/
def areDigits (first second : Char) : Bool :=
  (Text.hexDigit? first).isSome && (Text.hexDigit? second).isSome

/-- The signs of a text. -/
def signs : Text → List Sign
  | '%' :: first :: second :: rest =>
    if areDigits first second then .escape first second :: signs rest
    else .plain '%' :: signs (first :: second :: rest)
  | c :: rest => .plain c :: signs rest
  | [] => []

/-- A mark before the text stands for itself, because no two digits follow it. -/
def IsStray (text : Text) : Prop :=
  ∀ first second rest, text = first :: second :: rest → areDigits first second = false

theorem signs_escape {first second : Char} (digits : areDigits first second = true) (rest : Text) :
    signs ('%' :: first :: second :: rest) = .escape first second :: signs rest := by
  rw [signs, if_pos digits]

theorem signs_of_ne {c : Char} (unmarked : c ≠ '%') (rest : Text) :
    signs (c :: rest) = .plain c :: signs rest := by
  rw [signs]
  rintro first second others rfl
  exact absurd rfl unmarked

theorem signs_of_isStray {rest : Text} (stray : IsStray rest) :
    signs ('%' :: rest) = .plain '%' :: signs rest := by
  match rest with
  | [] | [_] => rfl
  | first :: second :: others =>
    rw [signs, if_neg]
    rw [stray first second others rfl]
    decide

/-- The signs of a text, one after the other, are the text. -/
theorem flatMap_text_signs (text : Text) : (signs text).flatMap Sign.text = text := by
  fun_induction signs text with
  | case1 first second rest digits ih => exact congrArg ('%' :: first :: second :: ·) ih
  | case2 first second rest stray ih => exact congrArg ('%' :: ·) ih
  | case3 c rest short ih => exact congrArg (c :: ·) ih
  | case4 => rfl

/-- A text is decoded sign by sign. -/
theorem decode_eq_flatMap_signs (text : Text) : decode text = (signs text).flatMap Sign.octets := by
  fun_induction signs text with
  | case1 first second rest digits ih =>
    obtain ⟨⟨high, isHigh⟩, ⟨low, isLow⟩⟩ :
        (∃ high, Text.hexDigit? first = some high) ∧ ∃ low, Text.hexDigit? second = some low := by
      rwa [areDigits, Bool.and_eq_true, Option.isSome_iff_exists, Option.isSome_iff_exists] at digits
    rw [decode, isHigh, isLow, List.flatMap_cons, Sign.octets, isHigh, isLow, ih]
    rfl
  | case2 first second rest stray ih =>
    rw [decode_percent_of_stray, ih]
    · rfl
    · rintro _ _ _ ⟨⟩
      simpa only [areDigits, Bool.and_eq_true, not_and_or, Bool.not_eq_true, Option.isSome_eq_false_iff,
        Option.isNone_iff_eq_none] using stray
  | case3 c rest short ih =>
    rw [List.flatMap_cons, ← ih]
    by_cases mark : c = '%'
    · subst mark
      apply decode_percent_of_stray
      rintro first second others rfl
      exact (short first second others rfl rfl).elim
    · exact decode_cons_of_ne mark rest
  | case4 => rfl

/-! ## Encode sets and escapes -/

/-- The characters that escapes can be made of, in either case. -/
def signChars : Text := Text.of "%0123456789ABCDEFabcdef"

theorem mem_signChars_of_hexDigit? {c : Char} {digit : Nat} (isDigit : Text.hexDigit? c = some digit) :
    c ∈ signChars := by
  have codes : ∀ code < 0x80, (Text.hexDigit? (Char.ofNat code)).isSome = true →
      Char.ofNat code ∈ signChars := by decide
  have bound : c.toNat < 0x80 := by
    unfold Text.hexDigit? at isDigit
    split_ifs at isDigit with decimal lower upper
    · exact Nat.lt_of_le_of_lt (Char.isDigit_iff_toNat.mp decimal).2 (by decide)
    · exact Nat.lt_of_le_of_lt (Char.le_def.mp lower.2) (by decide)
    · exact Nat.lt_of_le_of_lt (Char.le_def.mp upper.2) (by decide)
  rw [← Char.ofNat_toNat c] at isDigit ⊢
  exact codes c.toNat bound (by rw [isDigit]; rfl)

/-- A set that holds nothing escapes can be made of. -/
def KeepsSigns (set : EncodeSet) : Prop := ∀ c ∈ signChars, set c = false

theorem querySet_keepsSigns : KeepsSigns querySet := List.forall_iff_forall_mem.mp (by decide)

theorem userInfoSet_keepsSigns : KeepsSigns userInfoSet := List.forall_iff_forall_mem.mp (by decide)

theorem encode_cons (set : EncodeSet) (c : Char) (rest : Text) :
    encode set (c :: rest) = (if set c then escapeChar c else [c]) ++ encode set rest := rfl

theorem encode_cons_of_not_mem {set : EncodeSet} {c : Char} (stays : set c = false) (rest : Text) :
    encode set (c :: rest) = c :: encode set rest := by
  rw [encode_cons, if_neg (by rw [stays]; decide), List.singleton_append]

/-- An encoded text begins with a mark or with the first character of the text. -/
theorem head?_encode (set : EncodeSet) (text : Text) :
    (encode set text).head? = text.head?.map fun c => if set c then '%' else c := by
  cases text with
  | nil => rfl
  | cons c rest =>
    rw [encode_cons, List.head?_cons, Option.map_some]
    split_ifs
    · obtain ⟨octet, octets, same⟩ := List.exists_cons_of_ne_nil (Utf8.encodeChar_ne_nil c)
      rw [escapeChar, same]
      rfl
    · rfl

/-- An encoding without marks escapes nothing. -/
theorem encode_of_percent_not_mem {set : EncodeSet} {text : Text} (markless : '%' ∉ encode set text) :
    encode set text = text := by
  apply encode_of_clean
  intro c member
  obtain ⟨before, after, rfl⟩ := List.append_of_mem member
  apply Bool.eq_false_iff.mpr
  intro escapes
  have first := head?_encode set (c :: after)
  rw [List.head?_cons, Option.map_some, if_pos escapes] at first
  rw [encode_append] at markless
  exact markless (List.mem_append_right _ (List.mem_of_mem_head? first))

theorem areDigits_percent (c : Char) : areDigits '%' c = false ∧ areDigits c '%' = false :=
  ⟨rfl, Bool.and_false _⟩

/-- No digit gets behind a stray mark. -/
theorem IsStray.encode {set : EncodeSet} {text : Text} (stray : IsStray text) :
    IsStray (encode set text) := by
  intro first second others same
  cases text with
  | nil => cases same
  | cons c rest =>
    by_cases escapes : set c = true
    · have starts := head?_encode set (c :: rest)
      rw [same, List.head?_cons, List.head?_cons, Option.map_some, if_pos escapes,
        Option.some.injEq] at starts
      rw [starts]
      exact (areDigits_percent second).1
    · rw [encode_cons_of_not_mem (Bool.eq_false_iff.mpr escapes), List.cons.injEq] at same
      obtain ⟨rfl, same⟩ := same
      have next := head?_encode set rest
      rw [same, List.head?_cons] at next
      cases rest with
      | nil => cases next
      | cons d rest =>
        rw [List.head?_cons, Option.map_some, Option.some.injEq] at next
        rw [next]
        split_ifs
        · exact (areDigits_percent c).2
        · exact stray c d rest rfl

theorem signs_escapes_append (octets : Octets) (rest : Text) :
    signs (octets.flatMap escape ++ rest) = octets.map Sign.ofOctet ++ signs rest := by
  induction octets with
  | nil => rfl
  | cons octet octets ih =>
    have bound := octet.toNat_lt
    have digits : areDigits (hexDigit (octet.toNat / 16)) (hexDigit (octet.toNat % 16)) = true := by
      rw [areDigits, hexDigit?_hexDigit (by omega), hexDigit?_hexDigit (by omega)]
      rfl
    rw [List.flatMap_cons, List.append_assoc, List.map_cons, List.cons_append, ← ih]
    exact signs_escape digits _

/-- Encoding works sign by sign: no escape is encoded again, made by accident or broken. -/
theorem signs_encode {set : EncodeSet} (keeps : KeepsSigns set) (text : Text) :
    signs (encode set text) = (signs text).flatMap (Sign.encode set) := by
  have mark : set '%' = false := keeps '%' (by decide)
  fun_induction signs text with
  | case1 first second rest digits ih =>
    have parts := digits
    rw [areDigits, Bool.and_eq_true, Option.isSome_iff_exists, Option.isSome_iff_exists] at parts
    obtain ⟨⟨high, isHigh⟩, ⟨low, isLow⟩⟩ := parts
    rw [encode_cons_of_not_mem mark, encode_cons_of_not_mem (keeps _ (mem_signChars_of_hexDigit? isHigh)),
      encode_cons_of_not_mem (keeps _ (mem_signChars_of_hexDigit? isLow)), signs_escape digits, ih]
    rfl
  | case2 first second rest stray ih =>
    have stray : IsStray (first :: second :: rest) := by
      rintro _ _ _ ⟨⟩
      exact Bool.eq_false_iff.mpr stray
    rw [encode_cons_of_not_mem mark, signs_of_isStray stray.encode, ih, List.flatMap_cons, Sign.encode,
      if_neg (by rw [mark]; decide), List.singleton_append]
  | case3 c rest short ih =>
    rw [List.flatMap_cons, ← ih, encode_cons, Sign.encode]
    by_cases escapes : set c = true
    · rw [if_pos escapes, if_pos escapes]
      exact signs_escapes_append _ _
    · rw [if_neg escapes, if_neg escapes, List.singleton_append, List.singleton_append]
      by_cases isMark : c = '%'
      · subst isMark
        apply signs_of_isStray
        apply IsStray.encode
        rintro first second others rfl
        exact (short first second others rfl rfl).elim
      · exact signs_of_ne isMark _
  | case4 => rfl

theorem octets_ofOctet (octet : UInt8) : (Sign.ofOctet octet).octets = [octet] := by
  have bound := octet.toNat_lt
  have value : octet.toNat / 16 * 16 + octet.toNat % 16 = octet.toNat := by omega
  rw [Sign.ofOctet, Sign.octets, hexDigit?_hexDigit (by omega), hexDigit?_hexDigit (by omega)]
  simp only [Option.getD_some, value, Nat.toUInt8_eq, UInt8.ofNat_toNat]

/-- What a sign stands for, the signs that encoding puts in its place stand for. -/
theorem flatMap_octets_encode (set : EncodeSet) (sign : Sign) :
    (sign.encode set).flatMap Sign.octets = sign.octets := by
  cases sign with
  | escape first second => exact List.append_nil _
  | plain c =>
    rw [Sign.encode]
    split_ifs
    · rw [List.flatMap_map]
      simp only [octets_ofOctet, List.flatMap_singleton']
      rfl
    · exact List.append_nil _

/-- Decoding does not see whether a text was encoded. -/
theorem decode_encode {set : EncodeSet} (keeps : KeepsSigns set) (text : Text) :
    decode (encode set text) = decode text := by
  rw [decode_eq_flatMap_signs, signs_encode keeps, List.flatMap_assoc, decode_eq_flatMap_signs]
  exact congrArg (List.flatMap · (signs text)) (funext (flatMap_octets_encode set))

end ReleaseTrigger.Percent
