import ReleaseTrigger.Text.Utf8
import Mathlib.Data.Char

/-! # The machine reads exactly what is encoded

What `encode` writes for a character takes the machine from between characters back there, and the
only unit on the way is that character. Conversely a character that the machine reports stands at
the start of the octets in its one encoded form, because the range of the second octet shuts out
every other. So strict decoding succeeds exactly on encoded text, and lenient decoding loses
nothing there.
-/

namespace ReleaseTrigger.Utf8

/-! ## One octet -/

theorem toNat_toUInt8 (code : Nat) (bound : code < 256) : code.toUInt8.toNat = code := by
  rw [Nat.toUInt8_eq, UInt8.toNat_ofNat']
  exact Nat.mod_eq_of_lt bound

private theorem toUInt8_eq {code : Nat} (octet : UInt8) (same : code = octet.toNat) :
    code.toUInt8 = octet := by
  rw [same, Nat.toUInt8_eq, UInt8.ofNat_toNat]

private theorem toNat_ofNat (code : Nat) (valid : code.isValidChar) : (Char.ofNat code).toNat = code := by
  rw [Char.ofNat, dif_pos valid]
  rfl

theorem units_cons (state : State) (octet : UInt8) (rest : Octets) :
    units state (octet :: rest) = (step state octet).1 ++ units (step state octet).2 rest := by
  cases state <;> rfl

theorem units_single {octet : UInt8} (low : octet.toNat < 0x80) (rest : Octets) :
    units none (octet :: rest) = some (Char.ofNat octet.toNat) :: units none rest := by
  rw [units_cons]
  simp only [step, lead, if_pos low, List.cons_append, List.nil_append]

private theorem units_stray {octet : UInt8}
    (range : 0x80 ≤ octet.toNat ∧ octet.toNat < 0xC2 ∨ 0xF5 ≤ octet.toNat) (rest : Octets) :
    units none (octet :: rest) = none :: units none rest := by
  rw [units_cons]
  simp only [step, lead]
  split_ifs <;> first | rfl | omega

theorem units_two {octet : UInt8} (low : 0xC2 ≤ octet.toNat) (high : octet.toNat < 0xE0)
    (rest : Octets) :
    units none (octet :: rest) = units (some ⟨octet.toNat - 0xC0, 0, 0x80, 0xBF⟩) rest := by
  rw [units_cons]
  simp only [step, lead]
  rw [if_neg (by omega), if_neg (by omega), if_pos high, List.nil_append]

theorem units_three {octet : UInt8} (low : 0xE0 ≤ octet.toNat) (high : octet.toNat < 0xF0)
    (rest : Octets) :
    units none (octet :: rest) =
      units (some ⟨octet.toNat - 0xE0, 1, if octet.toNat = 0xE0 then 0xA0 else 0x80,
        if octet.toNat = 0xED then 0x9F else 0xBF⟩) rest := by
  rw [units_cons]
  simp only [step, lead]
  rw [if_neg (by omega), if_neg (by omega), if_neg (by omega), if_pos high, List.nil_append]

theorem units_four {octet : UInt8} (low : 0xF0 ≤ octet.toNat) (high : octet.toNat < 0xF5)
    (rest : Octets) :
    units none (octet :: rest) =
      units (some ⟨octet.toNat - 0xF0, 2, if octet.toNat = 0xF0 then 0x90 else 0x80,
        if octet.toNat = 0xF4 then 0x8F else 0xBF⟩) rest := by
  rw [units_cons]
  simp only [step, lead]
  rw [if_neg (by omega), if_neg (by omega), if_neg (by omega), if_neg (by omega), if_pos high,
    List.nil_append]

theorem units_continue {pending : Pending} {octet : UInt8} {owed : Nat}
    (owes : pending.owed = owed + 1) (low : pending.low ≤ octet.toNat)
    (high : octet.toNat ≤ pending.high) (rest : Octets) :
    units (some pending) (octet :: rest) =
      units (some ⟨pending.bits * 0x40 + (octet.toNat - 0x80), owed, 0x80, 0xBF⟩) rest := by
  rw [units_cons]
  simp only [step, if_pos (And.intro low high), owes, List.nil_append]

theorem units_complete {pending : Pending} {octet : UInt8} (owes : pending.owed = 0)
    (low : pending.low ≤ octet.toNat) (high : octet.toNat ≤ pending.high) (rest : Octets) :
    units (some pending) (octet :: rest) =
      some (Char.ofNat (pending.bits * 0x40 + (octet.toNat - 0x80))) :: units none rest := by
  rw [units_cons]
  simp only [step, if_pos (And.intro low high), owes, List.cons_append, List.nil_append]

/-- A pending character is reported only if its next octet is there and in range. -/
private theorem units_pending {pending : Pending} {octets : Octets} {text : Text}
    (read : units (some pending) octets = text.map some) :
    ∃ octet rest, octets = octet :: rest ∧ pending.low ≤ octet.toNat ∧
      octet.toNat ≤ pending.high := by
  cases octets with
  | nil => cases text <;> simp [units] at read
  | cons octet rest =>
    by_cases range : pending.low ≤ octet.toNat ∧ octet.toNat ≤ pending.high
    · exact ⟨octet, rest, rfl, range.1, range.2⟩
    · rw [units_cons] at read
      simp only [step, if_neg range] at read
      cases text <;> simp at read

/-! ## Reading what is encoded -/

private theorem units_encodeChar (c : Char) (rest : Octets) :
    units none (encodeChar c ++ rest) = some c :: units none rest := by
  have valid : c.toNat < 0xD800 ∨ 0xDFFF < c.toNat ∧ c.toNat < 0x110000 := c.valid
  simp only [encodeChar]
  split_ifs with one two three
  · have first := toNat_toUInt8 c.toNat (by omega)
    rw [List.singleton_append, units_single (by omega), first, Char.ofNat_toNat]
  · have first := toNat_toUInt8 (0xC0 + c.toNat / 0x40) (by omega)
    have second := toNat_toUInt8 (0x80 + c.toNat % 0x40) (by omega)
    have bits : (0xC0 + c.toNat / 0x40 - 0xC0) * 0x40 + (0x80 + c.toNat % 0x40 - 0x80) = c.toNat := by
      omega
    simp only [List.cons_append, List.nil_append]
    rw [units_two (by omega) (by omega), units_complete rfl (by dsimp only; omega)
      (by dsimp only; omega), first, second, bits, Char.ofNat_toNat]
  · have first := toNat_toUInt8 (0xE0 + c.toNat / 0x1000) (by omega)
    have second := toNat_toUInt8 (0x80 + c.toNat / 0x40 % 0x40) (by omega)
    have third := toNat_toUInt8 (0x80 + c.toNat % 0x40) (by omega)
    have bits : ((0xE0 + c.toNat / 0x1000 - 0xE0) * 0x40 + (0x80 + c.toNat / 0x40 % 0x40 - 0x80)) *
        0x40 + (0x80 + c.toNat % 0x40 - 0x80) = c.toNat := by
      omega
    simp only [List.cons_append, List.nil_append]
    rw [units_three (by omega) (by omega), units_continue rfl, units_complete rfl
      (by dsimp only; omega) (by dsimp only; omega), first, second, third, bits, Char.ofNat_toNat]
    -- The second octet is bounded after `E0`, to keep the form short, and after `ED`.
    · dsimp only
      split_ifs <;> omega
    · dsimp only
      split_ifs <;> omega
  · have first := toNat_toUInt8 (0xF0 + c.toNat / 0x40000) (by omega)
    have second := toNat_toUInt8 (0x80 + c.toNat / 0x1000 % 0x40) (by omega)
    have third := toNat_toUInt8 (0x80 + c.toNat / 0x40 % 0x40) (by omega)
    have fourth := toNat_toUInt8 (0x80 + c.toNat % 0x40) (by omega)
    have bits : (((0xF0 + c.toNat / 0x40000 - 0xF0) * 0x40 +
        (0x80 + c.toNat / 0x1000 % 0x40 - 0x80)) * 0x40 +
        (0x80 + c.toNat / 0x40 % 0x40 - 0x80)) * 0x40 + (0x80 + c.toNat % 0x40 - 0x80) = c.toNat := by
      omega
    simp only [List.cons_append, List.nil_append]
    rw [units_four (by omega) (by omega), units_continue rfl, units_continue rfl
      (by dsimp only; omega) (by dsimp only; omega), units_complete rfl (by dsimp only; omega)
      (by dsimp only; omega), first, second, third, fourth, bits, Char.ofNat_toNat]
    · dsimp only
      split_ifs <;> omega
    · dsimp only
      split_ifs <;> omega

@[simp] theorem encode_cons (c : Char) (text : Text) :
    encode (c :: text) = encodeChar c ++ encode text := rfl

theorem encodeChar_ne_nil (c : Char) : encodeChar c ≠ [] := by
  simp only [encodeChar]
  split_ifs <;> simp

/-- A text has no more characters than octets. -/
theorem length_le (text : Text) : text.length ≤ length text := by
  induction text with
  | nil => exact Nat.le_refl 0
  | cons c text ih =>
    have some := List.length_pos_iff.mpr (encodeChar_ne_nil c)
    rw [length] at ih ⊢
    rw [encode_cons, List.length_append, List.length_cons]
    omega

theorem units_encode (text : Text) (rest : Octets) :
    units none (encode text ++ rest) = text.map some ++ units none rest := by
  induction text with
  | nil => rfl
  | cons c text ih =>
    rw [encode_cons, List.append_assoc, units_encodeChar]
    exact congrArg (some c :: ·) ih

/-- Lenient decoding gives back every text, and leaves nothing of it to what follows. -/
theorem decodeLossy_encode_append (text : Text) (rest : Octets) :
    decodeLossy (encode text ++ rest) = text ++ decodeLossy rest := by
  rw [decodeLossy, units_encode, List.map_append, List.map_map]
  congr 1
  exact List.map_id text

theorem decodeLossy_encode (text : Text) : decodeLossy (encode text) = text := by
  have read := decodeLossy_encode_append text []
  rwa [List.append_nil, show decodeLossy [] = [] from rfl, List.append_nil] at read

theorem encode_injective : Function.Injective encode :=
  Function.LeftInverse.injective decodeLossy_encode

/-! ## Encoding what is read -/

private theorem encodeChar_one {first : UInt8} (low : first.toNat < 0x80) :
    encodeChar (Char.ofNat first.toNat) = [first] := by
  have code := toNat_ofNat first.toNat (.inl (by omega))
  simp only [encodeChar, code]
  rw [if_pos low, toUInt8_eq first rfl]

private theorem encodeChar_two {first second : UInt8} (low : 0xC2 ≤ first.toNat)
    (high : first.toNat < 0xE0) (tail : 0x80 ≤ second.toNat ∧ second.toNat ≤ 0xBF) :
    encodeChar (Char.ofNat ((first.toNat - 0xC0) * 0x40 + (second.toNat - 0x80))) =
      [first, second] := by
  have code := toNat_ofNat ((first.toNat - 0xC0) * 0x40 + (second.toNat - 0x80))
    (.inl (by omega))
  simp only [encodeChar, code]
  rw [if_neg (by omega), if_pos (by omega), toUInt8_eq first (by omega),
    toUInt8_eq second (by omega)]

private theorem encodeChar_three {first second third : UInt8} (low : 0xE0 ≤ first.toNat)
    (high : first.toNat < 0xF0) (range : 0x80 ≤ second.toNat ∧ second.toNat ≤ 0xBF)
    (short : first.toNat = 0xE0 → 0xA0 ≤ second.toNat)
    (scalar : first.toNat = 0xED → second.toNat ≤ 0x9F)
    (tail : 0x80 ≤ third.toNat ∧ third.toNat ≤ 0xBF) :
    encodeChar (Char.ofNat (((first.toNat - 0xE0) * 0x40 + (second.toNat - 0x80)) * 0x40 +
      (third.toNat - 0x80))) = [first, second, third] := by
  have code := toNat_ofNat (((first.toNat - 0xE0) * 0x40 + (second.toNat - 0x80)) * 0x40 +
    (third.toNat - 0x80)) (by simp only [Nat.isValidChar]; omega)
  simp only [encodeChar, code]
  rw [if_neg (by omega), if_neg (by omega), if_pos (by omega),
    toUInt8_eq first (by omega), toUInt8_eq second (by omega),
    toUInt8_eq third (by omega)]

private theorem encodeChar_four {first second third fourth : UInt8} (low : 0xF0 ≤ first.toNat)
    (high : first.toNat < 0xF5) (range : 0x80 ≤ second.toNat ∧ second.toNat ≤ 0xBF)
    (short : first.toNat = 0xF0 → 0x90 ≤ second.toNat)
    (scalar : first.toNat = 0xF4 → second.toNat ≤ 0x8F)
    (next : 0x80 ≤ third.toNat ∧ third.toNat ≤ 0xBF)
    (tail : 0x80 ≤ fourth.toNat ∧ fourth.toNat ≤ 0xBF) :
    encodeChar (Char.ofNat ((((first.toNat - 0xF0) * 0x40 + (second.toNat - 0x80)) * 0x40 +
      (third.toNat - 0x80)) * 0x40 + (fourth.toNat - 0x80))) = [first, second, third, fourth] := by
  have code := toNat_ofNat ((((first.toNat - 0xF0) * 0x40 + (second.toNat - 0x80)) * 0x40 +
    (third.toNat - 0x80)) * 0x40 + (fourth.toNat - 0x80)) (.inr (by omega))
  simp only [encodeChar, code]
  rw [if_neg (by omega), if_neg (by omega), if_neg (by omega),
    toUInt8_eq first (by omega), toUInt8_eq second (by omega),
    toUInt8_eq third (by omega), toUInt8_eq fourth (by omega)]

private theorem cons_eq_map_some {first : Unit} {rest : List Unit} {text : Text}
    (read : first :: rest = text.map some) :
    ∃ c others, text = c :: others ∧ first = some c ∧ rest = others.map some := by
  cases text with
  | nil => cases read
  | cons c others =>
    rw [List.map_cons, List.cons.injEq] at read
    exact ⟨c, others, rfl, read.1, read.2⟩

/-- What the machine reports of the first character without a fault is encoded in the octets that it
took. -/
private theorem exists_char_of_units {first : UInt8} {rest : Octets} {text : Text}
    (read : units none (first :: rest) = text.map some) :
    ∃ c others left, text = c :: others ∧ first :: rest = encodeChar c ++ left ∧
      units none left = others.map some := by
  have bound := first.toNat_lt
  by_cases one : first.toNat < 0x80
  · rw [units_single one] at read
    obtain ⟨c, others, same, char, tail⟩ := cons_eq_map_some read
    refine ⟨c, others, rest, same, ?_, tail⟩
    rw [← Option.some.inj char, encodeChar_one one]
    rfl
  by_cases stray : first.toNat < 0xC2 ∨ 0xF5 ≤ first.toNat
  · rw [units_stray (by omega)] at read
    obtain ⟨c, others, -, char, -⟩ := cons_eq_map_some read
    cases char
  by_cases two : first.toNat < 0xE0
  · rw [units_two (by omega) two] at read
    obtain ⟨second, left, rfl, low, high⟩ := units_pending read
    rw [units_complete rfl low high] at read
    obtain ⟨c, others, same, char, tail⟩ := cons_eq_map_some read
    refine ⟨c, others, left, same, ?_, tail⟩
    rw [← Option.some.inj char, encodeChar_two (by omega) two ⟨low, high⟩]
    rfl
  by_cases three : first.toNat < 0xF0
  · rw [units_three (by omega) three] at read
    obtain ⟨second, left, rfl, low, high⟩ := units_pending read
    rw [units_continue rfl low high] at read
    obtain ⟨third, left, rfl, low', high'⟩ := units_pending read
    rw [units_complete rfl low' high'] at read
    obtain ⟨c, others, same, char, tail⟩ := cons_eq_map_some read
    refine ⟨c, others, left, same, ?_, tail⟩
    dsimp only at low high
    rw [← Option.some.inj char, encodeChar_three (by omega) three _ _ _ ⟨low', high'⟩]
    · rfl
    all_goals split_ifs at low high <;> omega
  · rw [units_four (by omega) (by omega)] at read
    obtain ⟨second, left, rfl, low, high⟩ := units_pending read
    rw [units_continue rfl low high] at read
    obtain ⟨third, left, rfl, low', high'⟩ := units_pending read
    rw [units_continue rfl low' high'] at read
    obtain ⟨fourth, left, rfl, low'', high''⟩ := units_pending read
    rw [units_complete rfl low'' high''] at read
    obtain ⟨c, others, same, char, tail⟩ := cons_eq_map_some read
    refine ⟨c, others, left, same, ?_, tail⟩
    dsimp only at low high
    rw [← Option.some.inj char,
      encodeChar_four (by omega) (by omega) _ _ _ ⟨low', high'⟩ ⟨low'', high''⟩]
    · rfl
    all_goals split_ifs at low high <;> omega

/-- Octets that the machine reads without a fault are the encoding of what it reports. -/
theorem encode_of_units {octets : Octets} {text : Text} (read : units none octets = text.map some) :
    encode text = octets := by
  induction text generalizing octets with
  | nil =>
    cases octets with
    | nil => rfl
    | cons first rest =>
      obtain ⟨c, others, left, same, -⟩ := exists_char_of_units read
      cases same
  | cons c text ih =>
    cases octets with
    | nil => cases read
    | cons first rest =>
      obtain ⟨c, others, left, same, octets, tail⟩ := exists_char_of_units read
      obtain ⟨rfl, rfl⟩ := List.cons.inj same
      rw [encode_cons, ih tail, octets]

theorem mapM_id_eq_some_iff {α : Type} {list : List (Option α)} {values : List α} :
    list.mapM id = some values ↔ list = values.map some := by
  induction list generalizing values with
  | nil => cases values <;> simp
  | cons head rest ih =>
    cases head with
    | none => cases values <;> simp
    | some first => cases values <;> simp [Option.bind_eq_some_iff, ih, and_comm, and_assoc]

/-- Strict decoding succeeds exactly on the encoding of its result. -/
theorem decode?_eq_some_iff {octets : Octets} {text : Text} :
    decode? octets = some text ↔ octets = encode text := by
  rw [decode?, mapM_id_eq_some_iff]
  constructor
  · intro read
    exact (encode_of_units read).symm
  · rintro rfl
    have read := units_encode text []
    rwa [List.append_nil, show units none [] = [] from rfl, List.append_nil] at read

end ReleaseTrigger.Utf8
