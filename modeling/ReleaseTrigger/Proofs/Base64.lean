import ReleaseTrigger.Base64
import Mathlib.Data.List.Basic

/-! # Base 64 is read back

A digit is read back from its character, which is never the padding. So each group is taken for one of its
own length, and the bits of its digits are those of its octets.
-/

namespace ReleaseTrigger.Base64

/-! ## Digits -/

theorem digit?_digitChar {digit : Nat} (bound : digit < 64) : digit? (digitChar digit) = some digit := by
  revert digit
  decide +kernel

theorem digitChar_ne_padding {digit : Nat} (bound : digit < 64) : digitChar digit ≠ '=' := by
  revert digit
  decide +kernel

theorem toUInt8_of_eq_toNat {number : Nat} (octet : UInt8) (same : number = octet.toNat) :
    number.toUInt8 = octet := by
  rw [same, Nat.toUInt8_eq, UInt8.ofNat_toNat]

/-! ## Groups -/

section Groups

variable {first second third fourth bits : Nat} (first_lt : first < 64) (second_lt : second < 64)
  (third_lt : third < 64) (fourth_lt : fourth < 64)

include first_lt second_lt

/-- Two digits and their padding stand for the first eight of their twelve bits. -/
theorem decode?_two (whole : first * 64 + second = bits) (unused : bits % 16 = 0) :
    decode? [digitChar first, digitChar second, '=', '='] = some [(bits / 16).toUInt8] := by
  subst whole
  rw [decode?, digit?_digitChar first_lt, digit?_digitChar second_lt]
  exact if_pos unused

include third_lt

/-- Three digits and their padding stand for the first sixteen of their eighteen bits. -/
theorem decode?_three (whole : (first * 64 + second) * 64 + third = bits) (unused : bits % 4 = 0) :
    decode? [digitChar first, digitChar second, digitChar third, '='] =
      some [(bits / 1024).toUInt8, (bits / 4 % 256).toUInt8] := by
  subst whole
  rw [decode?, digit?_digitChar first_lt, digit?_digitChar second_lt, digit?_digitChar third_lt]
  · exact if_pos unused
  · exact digitChar_ne_padding third_lt

include fourth_lt

/-- Four digits stand for their twenty-four bits, whatever follows them. -/
theorem decode?_four_append (whole : ((first * 64 + second) * 64 + third) * 64 + fourth = bits)
    (rest : Text) :
    decode? (digitChar first :: digitChar second :: digitChar third :: digitChar fourth :: rest) =
      (decode? rest).map fun others =>
        (bits / 65536).toUInt8 :: (bits / 256 % 256).toUInt8 :: (bits % 256).toUInt8 :: others := by
  subst whole
  rw [decode?, digit?_digitChar first_lt, digit?_digitChar second_lt, digit?_digitChar third_lt,
    digit?_digitChar fourth_lt]
  · cases decode? rest <;> rfl
  · exact fun _ padding _ => digitChar_ne_padding fourth_lt padding
  · exact fun padding _ => digitChar_ne_padding fourth_lt padding

end Groups

/-- Octets are read back from their encoding. -/
theorem decode?_encode (octets : Octets) : decode? (encode octets) = some octets := by
  fun_induction encode octets with
  | case1 => rfl
  | case2 a bits =>
    have a_lt := a.toNat_lt
    have value : bits = a.toNat * 16 := rfl
    have whole : bits / 64 * 64 + bits % 64 = bits := by omega
    rw [decode?_two (by omega) (by omega) whole (by omega), toUInt8_of_eq_toNat a (by omega)]
  | case3 a b bits =>
    have a_lt := a.toNat_lt
    have b_lt := b.toNat_lt
    have value : bits = (a.toNat * 256 + b.toNat) * 4 := rfl
    have whole : (bits / 4096 * 64 + bits / 64 % 64) * 64 + bits % 64 = bits := by omega
    rw [decode?_three (by omega) (by omega) (by omega) whole (by omega),
      toUInt8_of_eq_toNat a (by omega), toUInt8_of_eq_toNat b (by omega)]
  | case4 a b c rest bits ih =>
    have a_lt := a.toNat_lt
    have b_lt := b.toNat_lt
    have c_lt := c.toNat_lt
    have value : bits = (a.toNat * 256 + b.toNat) * 256 + c.toNat := rfl
    have whole :
        ((bits / 262144 * 64 + bits / 4096 % 64) * 64 + bits / 64 % 64) * 64 + bits % 64 = bits := by
      omega
    rw [decode?_four_append (by omega) (by omega) (by omega) (by omega) whole, ih, Option.map_some,
      toUInt8_of_eq_toNat a (by omega), toUInt8_of_eq_toNat b (by omega), toUInt8_of_eq_toNat c (by omega)]

end ReleaseTrigger.Base64
