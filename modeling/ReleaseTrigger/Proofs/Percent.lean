import ReleaseTrigger.Percent
import ReleaseTrigger.Proofs.Text.Utf8
import Mathlib.Data.List.Basic

/-! # What percent encoding writes and reads

Escapes stand for their octets whatever follows them, and an escape mark starts afresh whatever
stands before it. The encode sets of the components of network URLs agree on two things: they hold
every character that is not visible, and none that an escape is made of. So a component that is
encoded is visible, and encoding it again changes nothing.
-/

namespace ReleaseTrigger

namespace Percent

/-! ## Reading -/

theorem hexDigit?_hexDigit {digit : Nat} (bound : digit < 16) :
    Text.hexDigit? (hexDigit digit) = some digit := by
  revert digit
  decide

theorem decode_escape_append (octet : UInt8) (rest : Text) :
    decode (escape octet ++ rest) = octet :: decode rest := by
  have bound := octet.toNat_lt
  have value : octet.toNat / 16 * 16 + octet.toNat % 16 = octet.toNat := by omega
  simp only [escape, List.cons_append, List.nil_append]
  rw [decode, hexDigit?_hexDigit (by omega), hexDigit?_hexDigit (by omega)]
  simp only [value, Nat.toUInt8_eq, UInt8.ofNat_toNat]

theorem decode_escapes_append (octets : Octets) (rest : Text) :
    decode (octets.flatMap escape ++ rest) = octets ++ decode rest := by
  induction octets with
  | nil => rfl
  | cons octet others ih =>
    rw [List.flatMap_cons, List.append_assoc, decode_escape_append, ih, List.cons_append]

theorem decode_cons_of_ne {c : Char} (plain : c ≠ '%') (rest : Text) :
    decode (c :: rest) = Utf8.encodeChar c ++ decode rest := by
  rw [decode]
  rintro first second others rfl
  exact absurd rfl plain

/-- Text without escape marks is read as it stands. -/
theorem decode_of_unmarked {text : Text} (unmarked : ∀ c ∈ text, c ≠ '%') :
    decode text = Utf8.encode text := by
  induction text with
  | nil => rfl
  | cons c rest ih =>
    rw [decode_cons_of_ne (unmarked c (List.mem_cons_self ..)),
      ih fun d member => unmarked d (List.mem_cons_of_mem _ member)]
    rfl

/-- A mark that two hexadecimal digits do not follow stands for itself. -/
theorem decode_percent_of_stray {text : Text}
    (stray : ∀ first second rest, text = first :: second :: rest →
      Text.hexDigit? first = none ∨ Text.hexDigit? second = none) :
    decode ('%' :: text) = Utf8.encodeChar '%' ++ decode text := by
  match text with
  | [] => rfl
  | [_] => rfl
  | first :: second :: rest =>
    rw [decode]
    obtain none | none := stray first second rest rfl
    · rw [none]
    · rw [none]
      cases Text.hexDigit? first <;> rfl

/-- No escape reaches beyond the next mark. -/
theorem decode_append_percent (text rest : Text) :
    decode (text ++ '%' :: rest) = decode text ++ decode ('%' :: rest) := by
  fun_induction decode text with
  | case1 => rfl
  | case2 first second others high low isHigh isLow ih =>
    simp only [List.cons_append]
    rw [decode, isHigh, isLow]
    exact congrArg _ ih
  | case3 first second others stray ih =>
    simp only [List.cons_append] at ih ⊢
    rw [decode_percent_of_stray, ih, List.append_assoc]
    rintro other other' rest' ⟨⟩
    by_contra! digits
    obtain ⟨high, isHigh⟩ := Option.ne_none_iff_exists'.mp digits.1
    obtain ⟨low, isLow⟩ := Option.ne_none_iff_exists'.mp digits.2
    exact stray high low isHigh isLow
  | case4 c others short ih =>
    by_cases mark : c = '%'
    · subst mark
      -- Nothing or a single character stands between the two marks.
      rw [List.cons_append, decode_percent_of_stray, ih, List.append_assoc]
      rintro first second others' same
      match others with
      | [] =>
        cases same
        exact .inl rfl
      | [_] =>
        cases same
        exact .inr rfl
      | _ :: _ :: _ => exact (short _ _ _ rfl rfl).elim
    · rw [List.cons_append, decode_cons_of_ne mark, ih, List.append_assoc]

theorem decode_eq_nil_iff {text : Text} : decode text = [] ↔ text = [] := by
  constructor
  · intro empty
    rw [decode.eq_def] at empty
    split at empty
    · rfl
    · split at empty
      · cases empty
      · exact absurd (List.append_eq_nil_iff.mp empty).1 (Utf8.encodeChar_ne_nil _)
    · exact absurd (List.append_eq_nil_iff.mp empty).1 (Utf8.encodeChar_ne_nil _)
  · rintro rfl
    rfl

theorem decode_append_escapeChar_append (before : Text) (c : Char) (after : Text) :
    decode (before ++ (escapeChar c ++ after)) = decode before ++ (Utf8.encodeChar c ++ decode after) := by
  have read := decode_escapes_append (Utf8.encodeChar c) after
  obtain ⟨octet, octets, same⟩ := List.exists_cons_of_ne_nil (Utf8.encodeChar_ne_nil c)
  rw [← read, escapeChar, same]
  exact decode_append_percent before _

end Percent

/-! ## Visible characters -/

/-- A printable character of ASCII, the space excepted. -/
def Text.isVisible (c : Char) : Bool := 0x21 ≤ c.toNat && c.toNat ≤ 0x7E

theorem Text.isVisible_iff {c : Char} : isVisible c = true ↔ 0x21 ≤ c.toNat ∧ c.toNat ≤ 0x7E := by
  rw [isVisible, Bool.and_eq_true, decide_eq_true_eq, decide_eq_true_eq]

namespace Percent

/-- A set that holds the space and the controls holds all that is not visible. -/
theorem holds_of_isVisible_eq_false {set : EncodeSet} (blank : set ' ' = true)
    (controlled : ∀ c, controls c = true → set c = true) {c : Char}
    (invisible : Text.isVisible c = false) : set c = true := by
  by_cases isBlank : c = ' '
  · exact isBlank ▸ blank
  · have code : c.toNat ≠ 0x20 := fun code => isBlank (Char.toNat_inj.mp code)
    apply controlled
    rw [← Bool.not_eq_true, Text.isVisible_iff] at invisible
    simp only [controls, Text.isControl, Text.isWide, Bool.or_eq_true, decide_eq_true_eq, beq_iff_eq]
    omega

/-! ## Writing -/

/-- The characters of escapes. -/
def escapeChars : Text := Text.of "%0123456789ABCDEF"

theorem mem_escapeChars_of_escape {octet : UInt8} {c : Char} (member : c ∈ escape octet) :
    c ∈ escapeChars := by
  have digits : ∀ digit < 16, hexDigit digit ∈ escapeChars := by decide
  have bound := octet.toNat_lt
  simp only [escape, List.mem_cons, List.not_mem_nil, or_false] at member
  obtain rfl | rfl | rfl := member
  · decide
  · exact digits _ (by omega)
  · exact digits _ (by omega)

/-- An encoding holds characters of the text that are not in the set, and those of escapes. -/
theorem mem_encode {set : EncodeSet} {text : Text} {c : Char} (member : c ∈ encode set text) :
    (c ∈ text ∧ set c = false) ∨ c ∈ escapeChars := by
  obtain ⟨d, present, member⟩ := List.mem_flatMap.mp member
  split_ifs at member with escapes
  · obtain ⟨octet, -, member⟩ := List.mem_flatMap.mp member
    exact .inr (mem_escapeChars_of_escape member)
  · obtain rfl := List.mem_singleton.mp member
    exact .inl ⟨present, Bool.eq_false_iff.mpr escapes⟩

theorem encode_eq_nil_iff {set : EncodeSet} {text : Text} : encode set text = [] ↔ text = [] := by
  cases text with
  | nil => simp
  | cons c rest =>
    simp only [encode, List.flatMap_cons, List.append_eq_nil_iff, reduceCtorEq, iff_false, not_and_or]
    left
    split_ifs
    · obtain ⟨octet, others, same⟩ := List.exists_cons_of_ne_nil (Utf8.encodeChar_ne_nil c)
      simp [escapeChar, same, escape]
    · simp

/-- What the encode sets of the components of network URLs have in common. -/
structure IsComponentSet (set : EncodeSet) : Prop where
  /-- What is not visible is escaped. -/
  invisible : ∀ c, Text.isVisible c = false → set c = true
  /-- Escapes are not escaped. -/
  escapes : ∀ c ∈ escapeChars, set c = false

theorem fragmentSet_isComponentSet : IsComponentSet fragmentSet where
  invisible _ := holds_of_isVisible_eq_false (by decide) fun c control => by
    rw [fragmentSet, control, Bool.true_or]
  escapes := List.forall_iff_forall_mem.mp (by decide)

theorem pathSet_isComponentSet : IsComponentSet pathSet where
  invisible c invisible := by
    rw [pathSet, fragmentSet_isComponentSet.invisible c invisible, Bool.true_or]
  escapes := List.forall_iff_forall_mem.mp (by decide)

theorem userInfoSet_isComponentSet : IsComponentSet userInfoSet where
  invisible c invisible := by
    rw [userInfoSet, pathSet_isComponentSet.invisible c invisible, Bool.true_or]
  escapes := List.forall_iff_forall_mem.mp (by decide)

theorem querySet_isComponentSet : IsComponentSet querySet where
  invisible _ := holds_of_isVisible_eq_false (by decide) fun c control => by
    rw [querySet, control, Bool.true_or]
  escapes := List.forall_iff_forall_mem.mp (by decide)

/-- A text that a component can hold: no character of it has to be escaped. -/
def Escaped (set : EncodeSet) (text : Text) : Prop := ∀ c ∈ text, set c = false

theorem map_encode_of_escaped {set : EncodeSet} {component : Option Text}
    (escaped : ∀ text, component = some text → Escaped set text) :
    component.map (encode set) = component := by
  cases component with
  | none => rfl
  | some text => exact congrArg some (encode_of_clean (escaped text rfl))

namespace IsComponentSet

variable {set : EncodeSet} (component : IsComponentSet set)

include component

theorem escaped_encode (text : Text) : Escaped set (encode set text) := by
  intro c member
  obtain ⟨-, plain⟩ | escapes := mem_encode member
  · exact plain
  · exact component.escapes c escapes

theorem isVisible {c : Char} (plain : set c = false) : Text.isVisible c = true := by
  by_contra invisible
  have escapes := component.invisible c (Bool.eq_false_iff.mpr invisible)
  rw [plain] at escapes
  cases escapes

end IsComponentSet

end Percent

end ReleaseTrigger
