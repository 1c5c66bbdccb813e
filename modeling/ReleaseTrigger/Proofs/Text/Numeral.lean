import ReleaseTrigger.Text.Basic
import Mathlib.Data.List.Basic
import Mathlib.Data.List.Forall2
import Mathlib.Data.Nat.Digits.Lemmas

/-! # Numerals are read back

The digits of a number are below the base, their value is the number, and only zero has a numeral
that begins with a zero. A numeral is therefore read back as the number that it was written for. Any
other numeral, with leading zeros or in capitals, is read as the value that the positions of its digits
give it (`number?_eq_some_iff_positional`).
-/

namespace ReleaseTrigger.Text

/-! ## Capitals -/

theorem toLower_cases (c : Char) :
    c.toLower = c ∨ ∃ code, 0x41 ≤ code ∧ code ≤ 0x5A ∧ c = Char.ofNat code := by
  by_cases upper : c.val ≥ 'A'.val ∧ c.val ≤ 'Z'.val
  · exact .inr ⟨c.toNat, upper.1, upper.2, (Char.ofNat_toNat c).symm⟩
  · exact .inl (dif_neg upper)

theorem lower_of_isUpper_eq_false {text : Text} (small : ∀ c ∈ text, c.isUpper = false) :
    lower text = text := by
  have same : ∀ c ∈ text, c.toLower = id c := fun c member => dif_neg (of_decide_eq_false (small c member))
  rw [lower, List.map_congr_left same, List.map_id]

theorem isUpper_of_isDigit {c : Char} (isDigit : c.isDigit = true) : c.isUpper = false := by
  have high : c.toNat ≤ 0x39 := (Char.isDigit_iff_toNat.mp isDigit).2
  apply decide_eq_false
  rintro ⟨low, -⟩
  have low : 0x41 ≤ c.toNat := low
  omega

theorem isAlpha_of_isDigit {c : Char} (isDigit : c.isDigit = true) : c.isAlpha = false := by
  have high : c.toNat ≤ 0x39 := (Char.isDigit_iff_toNat.mp isDigit).2
  have small : c.isLower = false := by
    apply Bool.eq_false_iff.mpr
    intro isLower
    have low : 0x61 ≤ c.toNat := of_decide_eq_true (Bool.and_eq_true_iff.mp isLower).1
    omega
  exact Bool.or_eq_false_iff.mpr ⟨isUpper_of_isDigit isDigit, small⟩

theorem isWide_toLower (c : Char) : isWide c.toLower = isWide c := by
  obtain same | ⟨code, low, high, rfl⟩ := toLower_cases c
  · rw [same]
  · have capitals : ∀ code < 0x5B, 0x41 ≤ code →
        isWide (Char.ofNat code).toLower = isWide (Char.ofNat code) := by decide
    exact capitals code (by omega) low

/-- A digit may be written in either case. -/
theorem hexDigit?_toLower (c : Char) : hexDigit? c.toLower = hexDigit? c := by
  obtain same | ⟨code, low, high, rfl⟩ := toLower_cases c
  · rw [same]
  · have capitals : ∀ code < 0x5B, 0x41 ≤ code →
        hexDigit? (Char.ofNat code).toLower = hexDigit? (Char.ofNat code) := by decide
    exact capitals code (by omega) low

/-! ## Digits -/

theorem digits_of_lt {base number : Nat} (small : number < base) : digits base number = [number] := by
  rw [digits, dif_neg (by omega)]

theorem digits_of_le {base number : Nat} (base_ge : 2 ≤ base) (large : base ≤ number) :
    digits base number = digits base (number / base) ++ [number % base] := by
  rw [digits, dif_pos ⟨base_ge, large⟩]

theorem digits_ne_nil (base number : Nat) : digits base number ≠ [] := by
  rw [digits]
  split <;> simp

/-- The digits of a positive number are those that come least significant first, in reverse. -/
theorem digits_eq_reverse {base number : Nat} (base_ge : 2 ≤ base) (positive : 0 < number) :
    digits base number = (Nat.digits base number).reverse := by
  fun_induction digits base number with
  | case1 number bound ih =>
    rw [ih (Nat.div_pos bound.2 (by omega)), Nat.digits_def' base_ge positive, List.reverse_cons]
  | case2 number bound =>
    rw [Nat.digits_of_lt base number (by omega) (by omega), List.reverse_singleton]

theorem lt_of_mem_digits {base number digit : Nat} (base_ge : 2 ≤ base)
    (member : digit ∈ digits base number) : digit < base := by
  obtain rfl | positive := Nat.eq_zero_or_pos number
  · rw [digits_of_lt (by omega), List.mem_singleton] at member
    omega
  · rw [digits_eq_reverse base_ge positive, List.mem_reverse] at member
    exact Nat.digits_lt_base base_ge member

theorem valueOf_eq_ofDigits (base : Nat) (list : List Nat) :
    valueOf base list = Nat.ofDigits base list.reverse := by
  simp only [valueOf, Nat.ofDigits_eq_foldr, List.foldr_reverse, Nat.cast_id, Nat.add_comm, Nat.mul_comm]

/-- The value of its digits is the number. -/
theorem valueOf_digits {base : Nat} (base_ge : 2 ≤ base) (number : Nat) :
    valueOf base (digits base number) = number := by
  obtain rfl | positive := Nat.eq_zero_or_pos number
  · rw [digits_of_lt (by omega)]
    simp [valueOf]
  · rw [digits_eq_reverse base_ge positive, valueOf_eq_ofDigits, List.reverse_reverse, Nat.ofDigits_digits]

/-- So many digits do not denote more. -/
theorem valueOf_lt {base : Nat} (base_ge : 2 ≤ base) {list : List Nat}
    (bounds : ∀ digit ∈ list, digit < base) : valueOf base list < base ^ list.length := by
  rw [valueOf_eq_ofDigits, ← List.length_reverse]
  exact Nat.ofDigits_lt_base_pow_length base_ge fun digit member => bounds digit (List.mem_reverse.mp member)

/-- The first digit is zero only for zero. -/
theorem head?_digits_ne_zero {base number : Nat} (base_ge : 2 ≤ base) (positive : 0 < number) :
    (digits base number).head? ≠ some 0 := by
  rw [digits_eq_reverse base_ge positive, List.head?_reverse,
    List.getLast?_eq_some_getLast (Nat.digits_ne_nil_iff_ne_zero.mpr positive.ne')]
  exact fun zero => Nat.getLast_digit_ne_zero base positive.ne' (Option.some.inj zero)

/-- A number below a power of the base takes no more digits than that. -/
theorem length_digits_le {base number length : Nat} (base_ge : 2 ≤ base)
    (bound : number < base ^ (length + 1)) : (digits base number).length ≤ length + 1 := by
  obtain rfl | positive := Nat.eq_zero_or_pos number
  · rw [digits_of_lt (by omega), List.length_singleton]
    omega
  · rw [digits_eq_reverse base_ge positive, List.length_reverse]
    exact (Nat.digits_length_le_iff base_ge number).mpr bound

/-- Digits that do not begin with a zero, unless there is only that one, are those of their value. -/
theorem digits_valueOf {base : Nat} (base_ge : 2 ≤ base) {list : List Nat} (some : list ≠ [])
    (bounds : ∀ digit ∈ list, digit < base) (leading : list.head? = .some 0 → list = [0]) :
    digits base (valueOf base list) = list := by
  by_cases zero : list.head? = .some 0
  · rw [leading zero, show valueOf base [0] = 0 by simp [valueOf], digits_of_lt (by omega)]
  · have significant (nonempty : list.reverse ≠ []) : list.reverse.getLast nonempty ≠ 0 := by
      rw [List.getLast_reverse]
      exact fun first => zero (first ▸ List.head?_eq_some_head _)
    have same : Nat.digits base (valueOf base list) = list.reverse := by
      rw [valueOf_eq_ofDigits]
      exact Nat.digits_ofDigits base base_ge _ (fun digit member => bounds digit (List.mem_reverse.mp member))
        significant
    have positive : 0 < valueOf base list := by
      rw [Nat.pos_iff_ne_zero, ← Nat.digits_ne_nil_iff_ne_zero, same]
      exact List.reverse_ne_nil_iff.mpr some
    rw [digits_eq_reverse base_ge positive, same, List.reverse_reverse]

/-! ## Numerals -/

/-- A digit of any base up to sixteen is read back from its character. -/
theorem digit?_digitChar {base digit : Nat} (base_le : base ≤ 16) (bound : digit < base) :
    digit? base (digitChar digit) = some digit := by
  have hex : ∀ value < 16, hexDigit? (digitChar value) = some value := by decide
  rw [digit?, hex digit (by omega), Option.filter_some, if_pos (by simpa using bound)]

theorem mapM_eq_some_iff {α β : Type} {f : α → Option β} {list : List α} {results : List β} :
    list.mapM f = some results ↔ List.Forall₂ (fun value result => f value = some result) list results := by
  induction list generalizing results with
  | nil => simp [List.mapM_nil, eq_comm]
  | cons value list ih =>
    simp only [List.mapM_cons, Option.bind_eq_bind, Option.bind_eq_some_iff, List.forall₂_cons_left_iff,
      ih, Option.pure_def, Option.some.injEq, eq_comm (b := results)]
    constructor
    · rintro ⟨result, here, others, rest, same⟩
      exact ⟨result, others, here, rest, same⟩
    · rintro ⟨result, others, here, rest, same⟩
      exact ⟨result, here, others, rest, same⟩

theorem mapM_digit?_map_digitChar {base : Nat} (base_le : base ≤ 16) {digits : List Nat}
    (bounds : ∀ digit ∈ digits, digit < base) :
    (digits.map digitChar).mapM (digit? base) = some digits := by
  induction digits with
  | nil => rfl
  | cons digit digits ih =>
    have bound := bounds digit (List.mem_cons_self ..)
    rw [List.map_cons, List.mapM_cons, digit?_digitChar base_le bound,
      ih fun other member => bounds other (List.mem_cons_of_mem _ member)]
    rfl

/-- A number is read back from its numeral. -/
theorem number?_map_digits {base : Nat} (base_ge : 2 ≤ base) (base_le : base ≤ 16) (number : Nat) :
    number? base ((digits base number).map digitChar) = some number := by
  have bounds : ∀ digit ∈ digits base number, digit < base := fun _ => lt_of_mem_digits base_ge
  rw [number?, if_neg (by simpa using digits_ne_nil base number),
    mapM_digit?_map_digitChar base_le bounds, Option.map_some, valueOf_digits base_ge]

/-- Only capitals are not the characters of the digits that they denote. -/
theorem digitChar_of_hexDigit? {c : Char} {digit : Nat} (lower : c.isUpper = false)
    (read : hexDigit? c = some digit) : digitChar digit = c := by
  unfold hexDigit? at read
  split_ifs at read with isDigit small large
  · have bounds : 0x30 ≤ c.toNat ∧ c.toNat ≤ 0x39 := Char.isDigit_iff_toNat.mp isDigit
    cases read
    rw [digitChar, if_pos (by omega), Nat.add_sub_cancel' bounds.1, Char.ofNat_toNat]
  · have bounds : 0x61 ≤ c.toNat ∧ c.toNat ≤ 0x66 := small
    cases read
    rw [digitChar, if_neg (by omega), Nat.add_sub_cancel' (by omega), Char.ofNat_toNat]
  · have capital : 0x41 ≤ c.toNat ∧ c.toNat ≤ 0x5A := ⟨large.1, Nat.le_trans large.2 (by decide)⟩
    exact absurd capital (of_decide_eq_false lower)

/-- What denotes less than ten is a decimal digit. -/
theorem isDigit_of_hexDigit? {c : Char} {digit : Nat} (read : hexDigit? c = some digit)
    (bound : digit < 10) : c.isDigit = true := by
  unfold hexDigit? at read
  split_ifs at read with isDigit small large
  · exact isDigit
  · have letter : 0x61 ≤ c.toNat := small.1
    cases read
    omega
  · have letter : 0x41 ≤ c.toNat := large.1
    cases read
    omega

/-- A numeral is read digit by digit. -/
theorem number?_eq_some_iff {base number : Nat} {numeral : Text} :
    number? base numeral = some number ↔
      ∃ list, numeral ≠ [] ∧ List.Forall₂ (fun c digit => digit? base c = some digit) numeral list ∧
        valueOf base list = number := by
  unfold number?
  split_ifs with empty
  · simp_all
  · simp_all [mapM_eq_some_iff]

variable {base number : Nat} {numeral : Text}

theorem lt_of_forall₂_digit? {list : List Nat}
    (read : List.Forall₂ (fun c digit => digit? base c = some digit) numeral list) :
    ∀ digit ∈ list, digit < base := by
  induction read with
  | nil => simp
  | cons here _ ih =>
    exact List.forall_mem_cons.mpr ⟨of_decide_eq_true (Option.filter_eq_some_iff.mp here).2, ih⟩

theorem map_digitChar_of_forall₂ {list : List Nat} (lower : ∀ c ∈ numeral, c.isUpper = false)
    (read : List.Forall₂ (fun c digit => digit? base c = some digit) numeral list) :
    list.map digitChar = numeral := by
  induction read with
  | nil => rfl
  | cons here _ ih =>
    obtain ⟨first, lower⟩ := List.forall_mem_cons.mp lower
    rw [List.map_cons, digitChar_of_hexDigit? first (Option.filter_eq_some_iff.mp here).1, ih lower]

/-- A numeral of so many digits is that of a number below a power of the base. -/
theorem lt_of_number? (base_ge : 2 ≤ base) (read : number? base numeral = some number) :
    number < base ^ numeral.length := by
  obtain ⟨list, -, digits, rfl⟩ := number?_eq_some_iff.mp read
  rw [digits.length_eq]
  exact valueOf_lt base_ge (lt_of_forall₂_digit? digits)

/-- A numeral consists of digits. -/
theorem exists_digit?_of_number? (read : number? base numeral = some number) {c : Char}
    (member : c ∈ numeral) : ∃ digit, digit? base c = some digit := by
  obtain ⟨list, -, digits, -⟩ := number?_eq_some_iff.mp read
  clear read
  induction digits with
  | nil => cases member
  | cons here _ ih =>
    obtain rfl | member := List.mem_cons.mp member
    · exact ⟨_, here⟩
    · exact ih member

/-- A numeral without capitals and without leading zeros is that of the number it is read as. -/
theorem eq_map_digits_of_number? (base_ge : 2 ≤ base) (read : number? base numeral = some number)
    (lower : ∀ c ∈ numeral, c.isUpper = false) (leading : numeral.head? = some '0' → numeral = ['0']) :
    numeral = (digits base number).map digitChar := by
  obtain ⟨list, some, digits, rfl⟩ := number?_eq_some_iff.mp read
  obtain rfl := map_digitChar_of_forall₂ lower digits
  rw [digits_valueOf base_ge (by simpa using some) (lt_of_forall₂_digit? digits)]
  intro zero
  have single := leading (by rw [List.head?_map, zero]; rfl)
  obtain ⟨digit, rfl, -⟩ := List.map_eq_singleton_iff.mp single
  exact congrArg ([·]) (Option.some.inj zero)

/-- A numeral in decimal has no capitals to begin with. -/
theorem eq_decimal_of_number? (read : number? 10 numeral = some number)
    (leading : numeral.head? = some '0' → numeral = ['0']) : numeral = decimal number := by
  refine eq_map_digits_of_number? (by decide) read ?_ leading
  intro c member
  obtain ⟨digit, here⟩ := exists_digit?_of_number? read member
  obtain ⟨here, bound⟩ := Option.filter_eq_some_iff.mp here
  exact isUpper_of_isDigit (isDigit_of_hexDigit? here (of_decide_eq_true bound))

theorem number?_decimal (number : Nat) : number? 10 (decimal number) = some number :=
  number?_map_digits (by decide) (by decide) number

theorem number?_hexadecimal (number : Nat) : number? 16 (hexadecimal number) = some number :=
  number?_map_digits (by decide) (by decide) number

theorem isDigit_of_mem_decimal {number : Nat} {c : Char} (member : c ∈ decimal number) :
    c.isDigit = true := by
  have all : ∀ value < 10, (digitChar value).isDigit = true := by decide
  obtain ⟨digit, present, rfl⟩ := List.mem_map.mp member
  exact all digit (lt_of_mem_digits (by decide) present)

theorem isAlphanum_of_mem_hexadecimal {number : Nat} {c : Char} (member : c ∈ hexadecimal number) :
    c.isAlphanum = true := by
  have all : ∀ value < 16, (digitChar value).isAlphanum = true := by decide
  obtain ⟨digit, present, rfl⟩ := List.mem_map.mp member
  exact all digit (lt_of_mem_digits (by decide) present)

theorem isUpper_of_mem_hexadecimal {number : Nat} {c : Char} (member : c ∈ hexadecimal number) :
    c.isUpper = false := by
  have all : ∀ value < 16, (digitChar value).isUpper = false := by decide
  obtain ⟨digit, present, rfl⟩ := List.mem_map.mp member
  exact all digit (lt_of_mem_digits (by decide) present)

/-- Only the numeral of zero begins with a zero. -/
theorem head?_map_digits_ne_zero {base number : Nat} (base_ge : 2 ≤ base) (base_le : base ≤ 16)
    (positive : 0 < number) : ((digits base number).map digitChar).head? ≠ some '0' := by
  have all : ∀ value < 16, digitChar value = '0' → value = 0 := by decide
  rw [List.head?_map]
  intro first
  obtain ⟨digit, first, zero⟩ := Option.map_eq_some_iff.mp first
  have bound := lt_of_mem_digits base_ge (List.mem_of_mem_head? first)
  rw [all digit (by omega) zero] at first
  exact head?_digits_ne_zero base_ge positive first

theorem head?_decimal_ne_zero {number : Nat} (positive : 0 < number) :
    (decimal number).head? ≠ some '0' :=
  head?_map_digits_ne_zero (by decide) (by decide) positive

/-- Sixteen bits take four hexadecimal digits at most. -/
theorem length_hexadecimal_le {number : Nat} (bound : number < 0x10000) :
    (hexadecimal number).length ≤ 4 := by
  rw [hexadecimal, List.length_map]
  exact length_digits_le (by decide) bound

/-- An octet takes three decimal digits at most. -/
theorem length_decimal_le {number : Nat} (bound : number < 256) : (decimal number).length ≤ 3 := by
  rw [decimal, List.length_map]
  exact length_digits_le (by decide) (Nat.lt_trans bound (by decide))

/-! ## Positional values -/

/-- A text of digits in a base. -/
def IsInBase (base : Nat) (text : Text) : Prop :=
  ∀ c ∈ text, ∃ digit < base, hexDigit? c = some digit

/-- The number that digits denote by their positions. -/
def positional (base : Nat) (text : Text) : Nat :=
  Nat.ofDigits base (text.reverse.map fun c => (hexDigit? c).getD 0)

theorem digit?_eq_some_iff {base digit : Nat} {c : Char} :
    digit? base c = some digit ↔ hexDigit? c = some digit ∧ digit < base := by
  rw [digit?, Option.filter_eq_some_iff, decide_eq_true_eq]

/-- Digits are read one by one as what they stand for. -/
theorem forall₂_digit?_iff {base : Nat} {text : Text} {list : List Nat} :
    List.Forall₂ (fun c digit => digit? base c = some digit) text list ↔
      IsInBase base text ∧ list = text.map fun c => (hexDigit? c).getD 0 := by
  induction text generalizing list with
  | nil => simp [IsInBase, eq_comm]
  | cons c text ih =>
    constructor
    · intro read
      obtain ⟨digit, others, here, rest, rfl⟩ := List.forall₂_cons_left_iff.mp read
      obtain ⟨here, bound⟩ := digit?_eq_some_iff.mp here
      obtain ⟨inside, rfl⟩ := ih.mp rest
      refine ⟨List.forall_mem_cons.mpr ⟨⟨digit, bound, here⟩, inside⟩, ?_⟩
      rw [List.map_cons, here, Option.getD_some]
    · rintro ⟨inside, rfl⟩
      obtain ⟨⟨digit, bound, here⟩, inside⟩ := List.forall_mem_cons.mp inside
      rw [List.map_cons, here, Option.getD_some]
      exact .cons (digit?_eq_some_iff.mpr ⟨here, bound⟩) (ih.mpr ⟨inside, rfl⟩)

/-- A numeral is read exactly if it consists of digits, and then as their positional value. -/
theorem number?_eq_some_iff_positional {base number : Nat} {numeral : Text} :
    number? base numeral = some number ↔
      numeral ≠ [] ∧ IsInBase base numeral ∧ positional base numeral = number := by
  simp only [number?_eq_some_iff, forall₂_digit?_iff, positional, List.map_reverse]
  constructor
  · rintro ⟨list, some, ⟨inside, rfl⟩, value⟩
    rw [valueOf_eq_ofDigits] at value
    exact ⟨some, inside, value⟩
  · rintro ⟨some, inside, value⟩
    rw [← valueOf_eq_ofDigits] at value
    exact ⟨_, some, ⟨inside, rfl⟩, value⟩

theorem isInBase_ten_iff {text : Text} : IsInBase 10 text ↔ ∀ c ∈ text, c.isDigit = true := by
  refine forall₂_congr fun c _ => ?_
  constructor
  · rintro ⟨digit, bound, read⟩
    exact isDigit_of_hexDigit? read bound
  · intro isDigit
    have bounds : 0x30 ≤ c.toNat ∧ c.toNat ≤ 0x39 := Char.isDigit_iff_toNat.mp isDigit
    exact ⟨c.toNat - 0x30, by omega, if_pos isDigit⟩

theorem IsInBase.lower {base : Nat} {text : Text} (inside : IsInBase base text) :
    IsInBase base (lower text) := by
  intro c member
  obtain ⟨original, present, rfl⟩ := List.mem_map.mp member
  rw [hexDigit?_toLower]
  exact inside original present

theorem positional_lower (base : Nat) (text : Text) :
    positional base (lower text) = positional base text := by
  simp only [positional, lower, List.map_reverse, List.map_map, Function.comp_def, hexDigit?_toLower]

/-- The digits of a base of at most sixteen are letters and decimal digits. -/
theorem IsInBase.isAlphanum {base : Nat} {text : Text} (inside : IsInBase base text) {c : Char}
    (member : c ∈ text) : c.isAlphanum = true := by
  obtain ⟨digit, -, read⟩ := inside c member
  unfold hexDigit? at read
  split_ifs at read with isDigit small large
  · rw [Char.isAlphanum, isDigit, Bool.or_true]
  · have letter : c.isLower = true := Bool.and_eq_true_iff.mpr
      ⟨decide_eq_true small.1, decide_eq_true (Nat.le_trans small.2 (by decide : 'f'.toNat ≤ 'z'.toNat))⟩
    exact Bool.or_eq_true_iff.mpr (.inl (Bool.or_eq_true_iff.mpr (.inr letter)))
  · have letter : c.isUpper = true :=
      decide_eq_true ⟨large.1, Nat.le_trans large.2 (by decide : 'F'.toNat ≤ 'Z'.toNat)⟩
    exact Bool.or_eq_true_iff.mpr (.inl (Bool.or_eq_true_iff.mpr (.inl letter)))

/-- The numeral of a number is the one numeral without leading zeros that has it for its value. -/
theorem eq_decimal_iff {numeral : Text} {number : Nat} :
    numeral = decimal number ↔
      numeral ≠ [] ∧ IsInBase 10 numeral ∧ positional 10 numeral = number ∧
        (numeral.head? = some '0' → numeral = ['0']) := by
  constructor
  · rintro rfl
    obtain ⟨some, inside, value⟩ := number?_eq_some_iff_positional.mp (number?_decimal number)
    refine ⟨some, inside, value, fun leading => ?_⟩
    obtain rfl | positive := Nat.eq_zero_or_pos number
    · rw [decimal, digits_of_lt (by decide)]
      rfl
    · exact absurd leading (head?_decimal_ne_zero positive)
  · rintro ⟨some, inside, value, leading⟩
    exact eq_decimal_of_number? (number?_eq_some_iff_positional.mpr ⟨some, inside, value⟩) leading

end ReleaseTrigger.Text
