import Mathlib.Algebra.BigOperators.Fin
import ReleaseTrigger.Proofs.Text.Numeral
import ReleaseTrigger.Proofs.Text.Pieces
import ReleaseTrigger.Url.Ipv4

/-! # What a text for an address of version 4 denotes

`Spells` says in which ways a number is written between the dots, apart from how it is read: in decimal, in
octal after a zero, in hexadecimal after `0x`. All numbers but the last are octets from the top of the
address, and the last one fills the octets that remain; the address is then the sum of the numbers at their
places (`ofNumbers?_eq_some_iff`). Numbers that do not fit denote nothing, however the text goes on.
-/

namespace ReleaseTrigger.Ipv4

open Text (IsInBase positional)

/-! ## Numbers -/

/-- The ways to write a number. -/
inductive Spells : Text → Nat → Prop
  /-- Decimal digits of which the first is not zero. -/
  | decimal {digits : Text} (some : digits ≠ []) (inside : IsInBase 10 digits)
      (leading : digits.head? ≠ .some '0') : Spells digits (positional 10 digits)
  /-- A zero and octal digits, which may be missing. -/
  | octal {digits : Text} (inside : IsInBase 8 digits) : Spells ('0' :: digits) (positional 8 digits)
  /-- A zero, a mark and hexadecimal digits, which may be missing. -/
  | hexadecimal {mark : Char} {digits : Text} (isMark : mark = 'x' ∨ mark = 'X')
      (inside : IsInBase 16 digits) : Spells ('0' :: mark :: digits) (positional 16 digits)

/-- Missing digits denote zero. -/
theorem ite_isEmpty_eq_some_iff {base number : Nat} {digits : Text} :
    (if digits.isEmpty then some 0 else Text.number? base digits) = some number ↔
      IsInBase base digits ∧ positional base digits = number := by
  split_ifs with empty
  · obtain rfl := List.isEmpty_iff.mp empty
    rw [Option.some.injEq]
    exact ⟨fun zero => ⟨List.forall_mem_nil _, zero⟩, And.right⟩
  · have some : digits ≠ [] := mt List.isEmpty_iff.mpr empty
    rw [Text.number?_eq_some_iff_positional]
    exact and_iff_right some

/-- What is read as a number spells it. -/
theorem spells_of_number? {part : Text} {number : Nat} (read : number? part = some number) :
    Spells part number := by
  unfold number? at read
  split at read
  · cases read
  · cases read
    exact .octal (List.forall_mem_nil _)
  · obtain ⟨inside, rfl⟩ := ite_isEmpty_eq_some_iff.mp read
    exact .hexadecimal (.inl rfl) inside
  · obtain ⟨inside, rfl⟩ := ite_isEmpty_eq_some_iff.mp read
    exact .hexadecimal (.inr rfl) inside
  · obtain ⟨-, inside, rfl⟩ := Text.number?_eq_some_iff_positional.mp read
    exact .octal inside
  · rename_i other
    obtain ⟨some, inside, rfl⟩ := Text.number?_eq_some_iff_positional.mp read
    refine .decimal some inside fun leading => ?_
    obtain ⟨first, others, rfl⟩ := List.exists_cons_of_ne_nil some
    exact other others (congrArg (· :: others) (Option.some.inj leading))

/-- What spells a number is read as that. -/
theorem Spells.number?_eq {part : Text} {number : Nat} (spells : Spells part number) :
    number? part = some number := by
  cases spells with
  | decimal some inside leading =>
    have read := Text.number?_eq_some_iff_positional.mpr ⟨some, inside, rfl⟩
    obtain ⟨first, others, rfl⟩ := List.exists_cons_of_ne_nil some
    have nonzero : first ≠ '0' := by
      rintro rfl
      exact leading rfl
    rw [number?]
    · exact read
    all_goals simp [nonzero]
  | @octal digits inside =>
    cases digits with
    | nil => rfl
    | cons first others =>
      have unmarked : first ≠ 'x' ∧ first ≠ 'X' := by
        obtain ⟨digit, -, here⟩ := inside first (List.mem_cons_self ..)
        constructor <;> (rintro rfl; cases here)
      have read := Text.number?_eq_some_iff_positional.mpr ⟨List.cons_ne_nil first others, inside, rfl⟩
      rw [number?]
      · exact read
      all_goals simp [unmarked]
  | hexadecimal isMark inside =>
    have read := ite_isEmpty_eq_some_iff.mpr ⟨inside, rfl⟩
    rcases isMark with rfl | rfl
    · exact read
    · exact read

namespace Spells

variable {part : Text} {number : Nat} (spells : Spells part number)

include spells

theorem ne_nil : part ≠ [] := by
  cases spells with
  | decimal some => exact some
  | octal => exact List.cons_ne_nil _ _
  | hexadecimal => exact List.cons_ne_nil _ _

theorem isAlphanum {c : Char} (member : c ∈ part) : c.isAlphanum = true := by
  cases spells with
  | decimal _ inside => exact inside.isAlphanum member
  | octal inside =>
    rcases List.mem_cons.mp member with rfl | member
    · rfl
    · exact inside.isAlphanum member
  | hexadecimal isMark inside =>
    rcases List.mem_cons.mp member with rfl | member
    · rfl
    rcases List.mem_cons.mp member with rfl | member
    · rcases isMark with rfl | rfl <;> rfl
    · exact inside.isAlphanum member

/-- Capitals make no difference. -/
theorem lower : Spells (Text.lower part) number := by
  cases spells with
  | decimal some inside leading =>
    have small : ∀ c ∈ part, c.isUpper = false := fun c member =>
      Text.isUpper_of_isDigit (Text.isInBase_ten_iff.mp inside c member)
    rw [Text.lower_of_isUpper_eq_false small]
    exact .decimal some inside leading
  | octal inside =>
    rw [← Text.positional_lower]
    exact .octal inside.lower
  | @hexadecimal mark _ isMark inside =>
    have isMark : mark.toLower = 'x' ∨ mark.toLower = 'X' := by
      rcases isMark with rfl | rfl <;> exact .inl rfl
    rw [← Text.positional_lower]
    exact .hexadecimal isMark inside.lower

end Spells

theorem spells_decimal (number : Nat) : Spells (Text.decimal number) number := by
  obtain ⟨some, inside, value, -⟩ := Text.eq_decimal_iff.mp (rfl : Text.decimal number = _)
  obtain rfl | positive := Nat.eq_zero_or_pos number
  · rw [Text.decimal, Text.digits_of_lt (by decide)]
    exact .octal (List.forall_mem_nil _)
  · have spells := Spells.decimal some inside (Text.head?_decimal_ne_zero positive)
    rwa [value] at spells

/-! ## Dots -/

/-- Numbers, at least one, between dots; one more dot may stand at the end. -/
inductive Dotted : Text → List Nat → Prop
  | last {part : Text} {number : Nat} (spells : Spells part number) : Dotted part [number]
  | closed {part : Text} {number : Nat} (spells : Spells part number) : Dotted (part ++ ['.']) [number]
  | more {part text : Text} {number : Nat} {numbers : List Nat} (spells : Spells part number)
      (others : Dotted text numbers) : Dotted (part ++ '.' :: text) (number :: numbers)

namespace Dotted

variable {text : Text} {numbers : List Nat} (dotted : Dotted text numbers)

include dotted

theorem ne_nil : text ≠ [] := by
  cases dotted with
  | last spells => exact spells.ne_nil
  | closed spells => exact List.append_ne_nil_of_left_ne_nil spells.ne_nil _
  | more spells => exact List.append_ne_nil_of_left_ne_nil spells.ne_nil _

theorem mem {c : Char} (member : c ∈ text) : c.isAlphanum = true ∨ c = '.' := by
  induction dotted with
  | last spells => exact .inl (spells.isAlphanum member)
  | closed spells =>
    rcases List.mem_append.mp member with member | member
    · exact .inl (spells.isAlphanum member)
    · exact .inr (List.mem_singleton.mp member)
  | more spells _ ih =>
    rcases List.mem_append.mp member with member | member
    · exact .inl (spells.isAlphanum member)
    rcases List.mem_cons.mp member with rfl | member
    · exact .inr rfl
    · exact ih member

/-- Capitals make no difference. -/
theorem lower : Dotted (Text.lower text) numbers := by
  induction dotted with
  | last spells => exact .last spells.lower
  | closed spells =>
    rw [Text.lower, List.map_append]
    exact .closed spells.lower
  | more spells _ ih =>
    rw [Text.lower, List.map_append, List.map_cons]
    exact .more spells.lower ih

theorem numbers_ne_nil : numbers ≠ [] := by
  cases dotted with
  | last => exact List.cons_ne_nil _ _
  | closed => exact List.cons_ne_nil _ _
  | more => exact List.cons_ne_nil _ _

theorem exists_splitOn : ∃ parts, List.Forall₂ Spells parts numbers ∧
    (List.splitOn '.' text = parts ∨ List.splitOn '.' text = parts ++ [[]]) := by
  have single {part : Text} {number : Nat} (spells : Spells part number) :
      List.splitOn '.' part = [part] := by
    apply List.splitOn_eq_singleton
    intro member
    cases spells.isAlphanum member
  -- Only the innermost text can end in a dot; the parts before it are put in front of either form.
  induction dotted with
  | @last part _ spells => exact ⟨[part], .cons spells .nil, .inl (single spells)⟩
  | @closed part _ spells =>
    refine ⟨[part], .cons spells .nil, .inr ?_⟩
    rw [List.splitOn_append_cons_self, single spells]
    rfl
  | @more part _ _ _ spells _ ih =>
    obtain ⟨parts, spelled, divided⟩ := ih
    refine ⟨part :: parts, .cons spells spelled, ?_⟩
    rw [List.splitOn_append_cons_self, single spells]
    rcases divided with divided | divided
    · exact .inl (congrArg (part :: ·) divided)
    · exact .inr (congrArg (part :: ·) divided)

/-- There is a last number, which is read first from the end. -/
theorem exists_reverse_eq {parts : List Text} (spelled : List.Forall₂ Spells parts numbers) :
    ∃ last before number, parts.reverse = last :: before ∧ Spells last number := by
  have reversed := List.forall₂_reverse_iff.mpr spelled
  obtain ⟨front, number, rfl⟩ := (List.eq_nil_or_concat' numbers).resolve_left dotted.numbers_ne_nil
  rw [List.reverse_append, List.reverse_singleton, List.singleton_append] at reversed
  obtain ⟨last, before, spells, -, order⟩ := List.forall₂_cons_right_iff.mp reversed
  exact ⟨last, before, number, order, spells⟩

/-- What is between the dots is read number by number, and a dot at the end is not taken for the mark of
another part. -/
theorem forall₂_parts : List.Forall₂ Spells (parts text) numbers := by
  obtain ⟨found, spelled, divided⟩ := dotted.exists_splitOn
  obtain ⟨last, before, number, order, spells⟩ := dotted.exists_reverse_eq spelled
  have same : parts text = found := by
    rw [← List.reverse_reverse found, order]
    rcases divided with divided | divided
    · obtain ⟨c, rest, rfl⟩ := List.exists_cons_of_ne_nil spells.ne_nil
      rw [parts, divided, order]
    · rw [parts, divided, List.reverse_append, List.reverse_singleton, List.singleton_append, order]
  rwa [same]

theorem parse?_eq : parse? text = ofNumbers? numbers := by
  have read : (parts text).mapM number? = some numbers :=
    Text.mapM_eq_some_iff.mpr (dotted.forall₂_parts.imp fun _ _ => Spells.number?_eq)
  rw [parse?, read, Option.bind_some]

theorem endsInNumber : endsInNumber text = true := by
  obtain ⟨last, before, number, order, spells⟩ := dotted.exists_reverse_eq dotted.forall₂_parts
  rw [Ipv4.endsInNumber, ← List.head?_reverse, order]
  dsimp only [List.head?_cons]
  rw [spells.number?_eq, Option.isSome_some, Bool.or_true]

end Dotted

theorem render_eq (address : Ipv4) :
    render address = Text.decimal (address.toNat / 0x1000000 % 256) ++ '.' ::
      (Text.decimal (address.toNat / 0x10000 % 256) ++ '.' ::
        (Text.decimal (address.toNat / 0x100 % 256) ++ '.' :: Text.decimal (address.toNat % 256))) := by
  simp [render, octets, List.intercalate_cons_cons]

theorem dotted_render (address : Ipv4) : Dotted (render address) (octets address) := by
  rw [render_eq]
  exact .more (spells_decimal _) (.more (spells_decimal _) (.more (spells_decimal _)
    (.last (spells_decimal _))))

/-! ## Addresses -/

/-- The sum of numbers at their places, from the top octet on, and of a last one. -/
def total (before : List Nat) (last : Nat) : Nat :=
  ∑ place : Fin before.length, before.get place * 256 ^ (3 - place.val) + last

/-- At most four numbers, each an octet but the last, which fills the octets that remain. -/
structure Fits (before : List Nat) (last : Nat) : Prop where
  length_le : before.length ≤ 3
  octets : ∀ octet ∈ before, octet ≤ 255
  last_lt : last < 256 ^ (4 - before.length)

theorem total_eq {before : List Nat} (short : before.length ≤ 3) (last : Nat) :
    total before last = Text.valueOf 256 before * 256 ^ (4 - before.length) + last := by
  -- The places count from the top of four octets, so there is one sum for each number of parts.
  rcases before with _ | ⟨first, _ | ⟨second, _ | ⟨third, _ | ⟨fourth, others⟩⟩⟩⟩
  · simp [total, Text.valueOf]
  · simp [total, Text.valueOf]
  · simp [total, Text.valueOf, Fin.sum_univ_succ]
    omega
  · simp [total, Text.valueOf, Fin.sum_univ_succ]
    omega
  · simp only [List.length_cons] at short
    omega

/-- Numbers that fit take no more than 32 bits, so nothing is lost. -/
theorem Fits.total_lt {before : List Nat} {last : Nat} (fits : Fits before last) :
    total before last < 2 ^ 32 := by
  have bounds : ∀ octet ∈ before, octet < 256 :=
    fun octet member => Nat.lt_succ_of_le (fits.octets octet member)
  have front := Text.valueOf_lt (by decide) bounds
  have room : 256 ^ before.length * 256 ^ (4 - before.length) = 2 ^ 32 := by
    rw [← Nat.pow_add, Nat.add_sub_of_le (Nat.le_succ_of_le fits.length_le)]
    rfl
  have filled := Nat.mul_le_mul_right (256 ^ (4 - before.length)) (Nat.succ_le_of_lt front)
  have rest := fits.last_lt
  rw [Nat.succ_mul] at filled
  rw [total_eq fits.length_le]
  omega

/-- Numbers denote the address that is their sum at their places if they fit, and nothing otherwise. -/
theorem ofNumbers?_eq_some_iff {before : List Nat} {last : Nat} {address : Ipv4} :
    ofNumbers? (before ++ [last]) = some address ↔
      Fits before last ∧ address.toNat = total before last := by
  have room : 5 - (before ++ [last]).length = 4 - before.length := by
    rw [List.length_append, List.length_singleton]
    omega
  rw [ofNumbers?, List.reverse_append, List.reverse_singleton, List.singleton_append]
  dsimp only
  rw [room, Nat.pow_eq, List.reverse_reverse, List.all_reverse, List.length_append, List.length_singleton]
  split_ifs with inside
  · obtain ⟨short, octets, bound⟩ := inside
    have fits : Fits before last := by
      refine ⟨Nat.le_of_succ_le_succ short, fun octet member => ?_, bound⟩
      exact Nat.le_of_lt_succ (of_decide_eq_true (List.all_eq_true.mp octets octet member))
    rw [← total_eq fits.length_le last, Option.some.injEq]
    constructor
    · rintro rfl
      exact ⟨fits, Nat.mod_eq_of_lt fits.total_lt⟩
    · rintro ⟨-, same⟩
      apply BitVec.eq_of_toNat_eq
      rw [BitVec.toNat_ofNat, Nat.mod_eq_of_lt fits.total_lt, same]
  · constructor
    · rintro ⟨⟩
    · rintro ⟨⟨short, octets, bound⟩, -⟩
      refine absurd ⟨Nat.succ_le_succ short, List.all_eq_true.mpr fun octet member => ?_, bound⟩ inside
      exact decide_eq_true (Nat.lt_succ_of_le (octets octet member))

theorem ofNumbers?_eq_none_iff {before : List Nat} {last : Nat} :
    ofNumbers? (before ++ [last]) = none ↔ ¬Fits before last := by
  rw [Option.eq_none_iff_forall_ne_some]
  constructor
  · intro refused fits
    refine refused (BitVec.ofNat 32 (total before last)) (ofNumbers?_eq_some_iff.mpr ⟨fits, ?_⟩)
    exact Nat.mod_eq_of_lt fits.total_lt
  · intro outside address denoted
    exact outside (ofNumbers?_eq_some_iff.mp denoted).1

end ReleaseTrigger.Ipv4
