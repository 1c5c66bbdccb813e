import ReleaseTrigger.Proofs.Url.Ipv6.Notation

/-! # Written addresses of version 6

`IsCanonical` says what the canonical form of an address is: numerals in lower case without leading zeros
between colons, where two colons stand for the first of the longest runs of two or more zero pieces.
Every address has one canonical form, and that is the one which is written (`isCanonical_iff`). The form
denotes the address, so an address is read back from it.
-/

namespace ReleaseTrigger.Ipv6

/-! ## Numerals -/

/-- The digits of a piece in lower case, without leading zeros. -/
def IsNumeral (digits : Text) (piece : BitVec 16) : Prop :=
  Text.number? 16 digits = some piece.toNat ∧ (∀ c ∈ digits, c.isUpper = false) ∧
    (digits.head? = some '0' → digits = ['0'])

theorem isNumeral_iff {digits : Text} {piece : BitVec 16} :
    IsNumeral digits piece ↔ digits = Text.hexadecimal piece.toNat := by
  constructor
  · rintro ⟨read, lower, leading⟩
    exact Text.eq_map_digits_of_number? (by decide) read lower leading
  · rintro rfl
    refine ⟨Text.number?_hexadecimal _, fun c member => Text.isUpper_of_mem_hexadecimal member, ?_⟩
    intro leading
    have zero : piece.toNat = 0 := by
      by_contra some
      exact Text.head?_map_digits_ne_zero (by decide) (by decide) (Nat.pos_of_ne_zero some) leading
    rw [zero, Text.hexadecimal, Text.digits_of_lt (by decide)]
    rfl

theorem forall₂_isNumeral_iff {texts : List Text} {pieces : List (BitVec 16)} :
    List.Forall₂ IsNumeral texts pieces ↔
      texts = pieces.map fun piece => Text.hexadecimal piece.toNat := by
  have same : IsNumeral = fun digits piece => digits = Text.hexadecimal piece.toNat := by
    funext digits piece
    exact propext isNumeral_iff
  rw [same, ← List.forall₂_map_right_iff (R := (· = ·)), List.forall₂_eq_eq_eq]

theorem IsNumeral.isPiece {digits : Text} {piece : BitVec 16} (numeral : IsNumeral digits piece) :
    IsPiece digits piece := by
  refine ⟨?_, numeral.1⟩
  rw [isNumeral_iff.mp numeral]
  exact Text.length_hexadecimal_le piece.isLt

/-! ## Runs of zero pieces -/

/-- So many pieces from a position on are zero. -/
def IsRun (pieces : List (BitVec 16)) (start length : Nat) : Prop :=
  ∃ before after, before.length = start ∧ pieces = before ++ List.replicate length 0 ++ after

/-- No run is longer, and none of its length comes before it. -/
structure IsFirstLongest (pieces : List (BitVec 16)) (start length : Nat) : Prop where
  run : IsRun pieces start length
  first : ∀ start' length', IsRun pieces start' length' →
    length' < length ∨ length' = length ∧ start ≤ start'

theorem IsFirstLongest.unique {pieces : List (BitVec 16)} {start start' length length' : Nat}
    (run : IsFirstLongest pieces start length) (run' : IsFirstLongest pieces start' length') :
    start = start' ∧ length = length' := by
  have first := run.first start' length' run'.run
  have first' := run'.first start length run.run
  omega

section Runs

variable {piece : BitVec 16} {pieces : List (BitVec 16)} {start length : Nat}

theorem isRun_zeros (pieces : List (BitVec 16)) : IsRun pieces 0 (zeros pieces) := by
  have same : pieces.takeWhile (· == 0) = List.replicate (zeros pieces) 0 := by
    apply List.eq_replicate_of_mem
    intro other member
    exact eq_of_beq (List.all_eq_true.mp List.all_takeWhile other member)
  refine ⟨[], pieces.dropWhile (· == 0), rfl, ?_⟩
  rw [List.nil_append, ← same, List.takeWhile_append_dropWhile]

/-- No run at the beginning is longer than the zeros there. -/
theorem IsRun.le_zeros (run : IsRun pieces 0 length) : length ≤ zeros pieces := by
  obtain ⟨before, after, empty, rfl⟩ := run
  have zero : ∀ other ∈ List.replicate length (0 : BitVec 16), (other == 0) = true := by
    intro other member
    exact beq_iff_eq.mpr (List.eq_of_mem_replicate member)
  rw [List.length_eq_zero_iff.mp empty, List.nil_append, zeros, List.takeWhile_append_of_pos zero,
    List.length_append, List.length_replicate]
  exact Nat.le_add_right ..

theorem isRun_cons_succ : IsRun (piece :: pieces) (start + 1) length ↔ IsRun pieces start length := by
  constructor
  · rintro ⟨before, after, position, whole⟩
    obtain ⟨other, before, rfl⟩ := List.exists_cons_of_length_eq_add_one position
    rw [List.cons_append, List.cons_append, List.cons.injEq] at whole
    exact ⟨before, after, Nat.succ.inj position, whole.2⟩
  · rintro ⟨before, after, rfl, rfl⟩
    exact ⟨piece :: before, after, rfl, rfl⟩

/-- The run that is found is the first of the longest, from whichever position on it is counted. -/
theorem isFirstLongest_longestRun (position : Nat) (pieces : List (BitVec 16)) :
    ∃ start, (longestRun position pieces).1 = position + start ∧
      IsFirstLongest pieces start (longestRun position pieces).2 := by
  induction pieces generalizing position with
  | nil =>
    refine ⟨0, rfl, ⟨[], [], rfl, rfl⟩, ?_⟩
    rintro start' length' ⟨before, after, -, whole⟩
    have empty := congrArg List.length whole
    simp only [List.length_nil, List.length_append, List.length_replicate] at empty
    exact .inr ⟨by rw [longestRun]; omega, Nat.zero_le _⟩
  | cons piece rest ih =>
    obtain ⟨start, later, run, first⟩ := ih (position + 1)
    rw [longestRun]
    split_ifs with longer
    · refine ⟨0, rfl, isRun_zeros _, fun start' length' run' => ?_⟩
      cases start' with
      | zero =>
        have bound := run'.le_zeros
        omega
      | succ start' =>
        have bound := first start' length' (isRun_cons_succ.mp run')
        omega
    · refine ⟨start + 1, by omega, isRun_cons_succ.mpr run, fun start' length' run' => ?_⟩
      cases start' with
      | zero =>
        have bound := run'.le_zeros
        omega
      | succ start' =>
        have bound := first start' length' (isRun_cons_succ.mp run')
        omega

end Runs

/-! ## The canonical form -/

/-- The canonical form of an address. -/
inductive IsCanonical (address : Ipv6) (text : Text) : Prop
  /-- There are no two zero pieces in a row, and all pieces are written. -/
  | whole {texts : List Text} (numerals : List.Forall₂ IsNumeral texts address.pieces)
      (short : ∀ start length, IsRun address.pieces start length → length < 2)
      (written : text = List.intercalate [':'] texts)
  /-- Two colons stand for the first of the longest runs, and all other pieces are written. -/
  | gapped {before after : List Text} {start length : Nat}
      (run : IsFirstLongest address.pieces start length) (long : 2 ≤ length)
      (numerals : List.Forall₂ IsNumeral before (address.pieces.take start))
      (numerals' : List.Forall₂ IsNumeral after (address.pieces.drop (start + length)))
      (written : text = List.intercalate [':'] before ++ ':' :: ':' :: List.intercalate [':'] after)

/-- An address has one canonical form, which is the one that is written. -/
theorem isCanonical_iff {address : Ipv6} {text : Text} :
    IsCanonical address text ↔ text = render address := by
  obtain ⟨start, position, found⟩ := isFirstLongest_longestRun 0 address.pieces
  rw [Nat.zero_add] at position
  rw [render]
  generalize longestRun 0 address.pieces = longest at position found
  obtain ⟨start', length⟩ := longest
  obtain rfl : start' = start := position
  dsimp only
  constructor
  · rintro (⟨numerals, short, rfl⟩ | ⟨run, long, numerals, numerals', rfl⟩)
    · rw [if_pos (short _ _ found.run), joined, forall₂_isNumeral_iff.mp numerals]
    · obtain ⟨rfl, rfl⟩ := run.unique found
      rw [if_neg (Nat.not_lt.mpr long), forall₂_isNumeral_iff.mp numerals,
        forall₂_isNumeral_iff.mp numerals', List.append_assoc]
      rfl
  · rintro rfl
    split_ifs with short
    · refine .whole (forall₂_isNumeral_iff.mpr rfl) (fun start' length' run => ?_) rfl
      have bound := found.first start' length' run
      omega
    · rw [List.append_assoc]
      exact .gapped found (Nat.not_lt.mp short) (forall₂_isNumeral_iff.mpr rfl)
        (forall₂_isNumeral_iff.mpr rfl) rfl

theorem isCanonical_render (address : Ipv6) : IsCanonical address (render address) :=
  isCanonical_iff.mpr rfl

/-! ## Reading it back -/

theorem IsRun.eq_append {pieces : List (BitVec 16)} {start length : Nat} (run : IsRun pieces start length) :
    pieces = pieces.take start ++ List.replicate length 0 ++ pieces.drop (start + length) := by
  obtain ⟨before, after, rfl, rfl⟩ := run
  have rest : before.length + length = (before ++ List.replicate length (0 : BitVec 16)).length := by
    rw [List.length_append, List.length_replicate]
  rw [rest, List.drop_left, List.append_assoc before, List.take_left, List.append_assoc]

theorem forall₂_isPiece {texts : List Text} {pieces : List (BitVec 16)}
    (numerals : List.Forall₂ IsNumeral texts pieces) : List.Forall₂ IsPiece texts pieces :=
  numerals.imp fun _ _ => IsNumeral.isPiece

/-- The canonical form of an address denotes it. -/
theorem IsCanonical.denotes {address : Ipv6} {text : Text} (canonical : IsCanonical address text) :
    Denotes text address := by
  obtain ⟨numerals, -, written⟩ | ⟨run, long, numerals, numerals', written⟩ := canonical
  · exact .whole (.of_forall₂ (forall₂_isPiece numerals)) written
  · exact .gapped (forall₂_isPiece numerals) (.of_forall₂ (forall₂_isPiece numerals')) (by omega)
      run.run.eq_append written

/-- An address is read back from its canonical form. -/
theorem parse?_render (address : Ipv6) : parse? (render address) = some address :=
  parse?_eq_some_iff.mpr (isCanonical_render address).denotes

theorem render_injective : Function.Injective render := by
  intro first second same
  have read := parse?_render first
  rw [same, parse?_render, Option.some.injEq] at read
  exact read.symm

theorem mem_render {address : Ipv6} {c : Char} (member : c ∈ render address) :
    c.isAlphanum = true ∨ c = ':' := by
  have inner {texts : List Text} {pieces : List (BitVec 16)}
      (numerals : List.Forall₂ IsNumeral texts pieces) (member : c ∈ List.intercalate [':'] texts) :
      c.isAlphanum = true ∨ c = ':' := by
    obtain member | ⟨part, present, member⟩ := Text.mem_intercalate member
    · exact .inr (List.mem_singleton.mp member)
    · rw [forall₂_isNumeral_iff.mp numerals] at present
      obtain ⟨piece, -, rfl⟩ := List.mem_map.mp present
      exact .inl (Text.isAlphanum_of_mem_hexadecimal member)
  obtain ⟨numerals, -, written⟩ | ⟨-, -, numerals, numerals', written⟩ := isCanonical_render address
  · rw [written] at member
    exact inner numerals member
  · rw [written, List.mem_append, List.mem_cons, List.mem_cons] at member
    obtain member | rfl | rfl | member := member
    · exact inner numerals member
    · exact .inr rfl
    · exact .inr rfl
    · exact inner numerals' member

end ReleaseTrigger.Ipv6
