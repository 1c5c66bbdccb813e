import ReleaseTrigger.Proofs.Text.Numeral
import ReleaseTrigger.Proofs.Text.Pieces
import ReleaseTrigger.Url.Ipv6

/-! # What a text for an address of version 6 denotes

`Denotes` says which texts denote which addresses, apart from how they are read: hexadecimal pieces between
colons, where the last text may be four decimal octets for two pieces, and two colons may stand once for
the zero pieces that are missing. Reading finds the address exactly if there is one (`parse?_eq_some_iff`).
Texts between single colons are not empty, so two colons in a row are where pieces are missing and
nowhere else.
-/

namespace ReleaseTrigger.Ipv6

/-! ## Texts between colons -/

/-- Texts that single colons divide: none is empty, and none holds a colon. -/
def AreBetween (texts : List Text) : Prop := ∀ text ∈ texts, text ≠ [] ∧ ∀ c ∈ text, c ≠ ':'

section Between

variable {first : Text} {texts : List Text}

theorem splitOn_intercalate (between : AreBetween texts) (some : texts ≠ []) :
    List.splitOn ':' (List.intercalate [':'] texts) = texts :=
  List.splitOn_intercalate ':' (fun text member colon => (between text member).2 ':' colon rfl) some

/-- What is joined does not begin with a colon. -/
theorem exists_intercalate_eq_cons (between : AreBetween (first :: texts)) :
    ∃ c rest, List.intercalate [':'] (first :: texts) = c :: rest ∧ c ≠ ':' := by
  obtain ⟨some, plain⟩ := between first (List.mem_cons_self ..)
  obtain ⟨c, rest, rfl⟩ := List.exists_cons_of_ne_nil some
  have colonless : c ≠ ':' := plain c (List.mem_cons_self ..)
  cases texts with
  | nil => exact ⟨c, rest, List.intercalate_singleton, colonless⟩
  | cons second texts =>
    refine ⟨c, rest ++ ':' :: List.intercalate [':'] (second :: texts), ?_, colonless⟩
    simp only [List.intercalate_cons_cons, List.cons_append, List.append_assoc, List.nil_append]

theorem side?_intercalate (between : AreBetween texts) :
    side? (List.intercalate [':'] texts) = run? texts := by
  cases texts with
  | nil => rfl
  | cons first texts =>
    obtain ⟨c, rest, same, -⟩ := exists_intercalate_eq_cons between
    rw [side?, if_neg (by simp [same]), splitOn_intercalate between (List.cons_ne_nil _ _)]

end Between

/-! ## The gap -/

theorem cutAtGap_append_of_unmarked {text : Text} (unmarked : ∀ c ∈ text, c ≠ ':') (rest : Text) :
    cutAtGap (text ++ rest) = (cutAtGap rest).map fun (before, after) => (text ++ before, after) := by
  induction text with
  | nil => simp
  | cons c text ih =>
    have here := unmarked c (List.mem_cons_self ..)
    rw [List.cons_append, cutAtGap, ih fun d member => unmarked d (List.mem_cons_of_mem _ member),
      Option.map_map]
    · rfl
    · rintro others rfl
      exact (here rfl).elim

/-- There is no gap between single colons, so the first one is where the joined texts end. -/
theorem cutAtGap_intercalate_append {texts : List Text} (between : AreBetween texts) (rest : Text) :
    cutAtGap (List.intercalate [':'] texts ++ rest) =
      (cutAtGap rest).map fun (before, after) => (List.intercalate [':'] texts ++ before, after) := by
  induction texts with
  | nil => simp
  | cons first texts ih =>
    obtain ⟨⟨-, unmarked⟩, others⟩ := List.forall_mem_cons.mp between
    cases texts with
    | nil =>
      rw [List.intercalate_singleton]
      exact cutAtGap_append_of_unmarked unmarked rest
    | cons second texts =>
      have split : List.intercalate [':'] (first :: second :: texts) =
          first ++ ':' :: List.intercalate [':'] (second :: texts) := by
        simp only [List.intercalate_cons_cons, List.append_assoc, List.cons_append, List.nil_append]
      obtain ⟨c, tail, same, colonless⟩ := exists_intercalate_eq_cons others
      have single : cutAtGap (':' :: (List.intercalate [':'] (second :: texts) ++ rest)) =
          (cutAtGap (List.intercalate [':'] (second :: texts) ++ rest)).map fun (before, after) =>
            (':' :: before, after) := by
        rw [cutAtGap]
        rw [same]
        rintro others' - next
        exact colonless (List.cons.inj next).1
      rw [split, List.append_assoc, cutAtGap_append_of_unmarked unmarked, List.cons_append, single,
        ih others, Option.map_map, Option.map_map]
      simp only [Function.comp_def, List.append_assoc, List.cons_append]

/-- The gap is two colons. -/
theorem eq_of_cutAtGap {text before after : Text} (gap : cutAtGap text = some (before, after)) :
    text = before ++ ':' :: ':' :: after := by
  fun_induction cutAtGap text generalizing before with
  | case1 rest =>
    cases gap
    rfl
  | case2 c rest _ ih =>
    obtain ⟨⟨front, rest'⟩, gap, same⟩ := Option.map_eq_some_iff.mp gap
    cases same
    rw [ih gap, List.cons_append]
  | case3 => cases gap

/-! ## Pieces -/

/-- Digits that denote a piece: one to four of them, hexadecimal, in either case. -/
def IsPiece (digits : Text) (piece : BitVec 16) : Prop :=
  digits.length ≤ 4 ∧ Text.number? 16 digits = some piece.toNat

/-- A text that denotes two pieces: four decimal octets, written without leading zeros, between dots. -/
def IsDotted (text : Text) (first second : BitVec 16) : Prop :=
  ∃ a b c d, (∀ octet ∈ [a, b, c, d], octet < 256) ∧
    text = List.intercalate ['.'] ([a, b, c, d].map Text.decimal) ∧
    first.toNat = a * 256 + b ∧ second.toNat = c * 256 + d

/-- Texts and the pieces they denote, one for each text, but two for the last text if that is dotted. -/
inductive Reads : List Text → List (BitVec 16) → Prop
  | nil : Reads [] []
  | dotted {text : Text} {first second : BitVec 16} (octets : IsDotted text first second) :
      Reads [text] [first, second]
  | cons {digits : Text} {piece : BitVec 16} {texts : List Text} {pieces : List (BitVec 16)}
      (here : IsPiece digits piece) (others : Reads texts pieces) :
      Reads (digits :: texts) (piece :: pieces)

/-- Text that denotes an address. -/
inductive Denotes (text : Text) (address : Ipv6) : Prop
  /-- All pieces are there. -/
  | whole {texts : List Text} (reads : Reads texts address.pieces)
      (written : text = List.intercalate [':'] texts)
  /-- Two colons stand for at least one piece, all of which are zero. -/
  | gapped {before after : List Text} {left right : List (BitVec 16)} {missing : Nat}
      (pieces : List.Forall₂ IsPiece before left) (reads : Reads after right) (gap : 0 < missing)
      (zeros : address.pieces = left ++ List.replicate missing 0 ++ right)
      (written : text = List.intercalate [':'] before ++ ':' :: ':' :: List.intercalate [':'] after)

theorem piece?_eq_some_iff {digits : Text} {piece : BitVec 16} :
    piece? digits = some piece ↔ IsPiece digits piece := by
  unfold piece? IsPiece
  split_ifs with short
  · rw [Option.map_eq_some_iff]
    constructor
    · rintro ⟨number, read, rfl⟩
      have bound : number < 2 ^ 16 :=
        Nat.lt_of_lt_of_le (Text.lt_of_number? (by decide) read) (Nat.pow_le_pow_right (by decide) short)
      rw [read, BitVec.toNat_ofNat, Nat.mod_eq_of_lt bound]
      exact ⟨short, rfl⟩
    · rintro ⟨-, read⟩
      exact ⟨piece.toNat, read, by rw [BitVec.ofNat_toNat, BitVec.setWidth_eq]⟩
  · simp [short]

theorem octet?_eq_some_iff {digits : Text} {octet : Nat} :
    octet? digits = some octet ↔ octet < 256 ∧ digits = Text.decimal octet := by
  constructor
  · intro read
    unfold octet? at read
    split at read
    · cases read
    · rename_i single
      split_ifs at read
      obtain ⟨number, bound⟩ := Option.filter_eq_some_iff.mp read
      refine ⟨of_decide_eq_true bound, Text.eq_decimal_of_number? number fun leading => ?_⟩
      cases digits with
      | nil => cases leading
      | cons first others =>
        obtain rfl := Option.some.inj leading
        cases others with
        | nil => rfl
        | cons second others => exact (single second others rfl).elim
  · rintro ⟨bound, rfl⟩
    have short := Text.length_decimal_le bound
    unfold octet?
    split
    · rename_i second others leading
      have zero : octet = 0 := by
        by_contra some
        exact Text.head?_decimal_ne_zero (Nat.pos_of_ne_zero some) (by rw [leading]; rfl)
      rw [zero, Text.decimal, Text.digits_of_lt (by decide)] at leading
      cases leading
    · rw [if_pos short, Text.number?_decimal]
      simp [bound]

/-- Decimal octets are not empty and hold neither colons nor dots. -/
theorem plain_decimal {octet : Nat} {c : Char} (member : c ∈ Text.decimal octet) : c ≠ ':' ∧ c ≠ '.' := by
  have digit := Text.isDigit_of_mem_decimal member
  constructor <;> (rintro rfl; cases digit)

theorem mapM_octet?_eq_some_iff {texts : List Text} {octets : List Nat} :
    texts.mapM octet? = some octets ↔
      (∀ octet ∈ octets, octet < 256) ∧ texts = octets.map Text.decimal := by
  simp only [Text.mapM_eq_some_iff, octet?_eq_some_iff]
  induction octets generalizing texts with
  | nil => simp
  | cons octet octets ih =>
    rw [List.forall₂_cons_right_iff, List.forall_mem_cons, List.map_cons]
    constructor
    · rintro ⟨_, others, ⟨bound, rfl⟩, rest, rfl⟩
      obtain ⟨bounds, rfl⟩ := ih.mp rest
      exact ⟨⟨bound, bounds⟩, rfl⟩
    · rintro ⟨⟨bound, bounds⟩, rfl⟩
      exact ⟨_, _, ⟨bound, rfl⟩, ih.mpr ⟨bounds, rfl⟩, rfl⟩

theorem tail?_eq_some_iff {text : Text} {pieces : List (BitVec 16)} :
    tail? text = some pieces ↔ ∃ first second, pieces = [first, second] ∧ IsDotted text first second := by
  have value {high low : Nat} (bound : high < 256) (bound' : low < 256) :
      (BitVec.ofNat 16 (high * 256 + low)).toNat = high * 256 + low := by
    rw [BitVec.toNat_ofNat]
    exact Nat.mod_eq_of_lt (by omega)
  unfold tail?
  constructor
  · intro read
    split at read
    · rename_i a b c d octets
      cases read
      obtain ⟨bounds, divided⟩ := mapM_octet?_eq_some_iff.mp octets
      have whole : text = List.intercalate ['.'] ([a, b, c, d].map Text.decimal) := by
        rw [← divided, List.intercalate_splitOn]
      refine ⟨_, _, rfl, a, b, c, d, bounds, whole, ?_, ?_⟩
      · exact value (bounds a (by simp)) (bounds b (by simp))
      · exact value (bounds c (by simp)) (bounds d (by simp))
    · cases read
  · rintro ⟨first, second, rfl, a, b, c, d, bounds, rfl, high, low⟩
    have divided : List.splitOn '.' (List.intercalate ['.'] ([a, b, c, d].map Text.decimal)) =
        [a, b, c, d].map Text.decimal := by
      apply List.splitOn_intercalate '.' _ (by simp)
      intro part member dot
      obtain ⟨octet, -, rfl⟩ := List.mem_map.mp member
      exact (plain_decimal dot).2 rfl
    rw [divided, mapM_octet?_eq_some_iff.mpr ⟨bounds, rfl⟩]
    simp only [← high, ← low, BitVec.ofNat_toNat, BitVec.setWidth_eq]

/-- Only a dotted text has dots. -/
theorem IsPiece.plain {digits : Text} {piece : BitVec 16} (isPiece : IsPiece digits piece) :
    digits ≠ [] ∧ ∀ c ∈ digits, c ≠ ':' ∧ c ≠ '.' := by
  obtain ⟨-, some, -, -⟩ := Text.number?_eq_some_iff.mp isPiece.2
  refine ⟨some, fun c member => ?_⟩
  obtain ⟨digit, isDigit⟩ := Text.exists_digit?_of_number? isPiece.2 member
  constructor <;> (rintro rfl; cases isDigit)

theorem IsDotted.plain {text : Text} {first second : BitVec 16} (dotted : IsDotted text first second) :
    text ≠ [] ∧ '.' ∈ text ∧ ∀ c ∈ text, c ≠ ':' := by
  obtain ⟨a, b, c, d, -, rfl, -, -⟩ := dotted
  have dot : '.' ∈ List.intercalate ['.'] ([a, b, c, d].map Text.decimal) := by
    simp [List.intercalate_cons_cons]
  refine ⟨List.ne_nil_of_mem dot, dot, fun c member => ?_⟩
  obtain member | ⟨part, present, member⟩ := Text.mem_intercalate member
  · rw [List.mem_singleton.mp member]
    decide
  · obtain ⟨octet, -, rfl⟩ := List.mem_map.mp present
    exact (plain_decimal member).1

theorem run?_eq_some_iff {texts : List Text} {pieces : List (BitVec 16)} :
    run? texts = some pieces ↔ Reads texts pieces := by
  constructor
  · intro read
    fun_induction run? texts generalizing pieces with
    | case1 =>
      cases read
      exact .nil
    | case2 last dots =>
      obtain ⟨first, second, rfl, dotted⟩ := tail?_eq_some_iff.mp read
      exact .dotted dotted
    | case3 last dotless =>
      obtain ⟨piece, here, rfl⟩ := Option.map_eq_some_iff.mp read
      exact .cons (piece?_eq_some_iff.mp here) .nil
    | case4 first others _ ih =>
      simp only [Option.bind_eq_bind, Option.bind_eq_some_iff] at read
      obtain ⟨piece, here, rest, read, same⟩ := read
      cases same
      exact .cons (piece?_eq_some_iff.mp here) (ih read)
  · intro reads
    induction reads with
    | nil => rfl
    | dotted octets =>
      rw [run?, if_pos (List.contains_iff_mem.mpr octets.plain.2.1)]
      exact tail?_eq_some_iff.mpr ⟨_, _, rfl, octets⟩
    | @cons digits piece texts pieces here others ih =>
      cases texts with
      | nil =>
        cases others
        rw [run?, if_neg, piece?_eq_some_iff.mpr here]
        · rfl
        · rw [List.contains_iff_mem]
          exact fun member => (here.plain.2 '.' member).2 rfl
      | cons second texts =>
        rw [run?, piece?_eq_some_iff.mpr here, ih]
        · rfl
        · simp

theorem Reads.areBetween {texts : List Text} {pieces : List (BitVec 16)} (reads : Reads texts pieces) :
    AreBetween texts := by
  induction reads with
  | nil => simp [AreBetween]
  | dotted octets =>
    obtain ⟨some, -, colonless⟩ := octets.plain
    exact List.forall_mem_singleton.mpr ⟨some, colonless⟩
  | cons here _ ih =>
    obtain ⟨some, plain⟩ := here.plain
    exact List.forall_mem_cons.mpr ⟨⟨some, fun c member => (plain c member).1⟩, ih⟩

/-- Without dots there are only hexadecimal pieces. -/
theorem Reads.forall₂ {texts : List Text} {pieces : List (BitVec 16)} (reads : Reads texts pieces)
    (dotless : ∀ text ∈ texts, '.' ∉ text) : List.Forall₂ IsPiece texts pieces := by
  induction reads with
  | nil => exact .nil
  | dotted octets => exact absurd octets.plain.2.1 (dotless _ (List.mem_singleton_self _))
  | cons here _ ih => exact .cons here (ih (List.forall_mem_cons.mp dotless).2)

/-- There are no dots between hexadecimal pieces. -/
theorem dot_not_mem_intercalate {texts : List Text} :
    '.' ∉ List.intercalate [':'] texts ↔ ∀ text ∈ texts, '.' ∉ text := by
  constructor
  · intro dotless text present dot
    exact dotless (Text.mem_intercalate_of_mem _ present dot)
  · intro dotless dot
    obtain dot | ⟨text, present, dot⟩ := Text.mem_intercalate dot
    · exact absurd dot (by decide)
    · exact dotless text present dot

theorem dot_not_mem_of_forall₂ {texts : List Text} {pieces : List (BitVec 16)}
    (each : List.Forall₂ IsPiece texts pieces) : ∀ text ∈ texts, '.' ∉ text := by
  induction each with
  | nil => simp
  | cons here _ ih => exact List.forall_mem_cons.mpr ⟨fun dot => (here.plain.2 '.' dot).2 rfl, ih⟩

theorem Reads.of_forall₂ {texts : List Text} {pieces : List (BitVec 16)}
    (each : List.Forall₂ IsPiece texts pieces) : Reads texts pieces := by
  induction each with
  | nil => exact .nil
  | cons here _ ih => exact .cons here ih

theorem side?_eq_some_iff {text : Text} {pieces : List (BitVec 16)} :
    side? text = some pieces ↔ ∃ texts, Reads texts pieces ∧ text = List.intercalate [':'] texts := by
  constructor
  · intro read
    unfold side? at read
    split_ifs at read with empty
    · cases read
      exact ⟨[], .nil, List.isEmpty_iff.mp empty⟩
    · exact ⟨_, run?_eq_some_iff.mp read, (List.intercalate_splitOn ':').symm⟩
  · rintro ⟨texts, reads, rfl⟩
    rw [side?_intercalate reads.areBetween]
    exact run?_eq_some_iff.mpr reads

theorem ofPieces?_eq_some_iff {pieces : List (BitVec 16)} {address : Ipv6} :
    ofPieces? pieces = some address ↔ address.pieces = pieces := by
  unfold ofPieces?
  obtain ⟨given, length⟩ := address
  split_ifs with complete
  · simp [eq_comm]
  · simp only [false_iff]
    rintro rfl
    exact complete length

/-- Reading finds the address that a text denotes. -/
theorem parse?_eq_some_iff {text : Text} {address : Ipv6} :
    parse? text = some address ↔ Denotes text address := by
  constructor
  · intro parsed
    unfold parse? at parsed
    split at parsed
    · obtain ⟨pieces, read, complete⟩ := Option.bind_eq_some_iff.mp parsed
      obtain rfl := ofPieces?_eq_some_iff.mp complete
      exact .whole (run?_eq_some_iff.mp read) (List.intercalate_splitOn ':').symm
    · rename_i before after gap
      split_ifs at parsed with dots
      · cases parsed
      simp only [Option.bind_eq_bind, Option.bind_eq_some_iff] at parsed
      obtain ⟨left, read, right, read', complete⟩ := parsed
      split_ifs at complete with short
      obtain ⟨texts, reads, rfl⟩ := side?_eq_some_iff.mp read
      obtain ⟨texts', reads', rfl⟩ := side?_eq_some_iff.mp read'
      rw [List.contains_iff_mem] at dots
      have dotless := dot_not_mem_intercalate.mp dots
      exact .gapped (reads.forall₂ dotless) reads' (by omega) (ofPieces?_eq_some_iff.mp complete)
        (eq_of_cutAtGap gap)
  · intro denotes
    cases denotes with
    | @whole texts reads written =>
      have some : texts ≠ [] := by
        rintro rfl
        have read := run?_eq_some_iff.mpr reads
        rw [run?, Option.some.injEq] at read
        exact absurd (read ▸ address.length_pieces) (by decide)
      have gapless := cutAtGap_intercalate_append reads.areBetween []
      rw [List.append_nil] at gapless
      rw [written, parse?, gapless]
      simp only [cutAtGap, Option.map_none, splitOn_intercalate reads.areBetween some,
        run?_eq_some_iff.mpr reads, Option.bind_some, ofPieces?_eq_some_iff]
    | @gapped before after left right missing pieces reads gap zeros written =>
      have reads' := Reads.of_forall₂ pieces
      have length := congrArg List.length zeros
      rw [address.length_pieces, List.length_append, List.length_append, List.length_replicate] at length
      have dotless : ¬(List.intercalate [':'] before).contains '.' = true := by
        rw [List.contains_iff_mem]
        exact dot_not_mem_intercalate.mpr (dot_not_mem_of_forall₂ pieces)
      have found := cutAtGap_intercalate_append reads'.areBetween (':' :: ':' :: List.intercalate [':'] after)
      rw [written, parse?, found]
      simp only [cutAtGap, Option.map_some, List.append_nil, if_neg dotless,
        side?_eq_some_iff.mpr ⟨_, reads', rfl⟩, side?_eq_some_iff.mpr ⟨_, reads, rfl⟩,
        Option.bind_eq_bind, Option.bind_some]
      rw [if_pos (by omega), show 8 - left.length - right.length = missing by omega, ← zeros,
        ofPieces?_eq_some_iff]

/-! ## What such a text consists of -/

/-- A character that a text for an address may hold. -/
def isAddressChar (c : Char) : Bool := (Text.hexDigit? c).isSome || c == ':' || c == '.'

theorem IsPiece.all {digits : Text} {piece : BitVec 16} (isPiece : IsPiece digits piece) :
    ∀ c ∈ digits, isAddressChar c = true := by
  intro c member
  obtain ⟨digit, isDigit⟩ := Text.exists_digit?_of_number? isPiece.2 member
  rw [isAddressChar, (Option.filter_eq_some_iff.mp isDigit).1]
  rfl

theorem IsDotted.all {text : Text} {first second : BitVec 16} (dotted : IsDotted text first second) :
    ∀ c ∈ text, isAddressChar c = true := by
  obtain ⟨a, b, c, d, -, rfl, -, -⟩ := dotted
  intro mark member
  obtain member | ⟨part, present, member⟩ := Text.mem_intercalate member
  · rw [List.mem_singleton.mp member]
    rfl
  · obtain ⟨octet, -, rfl⟩ := List.mem_map.mp present
    rw [isAddressChar, Text.hexDigit?, if_pos (Text.isDigit_of_mem_decimal member)]
    rfl

theorem Reads.all_intercalate {texts : List Text} {pieces : List (BitVec 16)} (reads : Reads texts pieces) :
    ∀ c ∈ List.intercalate [':'] texts, isAddressChar c = true := by
  have each : ∀ text ∈ texts, ∀ c ∈ text, isAddressChar c = true := by
    induction reads with
    | nil => simp
    | dotted octets => exact List.forall_mem_singleton.mpr octets.all
    | cons here _ ih => exact List.forall_mem_cons.mpr ⟨here.all, ih⟩
  intro c member
  obtain member | ⟨text, present, member⟩ := Text.mem_intercalate member
  · rw [List.mem_singleton.mp member]
    rfl
  · exact each text present c member

theorem Denotes.all {text : Text} {address : Ipv6} (denotes : Denotes text address) :
    ∀ c ∈ text, isAddressChar c = true := by
  intro c member
  obtain ⟨reads, rfl⟩ | ⟨pieces, reads, -, -, rfl⟩ := denotes
  · exact reads.all_intercalate c member
  · rw [List.mem_append, List.mem_cons, List.mem_cons] at member
    obtain member | rfl | rfl | member := member
    · exact (Reads.of_forall₂ pieces).all_intercalate c member
    · rfl
    · rfl
    · exact reads.all_intercalate c member

/-- A text denotes one address at most. -/
theorem Denotes.unique {text : Text} {address other : Ipv6} (denotes : Denotes text address)
    (denotes' : Denotes text other) : other = address := by
  rw [← parse?_eq_some_iff] at denotes denotes'
  exact Option.some.inj (denotes'.symm.trans denotes)

end ReleaseTrigger.Ipv6
