import ReleaseTrigger.Proofs.Percent
import ReleaseTrigger.Proofs.Text.Numeral
import ReleaseTrigger.Proofs.Text.Pieces
import ReleaseTrigger.Proofs.Text.Utf8
import ReleaseTrigger.Url.Parser

/-! # Written paths

A segment of a path that was read is escaped, holds no slash and is no dot segment. Escaping a segment
does not make a dot segment of it, because every escape in a dot segment stands for a dot and dots are
not escaped. So the segments of a written path are pushed one after the other and none is taken away:
a path is read back from its text.
-/

namespace ReleaseTrigger

namespace Path

/-! ## Dot segments are read as dots -/

theorem hexDigit?_of_toLower_eq {c : Char} (lower : c.toLower = 'e') :
    Text.hexDigit? c = some 14 := by
  rw [← Text.hexDigit?_toLower, lower]
  rfl

theorem eq_of_toLower_eq {c mark : Char} (lower : c.toLower = mark)
    (plain : ∀ code < 0x5B, 0x41 ≤ code → (Char.ofNat code).toLower ≠ mark) : c = mark := by
  obtain same | ⟨code, low, high, rfl⟩ := Text.toLower_cases c
  · rw [← same, lower]
  · exact absurd lower (plain code (by omega) low)

/-- A dot is read as one however it is written. -/
theorem decode_dot_append {dot : Text} (isDot : Text.lower dot ∈ dots) (rest : Text) :
    Percent.decode (dot ++ rest) = 0x2E :: Percent.decode rest := by
  simp only [dots, List.mem_cons, List.not_mem_nil, or_false, Text.lower] at isDot
  obtain plain | escaped := isDot
  · obtain ⟨c, rfl, lower⟩ := List.map_eq_singleton_iff.mp plain
    rw [eq_of_toLower_eq lower (by decide), List.singleton_append,
      Percent.decode_cons_of_ne (by decide)]
    rfl
  · have three : dot.length = 3 := by simpa [Text.of] using congrArg List.length escaped
    obtain ⟨first, second, third, rfl⟩ := List.length_eq_three.mp three
    simp only [Text.of, List.map_cons, List.map_nil, String.reduceToList, List.cons.injEq,
      and_true] at escaped
    rw [eq_of_toLower_eq escaped.1 (by decide), eq_of_toLower_eq escaped.2.1 (by decide)]
    simp only [List.cons_append, List.nil_append]
    rw [Percent.decode, hexDigit?_of_toLower_eq escaped.2.2]
    rfl

theorem decode_of_isSingleDot {segment : Text} (dot : isSingleDot segment = true) :
    Percent.decode segment = [0x2E] := by
  have read := decode_dot_append (List.contains_iff_mem.mp dot) []
  rwa [List.append_nil] at read

theorem decode_of_isDoubleDot {segment : Text} (dots : isDoubleDot segment = true) :
    Percent.decode segment = [0x2E, 0x2E] := by
  simp only [isDoubleDot, List.any_eq_true, beq_iff_eq] at dots
  obtain ⟨first, isFirst, second, isSecond, same⟩ := dots
  obtain ⟨before, after, rfl, rfl, rfl⟩ := List.map_eq_append_iff.mp same
  rw [decode_dot_append isFirst, ← List.append_nil after, decode_dot_append isSecond]
  rfl

/-! ## Escaping makes no dots -/

/-- Only a dot is encoded in octets of dots. -/
theorem eq_dot_of_encodeChar {c : Char} (dots : ∀ octet ∈ Utf8.encodeChar c, octet = 0x2E) :
    c = '.' := by
  have written (count : Nat) : Utf8.encode (List.replicate count '.') = List.replicate count 0x2E := by
    induction count with
    | zero => rfl
    | succ count ih => rw [List.replicate_succ, List.replicate_succ, Utf8.encode_cons, ih]; rfl
  have octets : Utf8.encode [c] = Utf8.encodeChar c := List.append_nil _
  rw [List.eq_replicate_of_mem dots, ← written] at octets
  have same : c ∈ List.replicate (Utf8.encodeChar c).length '.' := by
    rw [← Utf8.encode_injective octets]
    exact List.mem_singleton_self c
  exact List.eq_of_mem_replicate same

/-- A segment whose encoding stands for nothing but dots is its own encoding. -/
theorem encode_of_decode_dots {segment : Text}
    (dots : ∀ octet ∈ Percent.decode (Percent.encode Percent.pathSet segment), octet = 0x2E) :
    Percent.encode Percent.pathSet segment = segment := by
  apply Percent.encode_of_clean
  intro c member
  by_contra escapes
  rw [Bool.not_eq_false] at escapes
  obtain ⟨before, after, rfl⟩ := List.append_of_mem member
  have whole : Percent.encode Percent.pathSet (before ++ c :: after) =
      Percent.encode Percent.pathSet before ++
        (Percent.escapeChar c ++ Percent.encode Percent.pathSet after) := by
    rw [Percent.encode_append]
    simp only [Percent.encode, List.flatMap_cons, escapes, ↓reduceIte]
  rw [whole, Percent.decode_append_escapeChar_append] at dots
  have dot : c = '.' := by
    apply eq_dot_of_encodeChar
    intro octet present
    exact dots octet (List.mem_append_right _ (List.mem_append_left _ present))
  rw [dot] at escapes
  exact absurd escapes (by decide)

/-- A segment as a path holds it. -/
structure IsWritten (segment : Text) : Prop where
  /-- Nothing in it has to be escaped. -/
  escaped : Percent.Escaped Percent.pathSet segment
  /-- It is one segment. -/
  slashless : ∀ c ∈ segment, Url.isSlash c = false
  /-- It does not name where it stands. -/
  notSingle : isSingleDot segment = false
  /-- It does not name what is above it. -/
  notDouble : isDoubleDot segment = false

theorem isWritten_nil : IsWritten [] := ⟨by simp [Percent.Escaped], by simp, by decide, by decide⟩

theorem isWritten_encode {segment : Text} (slashless : ∀ c ∈ segment, Url.isSlash c = false)
    (notSingle : isSingleDot segment = false) (notDouble : isDoubleDot segment = false) :
    IsWritten (Percent.encode Percent.pathSet segment) where
  escaped := Percent.pathSet_isComponentSet.escaped_encode segment
  slashless := by
    intro c member
    obtain ⟨present, -⟩ | escapes := Percent.mem_encode member
    · exact slashless c present
    · have plain : ∀ c ∈ Percent.escapeChars, Url.isSlash c = false :=
        List.forall_iff_forall_mem.mp (by decide)
      exact plain c escapes
  notSingle := by
    by_contra dot
    rw [Bool.not_eq_false] at dot
    have same : Percent.encode Percent.pathSet segment = segment := by
      apply encode_of_decode_dots
      simp [decode_of_isSingleDot dot]
    rw [same, notSingle] at dot
    cases dot
  notDouble := by
    by_contra dot
    rw [Bool.not_eq_false] at dot
    have same : Percent.encode Percent.pathSet segment = segment := by
      apply encode_of_decode_dots
      simp [decode_of_isDoubleDot dot]
    rw [same, notDouble] at dot
    cases dot

/-! ## The stack -/

theorem mem_of_mem_pop {stack : List Text} {segment : Text} (member : segment ∈ pop stack) :
    segment ∈ stack := by
  cases stack with
  | nil => cases member
  | cons last before =>
    rw [pop] at member
    split_ifs at member
    · exact member
    · exact List.mem_cons_of_mem _ member

/-- Whatever is pushed on a stack of written segments, they stay written. -/
theorem isWritten_of_mem_push {stack segments : List Text} (written : ∀ segment ∈ stack, IsWritten segment)
    (slashless : ∀ segment ∈ segments, ∀ c ∈ segment, Url.isSlash c = false) :
    ∀ segment ∈ push stack segments, IsWritten segment := by
  have popped {stack : List Text} (written : ∀ segment ∈ stack, IsWritten segment) :
      ∀ segment ∈ pop stack, IsWritten segment :=
    fun segment member => written segment (mem_of_mem_pop member)
  fun_induction push stack segments with
  | case1 stack => exact written
  | case2 stack last double => exact List.forall_mem_cons.mpr ⟨isWritten_nil, popped written⟩
  | case3 stack last notDouble single => exact List.forall_mem_cons.mpr ⟨isWritten_nil, written⟩
  | case4 stack last notDouble notSingle =>
    have slashless := slashless last (List.mem_singleton_self last)
    exact List.forall_mem_cons.mpr ⟨isWritten_encode slashless (Bool.eq_false_iff.mpr notSingle)
      (Bool.eq_false_iff.mpr notDouble), written⟩
  | case5 stack segment others rest double ih =>
    exact ih (popped written) (List.forall_mem_cons.mp slashless).2
  | case6 stack segment others rest notDouble single ih =>
    exact ih written (List.forall_mem_cons.mp slashless).2
  | case7 stack segment others rest notDouble notSingle ih =>
    obtain ⟨here, slashless⟩ := List.forall_mem_cons.mp slashless
    exact ih (List.forall_mem_cons.mpr ⟨isWritten_encode here (Bool.eq_false_iff.mpr notSingle)
      (Bool.eq_false_iff.mpr notDouble), written⟩) slashless

/-- Written segments are pushed as they stand. -/
theorem push_of_isWritten {stack segments : List Text}
    (written : ∀ segment ∈ segments, IsWritten segment) :
    push stack segments = segments.reverse ++ stack := by
  fun_induction push stack segments with
  | case1 stack => rfl
  | case2 stack last double =>
    rw [(written last (List.mem_singleton_self last)).notDouble] at double
    cases double
  | case3 stack last notDouble single =>
    rw [(written last (List.mem_singleton_self last)).notSingle] at single
    cases single
  | case4 stack last notDouble notSingle =>
    rw [Percent.encode_of_clean (written last (List.mem_singleton_self last)).escaped]
    rfl
  | case5 stack segment others rest double ih =>
    rw [(written segment (List.mem_cons_self ..)).notDouble] at double
    cases double
  | case6 stack segment others rest notDouble single ih =>
    rw [(written segment (List.mem_cons_self ..)).notSingle] at single
    cases single
  | case7 stack segment others rest notDouble notSingle ih =>
    obtain ⟨here, written⟩ := List.forall_mem_cons.mp written
    rw [Percent.encode_of_clean here.escaped] at ih ⊢
    rw [ih written, List.reverse_cons, List.append_assoc]
    rfl

/-! ## Paths -/

theorem extend_ne_nil (isSlash : Char → Bool) (base : List Text) (text : Text) :
    extend isSlash base text ≠ [] := by
  simpa [extend] using push_ne_nil base.reverse (List.splitOnP_ne_nil isSlash text)

theorem isWritten_of_mem_extend {base : List Text} (written : ∀ segment ∈ base, IsWritten segment)
    (text : Text) : ∀ segment ∈ extend Url.isSlash base text, IsWritten segment := by
  intro segment member
  refine isWritten_of_mem_push ?_ ?_ segment (List.mem_reverse.mp member)
  · exact fun other present => written other (List.mem_reverse.mp present)
  · exact fun piece present => Text.eq_false_of_mem_splitOnP present

theorem ofText_ne_nil (isSlash : Char → Bool) (text : Text) : ofText isSlash text ≠ [] := by
  unfold ofText
  split <;> exact extend_ne_nil _ _ _

theorem isWritten_of_mem_ofText (text : Text) :
    ∀ segment ∈ ofText Url.isSlash text, IsWritten segment := by
  unfold ofText
  split <;> exact isWritten_of_mem_extend (by simp) _

theorem render_eq {segments : List Text} (some : segments ≠ []) :
    render segments = '/' :: List.intercalate ['/'] segments := by
  induction segments with
  | nil => exact absurd rfl some
  | cons segment others ih =>
    by_cases last : others = []
    · rw [last, List.intercalate_singleton]
      exact List.append_nil _
    · rw [render, List.flatMap_cons, ← render, ih last, List.intercalate_cons_of_ne_nil last]
      simp

/-- A path is read back from its text. -/
theorem ofText_render {segments : List Text} (some : segments ≠ [])
    (written : ∀ segment ∈ segments, IsWritten segment) :
    ofText Url.isSlash (render segments) = segments := by
  have pieces : List.splitOnP Url.isSlash (List.intercalate ['/'] segments) = segments :=
    Text.splitOnP_intercalate (by rfl) some fun segment member => (written segment member).slashless
  rw [render_eq some, ofText, if_pos (by rfl), extend, pieces, push_of_isWritten written]
  simp

theorem mem_render {segments : List Text} (written : ∀ segment ∈ segments, IsWritten segment) {c : Char}
    (member : c ∈ render segments) : c = '/' ∨ Percent.pathSet c = false := by
  obtain ⟨segment, present, member⟩ := List.mem_flatMap.mp member
  exact (List.mem_cons.mp member).imp_right ((written segment present).escaped c)

end Path

end ReleaseTrigger
