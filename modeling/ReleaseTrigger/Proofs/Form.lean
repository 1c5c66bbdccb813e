import ReleaseTrigger.Form
import ReleaseTrigger.Proofs.Percent
import ReleaseTrigger.Proofs.Text.Pieces
import ReleaseTrigger.Proofs.Text.Utf8

/-! # What a form encodes is read back

An encoded value is read back character by character, whatever follows it. An encoding holds neither
an ampersand nor an equals sign; a pair that is appended to a query, however malformed, is therefore a
piece of its own, and the pairs before it are read as they were.
-/

namespace ReleaseTrigger

namespace Form

/-! ## Values -/

/-- The text with its plus signs read as spaces. -/
def spaced (text : Text) : Text := text.map fun c => if c = '+' then ' ' else c

theorem spaced_append (first second : Text) :
    spaced (first ++ second) = spaced first ++ spaced second := List.map_append

theorem spaced_of_unmarked {text : Text} (unmarked : ∀ c ∈ text, c ≠ '+') : spaced text = text := by
  rw [spaced]
  conv_rhs => rw [← List.map_id text]
  apply List.map_congr_left
  intro c member
  exact if_neg (unmarked c member)

theorem hexDigit_keeps {digit : Nat} (bound : digit < 16) : keeps (Percent.hexDigit digit) = true := by
  revert digit
  decide

theorem mem_escape {octet : UInt8} {c : Char} (member : c ∈ Percent.escape octet) :
    keeps c = true ∨ c = '%' := by
  have bound := octet.toNat_lt
  simp only [Percent.escape, List.mem_cons, List.not_mem_nil, or_false] at member
  obtain rfl | rfl | rfl := member
  · exact .inr rfl
  · exact .inl (hexDigit_keeps (by omega))
  · exact .inl (hexDigit_keeps (by omega))

/-- The characters of an encoding: those that stand for themselves, and the marks of spaces and
escapes. -/
theorem mem_encode {text : Text} {c : Char} (member : c ∈ encode text) :
    keeps c = true ∨ c = '%' ∨ c = '+' := by
  obtain ⟨d, -, member⟩ := List.mem_flatMap.mp member
  unfold encodeChar at member
  split_ifs at member with kept space
  · obtain rfl := List.mem_singleton.mp member
    exact .inl kept
  · exact .inr (.inr (List.mem_singleton.mp member))
  · obtain ⟨octet, -, member⟩ := List.mem_flatMap.mp member
    exact (mem_escape member).imp_right .inl

theorem ne_of_mem_encode {text : Text} {c mark : Char} (member : c ∈ encode text)
    (marks : keeps mark = false ∧ mark ≠ '%' ∧ mark ≠ '+') : c ≠ mark := by
  rintro rfl
  obtain kept | percent | plus := mem_encode member
  · rw [marks.1] at kept
    cases kept
  · exact marks.2.1 percent
  · exact marks.2.2 plus

theorem decode_spaced_encodeChar (c : Char) (rest : Text) :
    Percent.decode (spaced (encodeChar c ++ rest)) =
      Utf8.encodeChar c ++ Percent.decode (spaced rest) := by
  rw [spaced_append]
  by_cases kept : keeps c = true
  · have plain : c ≠ '%' := by
      rintro rfl
      exact absurd kept (by decide)
    have unmarked : c ≠ '+' := by
      rintro rfl
      exact absurd kept (by decide)
    rw [encodeChar, if_pos kept, spaced_of_unmarked (by simpa using unmarked)]
    exact Percent.decode_cons_of_ne plain _
  by_cases space : c = ' '
  · subst space
    exact Percent.decode_cons_of_ne (by decide) _
  · have escaped : encodeChar c = (Utf8.encodeChar c).flatMap Percent.escape := by
      rw [encodeChar, if_neg kept, if_neg space, Percent.escapeChar]
    have unmarked : ∀ d ∈ (Utf8.encodeChar c).flatMap Percent.escape, d ≠ '+' := by
      rintro d member rfl
      obtain ⟨octet, -, member⟩ := List.mem_flatMap.mp member
      exact absurd (mem_escape member) (by decide)
    rw [escaped, spaced_of_unmarked unmarked, Percent.decode_escapes_append]

theorem decode_spaced_encode (text rest : Text) :
    Percent.decode (spaced (encode text ++ rest)) =
      Utf8.encode text ++ Percent.decode (spaced rest) := by
  induction text with
  | nil => rfl
  | cons c text ih =>
    rw [encode, List.flatMap_cons, List.append_assoc, decode_spaced_encodeChar, ← encode, ih,
      Utf8.encode_cons, List.append_assoc]

/-- Every value is read back from its encoding. -/
theorem decode_encode (text : Text) : decode (encode text) = text := by
  have octets := decode_spaced_encode text []
  simp only [List.append_nil, spaced, List.map_nil, Percent.decode] at octets
  rw [decode, octets, Utf8.decodeLossy_encode]

/-! ## Pairs -/

theorem decodePair_encodePair (pair : Pair) : decodePair (encodePair pair) = pair := by
  have unmarked : ∀ c ∈ encode pair.1, (c == '=') = false := by
    intro c member
    exact beq_eq_false_iff_ne.mpr (ne_of_mem_encode member (by decide))
  have parts : Text.cut (· == '=') (encodePair pair) = (encode pair.1, some (encode pair.2)) :=
    Text.cut_append (by rfl) unmarked _
  rw [decodePair, parts]
  simp only [Option.getD_some, decode_encode]

@[simp] theorem encodePair_ne_nil (pair : Pair) : encodePair pair ≠ [] :=
  List.append_ne_nil_of_right_ne_nil _ (List.cons_ne_nil _ _)

theorem splitOn_encodePair (pair : Pair) : List.splitOn '&' (encodePair pair) = [encodePair pair] := by
  apply List.splitOn_eq_singleton
  intro member
  obtain member | member := List.mem_append.mp member
  · exact ne_of_mem_encode member (by decide) rfl
  obtain impossible | member := List.mem_cons.mp member
  · exact absurd impossible (by decide)
  · exact ne_of_mem_encode member (by decide) rfl

theorem decodePairs_encodePair (pair : Pair) : decodePairs (encodePair pair) = [pair] := by
  rw [decodePairs, splitOn_encodePair, List.filter_cons_of_pos (by simp)]
  exact congrArg ([·]) (decodePair_encodePair pair)

/-- An appended pair is read last, and the pairs before it are read as they were. -/
theorem decodePairs_append (query : Text) (pair : Pair) :
    decodePairs (append query pair) = decodePairs query ++ [pair] := by
  unfold append
  by_cases empty : query.isEmpty = true
  · obtain rfl := List.isEmpty_iff.mp empty
    exact decodePairs_encodePair pair
  · have parts : List.splitOn '&' (query ++ '&' :: encodePair pair) =
        List.splitOn '&' query ++ List.splitOn '&' (encodePair pair) :=
      List.splitOn_append_cons_self _ _
    rw [if_neg empty, decodePairs, parts, List.filter_append, List.map_append, ← decodePairs,
      ← decodePairs, decodePairs_encodePair]

theorem decodePairs_appendAll (query : Text) (pairs : List Pair) :
    decodePairs (appendAll query pairs) = decodePairs query ++ pairs := by
  induction pairs generalizing query with
  | nil => exact (List.append_nil _).symm
  | cons pair pairs ih => rw [appendAll_cons, ih, decodePairs_append, List.append_assoc]; rfl

/-! ## Whole queries -/

/-- The encodings of pairs, divided by ampersands. -/
def encodePairs (pairs : List Pair) : Text := List.intercalate ['&'] (pairs.map encodePair)

/-- What divides a query from a pair that is appended to it. -/
def divider (query : Text) : Text := if query.isEmpty then [] else ['&']

theorem append_eq (query : Text) (pair : Pair) :
    append query pair = query ++ divider query ++ encodePair pair := by
  unfold append divider
  split_ifs with empty
  · rw [List.isEmpty_iff.mp empty]
    rfl
  · rw [List.append_assoc]
    rfl

theorem divider_append (query : Text) (pair : Pair) : divider (append query pair) = ['&'] := by
  rw [append_eq, divider, if_neg (by simp)]

theorem encodePairs_cons_cons (first second : Pair) (pairs : List Pair) :
    encodePairs (first :: second :: pairs) = encodePair first ++ '&' :: encodePairs (second :: pairs) := by
  simp only [encodePairs, List.map_cons, List.intercalate_cons_cons, List.append_assoc, List.cons_append,
    List.nil_append]

/-- Appending keeps a query as it stands and puts the encoded pairs behind it. -/
theorem appendAll_eq (query : Text) {pairs : List Pair} (some : pairs ≠ []) :
    appendAll query pairs = query ++ divider query ++ encodePairs pairs := by
  induction pairs generalizing query with
  | nil => exact absurd rfl some
  | cons first pairs ih =>
    cases pairs with
    | nil =>
      rw [encodePairs, List.map_singleton, List.intercalate_singleton]
      exact append_eq query first
    | cons second others =>
      rw [appendAll_cons, ih _ (List.cons_ne_nil _ _), divider_append, append_eq,
        encodePairs_cons_cons]
      simp only [List.append_assoc, List.singleton_append]

end Form

end ReleaseTrigger
