import ReleaseTrigger.Proofs.Escapes
import ReleaseTrigger.Proofs.JobUrl

/-! # The query of a job URL

A query is encoded when it is read. The marks that a form gives a meaning to are neither encoded nor put
in by escapes, so the encoded query divides into the encoded pieces, names and values of the query as it
was typed, and each of these is decoded to the same text. Parameters that are added later come after those
pairs.
-/

namespace ReleaseTrigger

namespace Percent

/-! ## Encoding around marks -/

/-- A mark that a set neither holds nor puts in. -/
structure Spares (set : EncodeSet) (mark : Char) : Prop where
  /-- It is not escaped. -/
  stays : set mark = false
  /-- It is in no escape. -/
  apart : mark ∉ escapeChars

theorem Spares.ne_of_mem_encode {set : EncodeSet} {mark : Char} (spares : Spares set mark) {text : Text}
    (unmarked : ∀ c ∈ text, (c == mark) = false) : ∀ c ∈ encode set text, (c == mark) = false := by
  intro c member
  obtain ⟨present, -⟩ | escapes := mem_encode member
  · exact unmarked c present
  · apply beq_eq_false_iff_ne.mpr
    rintro rfl
    exact spares.apart escapes

theorem encode_append_cons {set : EncodeSet} {mark : Char} (stays : set mark = false)
    (before after : Text) :
    encode set (before ++ mark :: after) = encode set before ++ mark :: encode set after := by
  rw [encode_append, encode_cons_of_not_mem stays]

theorem encode_intercalate {set : EncodeSet} {mark : Char} (stays : set mark = false)
    (parts : List Text) :
    encode set (List.intercalate [mark] parts) = List.intercalate [mark] (parts.map (encode set)) := by
  induction parts with
  | nil => rfl
  | cons part others ih =>
    cases others with
    | nil => simp only [List.map_cons, List.map_nil, List.intercalate_singleton]
    | cons other others =>
      simp only [List.intercalate_cons_cons, List.map_cons, List.append_assoc,
        List.singleton_append] at ih ⊢
      rw [encode_append_cons stays, ih]

/-- The pieces of an encoded text are the encoded pieces. -/
theorem splitOn_encode {set : EncodeSet} {mark : Char} (spares : Spares set mark) (text : Text) :
    List.splitOn mark (encode set text) = (List.splitOn mark text).map (encode set) := by
  conv_lhs => rw [← @List.intercalate_splitOn _ text _ _ mark, encode_intercalate spares.stays]
  apply List.splitOn_intercalate
  · intro part member
    obtain ⟨piece, present, rfl⟩ := List.mem_map.mp member
    have spared := spares.ne_of_mem_encode (Text.eq_false_of_mem_splitOnP present)
    exact fun marked => absurd (spared mark marked) (by simp)
  · simp

/-- An encoded text is cut where the text is. -/
theorem cut_encode {set : EncodeSet} {mark : Char} (spares : Spares set mark) (text : Text) :
    Text.cut (· == mark) (encode set text) =
      (encode set (Text.cut (· == mark) text).1, (Text.cut (· == mark) text).2.map (encode set)) := by
  obtain ⟨before, found, after, marks, unmarked, rfl, cut⟩ | ⟨unmarked, cut⟩ :=
    Text.cut_cases (· == mark) text
  · obtain rfl := eq_of_beq marks
    rw [cut, encode_append_cons spares.stays]
    exact Text.cut_append (by simp) (spares.ne_of_mem_encode unmarked) _
  · rw [cut, Text.cut_of_unmarked (spares.ne_of_mem_encode unmarked)]
    rfl

end Percent

namespace Form

/-! ## Plus signs -/

/-- A character with a plus sign read as a space. -/
def space (c : Char) : Char := if c = '+' then ' ' else c

theorem space_of_ne {c : Char} (other : c ≠ '+') : space c = c := if_neg other

theorem hexDigit?_space (c : Char) : Text.hexDigit? (space c) = Text.hexDigit? c := by
  by_cases plus : c = '+'
  · rw [plus]
    rfl
  · rw [space_of_ne plus]

theorem space_ne_percent {c : Char} (unmarked : c ≠ '%') : space c ≠ '%' := by
  by_cases plus : c = '+'
  · rw [plus]
    decide
  · rwa [space_of_ne plus]

theorem spaced_cons (c : Char) (rest : Text) : spaced (c :: rest) = space c :: spaced rest := rfl

end Form

namespace Percent

/-- A sign with a plus sign read as a space. -/
def Sign.spaced : Sign → Sign
  | escape first second => escape first second
  | plain c => plain (Form.space c)

theorem IsStray.spaced {text : Text} (stray : IsStray text) : IsStray (Form.spaced text) := by
  intro first second rest same
  match text with
  | [] | [_] => cases same
  | c :: d :: others =>
    cases same
    rw [← stray c d others rfl]
    exact congrArg₂ (·.isSome && ·.isSome) (Form.hexDigit?_space c) (Form.hexDigit?_space d)

theorem ne_plus_of_areDigits {first second : Char} (digits : areDigits first second = true) :
    first ≠ '+' ∧ second ≠ '+' := by
  rw [areDigits, Bool.and_eq_true] at digits
  constructor
  · rintro rfl
    cases digits.1
  · rintro rfl
    cases digits.2

/-- Spaces for plus signs are put in sign by sign. -/
theorem signs_spaced (text : Text) : signs (Form.spaced text) = (signs text).map Sign.spaced := by
  fun_induction signs text with
  | case1 first second rest digits ih =>
    have kept := ne_plus_of_areDigits digits
    rw [Form.spaced_cons, Form.spaced_cons, Form.spaced_cons, Form.space_of_ne kept.1,
      Form.space_of_ne kept.2, List.map_cons, ← ih]
    exact signs_escape digits _
  | case2 first second rest stray ih =>
    have stray : IsStray (first :: second :: rest) := by
      rintro _ _ _ ⟨⟩
      exact Bool.eq_false_iff.mpr stray
    rw [List.map_cons, ← ih]
    exact signs_of_isStray stray.spaced
  | case3 c rest short ih =>
    rw [List.map_cons, ← ih, Form.spaced_cons]
    by_cases mark : c = '%'
    · subst mark
      apply signs_of_isStray
      apply IsStray.spaced
      rintro first second others rfl
      exact (short first second others rfl rfl).elim
    · exact signs_of_ne (Form.space_ne_percent mark) _
  | case4 => rfl

end Percent

namespace Form

open Percent (Spares Sign)

/-! ## Forms that are encoded again -/

/-- A value is decoded to the same text after it was encoded for a component. -/
theorem decode_percentEncode {set : Percent.EncodeSet} (keeps : Percent.KeepsSigns set)
    (plus : set '+' = false) (text : Text) : decode (Percent.encode set text) = decode text := by
  have each (sign : Sign) :
      ((sign.encode set).map Sign.spaced).flatMap Sign.octets = sign.spaced.octets := by
    cases sign with
    | escape first second => exact List.append_nil _
    | plain c =>
      rw [Sign.encode]
      split_ifs with escapes
      · have other : c ≠ '+' := by
          rintro rfl
          rw [plus] at escapes
          cases escapes
        have stays := Percent.flatMap_octets_encode set (.plain c)
        rw [Sign.encode, if_pos escapes] at stays
        rw [List.map_map, show Sign.spaced ∘ Sign.ofOctet = Sign.ofOctet from rfl, stays, Sign.spaced,
          space_of_ne other]
      · exact List.append_nil _
  have octets : Percent.decode (spaced (Percent.encode set text)) = Percent.decode (spaced text) := by
    rw [Percent.decode_eq_flatMap_signs, Percent.signs_spaced, Percent.signs_encode keeps,
      List.map_flatMap, List.flatMap_assoc, Percent.decode_eq_flatMap_signs, Percent.signs_spaced,
      List.flatMap_map]
    exact congrArg (List.flatMap · (Percent.signs text)) (funext each)
  exact congrArg Utf8.decodeLossy octets

/-- A set that leaves forms alone: neither their marks nor what escapes can be made of is in it. -/
structure Respects (set : Percent.EncodeSet) : Prop where
  signs : Percent.KeepsSigns set
  plus : set '+' = false
  ampersand : Spares set '&'
  equals : Spares set '='

theorem querySet_respects : Respects Percent.querySet :=
  ⟨Percent.querySet_keepsSigns, by decide, ⟨by decide, by decide⟩, ⟨by decide, by decide⟩⟩

namespace Respects

variable {set : Percent.EncodeSet} (respects : Respects set)

include respects

theorem decodePair_encode (piece : Text) : decodePair (Percent.encode set piece) = decodePair piece := by
  have value (found : Option Text) :
      decode ((found.map (Percent.encode set)).getD []) = decode (found.getD []) := by
    cases found with
    | none => rfl
    | some text => exact decode_percentEncode respects.signs respects.plus text
  simp only [decodePair, Percent.cut_encode respects.equals, value,
    decode_percentEncode respects.signs respects.plus]

/-- A query has the same pairs after it was encoded. -/
theorem decodePairs_encode (query : Text) :
    decodePairs (Percent.encode set query) = decodePairs query := by
  have some (piece : Text) : (!(Percent.encode set piece).isEmpty) = !piece.isEmpty := by
    rw [Bool.eq_iff_iff]
    simp [Percent.encode_eq_nil_iff]
  rw [decodePairs, Percent.splitOn_encode respects.ampersand, List.filter_map, List.map_map, decodePairs]
  simp only [Function.comp_def, some, respects.decodePair_encode]

end Respects

end Form

/-! ## Job URLs -/

theorem Url.splitTail_query {before query : Text} (plain : ∀ c ∈ before, c ≠ '?' ∧ c ≠ '#')
    (hashless : '#' ∉ query) (fragment : Option Text) :
    splitTail (before ++ '?' :: (query ++ marked '#' fragment)) = (before, some query, fragment) := by
  have divided :
      Text.cut (· == '#') ('?' :: (query ++ marked '#' fragment)) = ('?' :: query, fragment) := by
    rw [← List.cons_append]
    apply cut_marked
    rintro c member rfl
    exact hashless ((List.mem_cons.mp member).resolve_left (by decide))
  rw [splitTail_append plain]
  simp only [splitTail, divided]
  rw [Text.cut_cons_of_mark (by rfl), List.append_nil]

/-- The query of a job URL is that of its text, encoded. -/
theorem query_of_parseJobUrl {value : Text} {url : Url} (accepted : parseJobUrl value = .ok url) :
    url.query = Url.encodeQuery (Url.splitTail (Url.clean value)).2.1 := by
  obtain ⟨parts, cleaned, read⟩ := Url.Parts.exists_of_parseJobUrl accepted
  obtain ⟨authority, -, rfl⟩ := parts.read_eq_ok_iff.mp read
  rw [cleaned, parts.splitTail_text]
  rfl

/-- Reading a job URL leaves the meaning of its query alone. The query stands between the first question
mark of the text, if no hash comes before, and the next hash. Decoded as a form, the query of the URL has
the same pairs as that text; sign by sign, escapes and stray marks stay what they are and only characters
that a query may not hold are escaped; and the pairs come first, unchanged, when parameters are added. -/
theorem parseJobUrl_query {value before query : Text} {fragment : Option Text} {url : Url}
    (accepted : parseJobUrl value = .ok url)
    (text : Url.clean value = before ++ '?' :: (query ++ Url.marked '#' fragment))
    (first : ∀ c ∈ before, c ≠ '?' ∧ c ≠ '#') (ends : '#' ∉ query) (parameters : Parameters) :
    ∃ written longer, url.query = some written ∧ (parameters.addTo url).query = some longer ∧
      Form.decodePairs written = Form.decodePairs query ∧
      Percent.signs written =
        (Percent.signs query).flatMap (Percent.Sign.encode Percent.querySet) ∧
      written <+: longer ∧
      Form.decodePairs longer = Form.decodePairs query ++ parameters.pairs := by
  have written : url.query = some (Percent.encode Percent.querySet query) := by
    rw [query_of_parseJobUrl accepted, text, Url.splitTail_query first ends]
    rfl
  have pairs := Form.querySet_respects.decodePairs_encode query
  refine ⟨_, _, written, rfl, pairs, Percent.signs_encode Percent.querySet_keepsSigns query, ?_, ?_⟩
  · rw [written, Option.getD_some, Form.appendAll_eq _ (by simp [Parameters.pairs]), List.append_assoc]
    exact List.prefix_append ..
  · rw [written, Option.getD_some, Form.decodePairs_appendAll, pairs]

/-- Incomplete escapes next to characters that are escaped, an octet that is no UTF-8, and a question mark
in the fragment. -/
theorem parseJobUrl_query_stray :
    let value := Text.of " http://ci.example/job?a=%4é&b=%e9+'%'&&c=%\t#top?d\n"
    let before := Text.of "http://ci.example/job"
    let query := Text.of "a=%4é&b=%e9+'%'&&c=%"
    let parameters : Parameters := ⟨Text.of "t", Text.of "v1", Text.of "v1"⟩
    ∃ url, parseJobUrl value = .ok url ∧
      Url.clean value = before ++ '?' :: (query ++ Url.marked '#' (some (Text.of "top?d"))) ∧
      url.query = some (Text.of "a=%4%C3%A9&b=%e9+%27%%27&&c=%") ∧
      Form.decodePairs ((parameters.addTo url).query.getD []) =
        [(Text.of "a", Text.of "%4é"), (Text.of "b", Text.of "\uFFFD '%'"), (Text.of "c", Text.of "%"),
          (Text.of "token", Text.of "t"), (Text.of "BUILD_REF", Text.of "v1"),
          (Text.of "IMAGE_TAG", Text.of "v1")] := by
  intro value before query parameters
  let url : Url :=
    { scheme := .http, username := [], password := none, host := .domain (Text.of "ci.example"),
      port := none, path := [Text.of "job"],
      query := some (Text.of "a=%4%C3%A9&b=%e9+%27%%27&&c=%"), fragment := some (Text.of "top?d") }
  have accepted : parseJobUrl value = .ok url := by decide +kernel
  have text : Url.clean value = before ++ '?' :: (query ++ Url.marked '#' (some (Text.of "top?d"))) := by
    decide +kernel
  have first : ∀ c ∈ before, c ≠ '?' ∧ c ≠ '#' := List.forall_iff_forall_mem.mp (by decide)
  obtain ⟨_, longer, -, given, -, -, -, pairs⟩ :=
    parseJobUrl_query accepted text first (by decide) parameters
  refine ⟨url, accepted, text, rfl, ?_⟩
  rw [given, Option.getD_some, pairs]
  decide +kernel

end ReleaseTrigger
