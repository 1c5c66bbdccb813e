import ReleaseTrigger.Http.Head
import ReleaseTrigger.Proofs.Text.Numeral
import ReleaseTrigger.Proofs.Text.Pieces
import ReleaseTrigger.Url.Printer

/-! # How heads are written

A written head is put together from its parts: empty lines, the status line with the three digits of the
status, header lines, and the empty line that ends it. Reading finds the head of a text exactly if the
text begins with that head as it is written (`read_eq_ok_iff`), one part after the other. The final head
of a text comes after those that only announce another one (`finalHead_eq_ok_iff`).
-/

namespace ReleaseTrigger.Http

section

variable {ε α β : Type} {read : Except ε α} {value : β}

theorem map_eq_ok_iff {f : α → β} : read.map f = .ok value ↔ ∃ found, read = .ok found ∧ f found = value := by
  cases read with
  | error error => exact ⟨nofun, nofun⟩
  | ok found => simp [Except.map]

theorem bind_eq_ok_iff {f : α → Except ε β} :
    (read >>= f) = .ok value ↔ ∃ found, read = .ok found ∧ f found = .ok value := by
  cases read with
  | error error => exact ⟨nofun, nofun⟩
  | ok found => simp [bind, Except.bind]

end

/-! ## Lines -/

/-- The end of a line: a line feed, with or without a carriage return. -/
inductive LineEnd where
  | feed
  | returnFeed

def LineEnd.text : LineEnd → Text
  | feed => ['\n']
  | returnFeed => ['\r', '\n']

section Lines

variable {fault : HeadError} {text rest : Text}

theorem lineEnd_eq_ok_iff :
    lineEnd fault text = .ok rest ↔ ∃ ending : LineEnd, text = ending.text ++ rest := by
  constructor
  · intro read
    unfold lineEnd at read
    split at read <;> cases read
    · exact ⟨.feed, rfl⟩
    · exact ⟨.returnFeed, rfl⟩
  · rintro ⟨_ | _, rfl⟩ <;> rfl

/-- No line end begins with a character that may stand before it. -/
theorem LineEnd.stops (ending : LineEnd) (c : Char) (first : (ending.text ++ rest).head? = some c) :
    isValueChar c = false := by
  cases ending <;> cases first <;> rfl

theorem lineValue_eq_ok_iff {value : Text} :
    lineValue fault text = .ok (value, rest) ↔
      (∀ c ∈ value, isValueChar c = true) ∧ ∃ ending : LineEnd, text = value ++ (ending.text ++ rest) := by
  constructor
  · intro read
    obtain ⟨after, ended, same⟩ := map_eq_ok_iff.mp read
    cases same
    obtain ⟨ending, stopped⟩ := lineEnd_eq_ok_iff.mp ended
    refine ⟨fun c member => List.mem_takeWhile_imp member, ending, ?_⟩
    rw [← stopped, List.takeWhile_append_dropWhile]
  · rintro ⟨inside, ending, rfl⟩
    rw [lineValue, Text.takeWhile_append_of_stops inside ending.stops,
      Text.dropWhile_append_of_stops inside ending.stops, lineEnd_eq_ok_iff.mpr ⟨ending, rfl⟩]
    rfl

end Lines

/-! ## Header lines -/

/-- A header line as it is written. -/
structure HeaderLine where
  name : Text
  value : Text
  ending : LineEnd
  name_ne_nil : name ≠ []
  isNameChar : ∀ c ∈ name, isNameChar c = true
  isValueChar : ∀ c ∈ value, isValueChar c = true

namespace HeaderLine

def text (line : HeaderLine) : Text := line.name ++ ':' :: (line.value ++ line.ending.text)

/-- Names are told apart without regard to case, and padding around a value does not belong to it. -/
def header (line : HeaderLine) : Header := (Text.lower line.name, Text.trim isPadding line.value)

end HeaderLine

section

variable {text rest : Text}

theorem readHeader_eq_ok_iff {header : Header} :
    readHeader text = .ok (header, rest) ↔
      ∃ line : HeaderLine, text = line.text ++ rest ∧ header = line.header := by
  constructor
  · intro read
    unfold readHeader at read
    dsimp only at read
    split at read
    · cases read
    · rename_i mark after marked
      split_ifs at read with fault
      obtain ⟨some, colon⟩ := not_or.mp fault
      obtain rfl := not_ne_iff.mp colon
      obtain ⟨⟨value, others⟩, ended, same⟩ := map_eq_ok_iff.mp read
      obtain ⟨inside, ending, rfl⟩ := lineValue_eq_ok_iff.mp ended
      cases same
      refine ⟨⟨text.takeWhile isNameChar, value, ending, ?_, fun _ => List.mem_takeWhile_imp, inside⟩, ?_, rfl⟩
      · rintro empty
        exact some (List.isEmpty_iff.mpr empty)
      · rw [HeaderLine.text, List.append_assoc, List.cons_append, List.append_assoc, ← marked,
          List.takeWhile_append_dropWhile]
  · rintro ⟨line, rfl, rfl⟩
    have name : line.text ++ rest = line.name ++ ':' :: (line.value ++ (line.ending.text ++ rest)) := by
      simp [HeaderLine.text]
    have stops : ∀ c, (':' :: (line.value ++ (line.ending.text ++ rest))).head? = some c →
        isNameChar c = false := by
      rintro c ⟨⟩
      decide
    rw [name, readHeader, Text.takeWhile_append_of_stops line.isNameChar stops,
      Text.dropWhile_append_of_stops line.isNameChar stops]
    simp only [List.isEmpty_iff, line.name_ne_nil, ne_eq, not_true_eq_false, or_self, ↓reduceIte,
      lineValue_eq_ok_iff.mpr ⟨line.isValueChar, line.ending, rfl⟩]
    rfl

/-- No header line begins like an empty one. -/
theorem HeaderLine.exists_cons (line : HeaderLine) :
    ∃ c after, line.text = c :: after ∧ ¬(c = '\r' ∨ c = '\n') := by
  obtain ⟨c, name, same⟩ := List.exists_cons_of_ne_nil line.name_ne_nil
  refine ⟨c, name ++ ':' :: (line.value ++ line.ending.text), by rw [text, same, List.cons_append], ?_⟩
  have inside := line.isNameChar c (same ▸ List.mem_cons_self ..)
  rintro (rfl | rfl) <;> exact absurd inside (by decide)

/-- Header lines end with an empty line, or go on with one more. -/
theorem readHeaders_step {left : Nat} {headers : List Header} :
    readHeaders left text = .ok (headers, rest) ↔
      (headers = [] ∧ ∃ ending : LineEnd, text = ending.text ++ rest) ∨
      ∃ (line : HeaderLine) (after : Text) (others : List Header) (remaining : Nat),
        left = remaining + 1 ∧ text = line.text ++ after ∧
          readHeaders remaining after = .ok (others, rest) ∧ headers = line.header :: others := by
  rw [readHeaders.eq_def]
  constructor
  · intro read
    split at read
    · cases read
    · split_ifs at read with empty
      · obtain ⟨_, ended, same⟩ := map_eq_ok_iff.mp read
        cases same
        exact .inl ⟨rfl, lineEnd_eq_ok_iff.mp ended⟩
      · split at read
        · cases read
        · rename_i header after first
          obtain ⟨line, written, rfl⟩ := readHeader_eq_ok_iff.mp first
          cases left with
          | zero => cases read
          | succ remaining =>
            obtain ⟨⟨others, _⟩, read, same⟩ := map_eq_ok_iff.mp read
            cases same
            exact .inr ⟨line, after, others, remaining, rfl, written, read, rfl⟩
  · rintro (⟨rfl, ending, rfl⟩ | ⟨line, after, others, remaining, rfl, rfl, read, rfl⟩)
    · cases ending <;> rfl
    · have first := readHeader_eq_ok_iff.mpr ⟨line, Eq.refl (line.text ++ after), rfl⟩
      obtain ⟨c, tail, same, solid⟩ := line.exists_cons
      rw [same, List.cons_append] at first ⊢
      simp only [if_neg solid, first, read]
      rfl

theorem readHeaders_eq_ok_iff {left : Nat} {headers : List Header} :
    readHeaders left text = .ok (headers, rest) ↔
      ∃ (lines : List HeaderLine) (ending : LineEnd), lines.length ≤ left ∧
        text = lines.flatMap HeaderLine.text ++ (ending.text ++ rest) ∧
        headers = lines.map HeaderLine.header := by
  constructor
  · intro read
    induction headers generalizing left text with
    | nil =>
      obtain ⟨-, ending, rfl⟩ | ⟨_, _, _, _, -, -, -, impossible⟩ := readHeaders_step.mp read
      · exact ⟨[], ending, Nat.zero_le _, rfl, rfl⟩
      · cases impossible
    | cons header headers ih =>
      obtain ⟨impossible, -⟩ | ⟨line, after, others, remaining, rfl, rfl, read, same⟩ :=
        readHeaders_step.mp read
      · cases impossible
      · cases same
        obtain ⟨lines, ending, few, rfl, rfl⟩ := ih read
        exact ⟨line :: lines, ending, Nat.succ_le_succ few, by simp, rfl⟩
  · rintro ⟨lines, ending, few, rfl, rfl⟩
    induction lines generalizing left with
    | nil => exact readHeaders_step.mpr (.inl ⟨rfl, ending, rfl⟩)
    | cons line lines ih =>
      obtain ⟨remaining, rfl⟩ := Nat.exists_eq_add_of_lt (Nat.lt_of_lt_of_le (Nat.succ_pos _) few)
      rw [Nat.zero_add] at few ⊢
      refine readHeaders_step.mpr (.inr ⟨line, _, _, remaining, rfl, ?_, ih (Nat.le_of_succ_le_succ few), rfl⟩)
      simp

end

/-! ## The status line -/

section

variable {text rest : Text}

theorem skipEmptyLines_eq_ok_iff (some : rest ≠ []) (solid : ∀ c ∈ rest.head?, c ≠ '\r' ∧ c ≠ '\n') :
    skipEmptyLines text = .ok rest ↔ ∃ blanks : List LineEnd, text = blanks.flatMap LineEnd.text ++ rest := by
  constructor
  · intro read
    fun_induction skipEmptyLines text with
    | case1 others ih =>
      obtain ⟨blanks, rfl⟩ := ih read
      exact ⟨.feed :: blanks, rfl⟩
    | case2 others ih =>
      obtain ⟨blanks, rfl⟩ := ih read
      exact ⟨.returnFeed :: blanks, rfl⟩
    | case3 => cases read
    | case4 => cases read
    | case5 =>
      cases read
      exact ⟨[], rfl⟩
  · rintro ⟨blanks, rfl⟩
    induction blanks with
    | nil =>
      obtain ⟨c, others, rfl⟩ := List.exists_cons_of_ne_nil some
      obtain ⟨noReturn, noFeed⟩ := solid c rfl
      simp [skipEmptyLines, noReturn, noFeed]
    | cons blank blanks ih => cases blank <;> exact ih

theorem versionStart_append_ne_nil (rest : Text) : versionStart ++ rest ≠ [] :=
  List.append_ne_nil_of_left_ne_nil (by decide) rest

theorem readVersion.space_eq_ok_iff : readVersion.space text = .ok rest ↔ text = ' ' :: rest := by
  cases text with
  | nil => exact ⟨nofun, nofun⟩
  | cons c others =>
    rw [space]
    split_ifs with blank
    · simp [blank]
    · simp [blank]

theorem readVersion_eq_ok_iff {isCurrent : Bool} :
    readVersion text = .ok (isCurrent, rest) ↔
      text = versionStart ++ (if isCurrent then '1' else '0') :: ' ' :: rest := by
  unfold readVersion
  constructor
  · intro read
    split_ifs at read
    split at read
    · rename_i after start
      obtain ⟨_, blank, same⟩ := map_eq_ok_iff.mp read
      cases same
      rw [Text.after?_eq_some_iff.mp start, readVersion.space_eq_ok_iff.mp blank]
      rfl
    · rename_i after start
      obtain ⟨_, blank, same⟩ := map_eq_ok_iff.mp read
      cases same
      rw [Text.after?_eq_some_iff.mp start, readVersion.space_eq_ok_iff.mp blank]
      rfl
    · cases read
  · rintro rfl
    have long : ¬(versionStart ++ (if isCurrent then '1' else '0') :: ' ' :: rest).length < 8 := by
      have start : versionStart.length = 7 := rfl
      rw [List.length_append, start, List.length_cons, List.length_cons]
      omega
    rw [if_neg long, Text.after?_eq_some_iff.mpr rfl]
    cases isCurrent <;> exact map_eq_ok_iff.mpr ⟨rest, readVersion.space_eq_ok_iff.mpr rfl, rfl⟩

theorem exists_digitChar_of_isDigit {c : Char} (isDigit : c.isDigit = true) :
    ∃ digit < 10, c = Text.digitChar digit ∧ c.toNat - 0x30 = digit := by
  have bounds : 0x30 ≤ c.toNat ∧ c.toNat ≤ 0x39 := Char.isDigit_iff_toNat.mp isDigit
  refine ⟨c.toNat - 0x30, by omega, ?_, rfl⟩
  rw [Text.digitChar, if_pos (by omega), Nat.add_sub_cancel' bounds.1, Char.ofNat_toNat]

theorem readDigits_succ_eq_ok_iff {left code : Nat} {found : Nat × Text} :
    readDigits (left + 1) code text = .ok found ↔ ∃ digit < 10, ∃ after,
      text = Text.digitChar digit :: after ∧ readDigits left (code * 10 + digit) after = .ok found := by
  constructor
  · intro read
    cases text with
    | nil => cases read
    | cons c after =>
      rw [readDigits] at read
      split_ifs at read with isDigit
      obtain ⟨digit, bound, same, value⟩ := exists_digitChar_of_isDigit isDigit
      exact ⟨digit, bound, after, by rw [← same], by rwa [← value]⟩
  · rintro ⟨digit, bound, after, rfl, read⟩
    have chars : ∀ digit < 10, (Text.digitChar digit).isDigit = true ∧
        (Text.digitChar digit).toNat - 0x30 = digit := by decide
    obtain ⟨isDigit, value⟩ := chars digit bound
    rw [readDigits, if_pos isDigit, value, read]

/-- A code of three digits has the digits of its numeral. -/
theorem decimal_of_three {code : Nat} (bounds : 100 ≤ code ∧ code < 1000) :
    Text.decimal code =
      [code / 100, code / 10 % 10, code % 10].map Text.digitChar := by
  rw [Text.decimal, Text.digits_of_le (by decide) (by omega), Text.digits_of_le (by decide) (by omega),
    Text.digits_of_lt (by omega), Nat.div_div_eq_div_mul]
  rfl

theorem readDigits_eq_ok_iff {code : Nat} (bounds : 100 ≤ code ∧ code < 1000) :
    readDigits 3 0 text = .ok (code, rest) ↔ text = Text.decimal code ++ rest := by
  rw [decimal_of_three bounds]
  constructor
  · intro read
    obtain ⟨first, bound, _, rfl, afterFirst⟩ := readDigits_succ_eq_ok_iff.mp read
    obtain ⟨second, bound', _, rfl, afterSecond⟩ := readDigits_succ_eq_ok_iff.mp afterFirst
    obtain ⟨third, bound'', after, rfl, afterThird⟩ := readDigits_succ_eq_ok_iff.mp afterSecond
    obtain ⟨value, rfl⟩ := Prod.mk.inj (Except.ok.inj afterThird)
    rw [show code / 100 = first by omega, show code / 10 % 10 = second by omega,
      show code % 10 = third by omega]
    rfl
  · rintro rfl
    have value : ((0 * 10 + code / 100) * 10 + code / 10 % 10) * 10 + code % 10 = code := by omega
    refine readDigits_succ_eq_ok_iff.mpr ⟨code / 100, by omega, _, rfl, ?_⟩
    refine readDigits_succ_eq_ok_iff.mpr ⟨code / 10 % 10, by omega, _, rfl, ?_⟩
    refine readDigits_succ_eq_ok_iff.mpr ⟨code % 10, by omega, _, rfl, ?_⟩
    rw [readDigits, value]
    rfl

theorem readReason_eq_ok_iff :
    readReason text = .ok rest ↔ ∃ (reason : Option Text) (ending : LineEnd),
      (∀ c ∈ reason.getD [], isValueChar c = true) ∧
        text = Url.marked ' ' reason ++ (ending.text ++ rest) := by
  constructor
  · intro read
    unfold readReason at read
    split at read
    · cases read
    · obtain ⟨⟨reason, _⟩, ended, same⟩ := map_eq_ok_iff.mp read
      cases same
      obtain ⟨inside, ending, rfl⟩ := lineValue_eq_ok_iff.mp ended
      exact ⟨some reason, ending, inside, rfl⟩
    · obtain ⟨ending, rfl⟩ := lineEnd_eq_ok_iff.mp read
      exact ⟨none, ending, by simp, rfl⟩
  · rintro ⟨_ | reason, ending, inside, rfl⟩
    · cases ending <;> rfl
    · exact map_eq_ok_iff.mpr ⟨_, lineValue_eq_ok_iff.mpr ⟨inside, ending, rfl⟩, rfl⟩

end

/-! ## Heads -/

/-- A head as it is written. -/
structure HeadText where
  blanks : List LineEnd
  isCurrent : Bool
  status : Status
  reason : Option Text
  statusEnd : LineEnd
  lines : List HeaderLine
  last : LineEnd
  isValueChar : ∀ c ∈ reason.getD [], isValueChar c = true
  length_lines : lines.length ≤ maxHeaders

namespace HeadText

def statusLine (written : HeadText) : Text :=
  versionStart ++ (if written.isCurrent then '1' else '0') :: ' ' ::
    (Text.decimal written.status.code ++ (Url.marked ' ' written.reason ++ written.statusEnd.text))

def text (written : HeadText) : Text :=
  written.blanks.flatMap LineEnd.text ++ (written.statusLine ++
    (written.lines.flatMap HeaderLine.text ++ written.last.text))

def head (written : HeadText) : Head :=
  ⟨written.isCurrent, written.status, written.lines.map HeaderLine.header⟩

theorem text_ne_nil (written : HeadText) : written.text ≠ [] := by
  have line : written.statusLine ≠ [] := versionStart_append_ne_nil _
  exact List.append_ne_nil_of_right_ne_nil _ (List.append_ne_nil_of_left_ne_nil line _)

end HeadText

section

variable {text rest : Text} {head : Head}

theorem Status.ofNat?_eq_some_iff {code : Nat} {status : Status} :
    Status.ofNat? code = some status ↔ status.code = code := by
  unfold Status.ofNat?
  split_ifs with bounds
  · rw [Option.some.injEq, eq_comm, Status.mk.injEq]
  · exact ⟨nofun, fun same => absurd (same ▸ status.bounds) bounds⟩

/-- Reading finds the head that a text begins with. -/
theorem read_eq_ok_iff :
    Head.read text = .ok (head, rest) ↔
      ∃ written : HeadText, text = written.text ++ rest ∧ head = written.head := by
  unfold Head.read
  simp only [bind_eq_ok_iff, Prod.exists]
  constructor
  · rintro ⟨solid, skipped, isCurrent, afterVersion, version, code, afterCode, digits, afterReason, line,
      headers, others, lines, read⟩
    split at read
    · cases read
    rename_i status known
    cases read
    obtain rfl := Status.ofNat?_eq_some_iff.mp known
    rw [readVersion_eq_ok_iff] at version
    rw [readDigits_eq_ok_iff status.bounds] at digits
    obtain ⟨reason, statusEnd, inside, rfl⟩ := readReason_eq_ok_iff.mp line
    obtain ⟨written, last, few, rfl, rfl⟩ := readHeaders_eq_ok_iff.mp lines
    have start : ∀ c ∈ solid.head?, c ≠ '\r' ∧ c ≠ '\n' := by
      rw [version]
      rintro c ⟨⟩
      decide
    obtain ⟨blanks, rfl⟩ := (skipEmptyLines_eq_ok_iff (version ▸ versionStart_append_ne_nil _) start).mp skipped
    refine ⟨⟨blanks, isCurrent, status, reason, statusEnd, written, last, inside, few⟩, ?_, rfl⟩
    simp only [HeadText.text, HeadText.statusLine, version, digits, List.append_assoc, List.cons_append]
  · rintro ⟨written, rfl, rfl⟩
    let afterReason := written.lines.flatMap HeaderLine.text ++ (written.last.text ++ rest)
    let afterCode := Url.marked ' ' written.reason ++ (written.statusEnd.text ++ afterReason)
    let afterVersion := Text.decimal written.status.code ++ afterCode
    let solid := versionStart ++ (if written.isCurrent then '1' else '0') :: ' ' :: afterVersion
    have whole : written.text ++ rest = written.blanks.flatMap LineEnd.text ++ solid := by
      simp [solid, afterVersion, afterCode, afterReason, HeadText.text, HeadText.statusLine]
    have start : ∀ c ∈ solid.head?, c ≠ '\r' ∧ c ≠ '\n' := by
      rintro c ⟨⟩
      decide
    have skipped := (skipEmptyLines_eq_ok_iff (versionStart_append_ne_nil _) start).mpr ⟨_, whole⟩
    have version : readVersion solid = .ok (written.isCurrent, afterVersion) :=
      readVersion_eq_ok_iff.mpr rfl
    have digits : readDigits 3 0 afterVersion = .ok (written.status.code, afterCode) :=
      (readDigits_eq_ok_iff written.status.bounds).mpr rfl
    have line : readReason afterCode = .ok afterReason :=
      readReason_eq_ok_iff.mpr ⟨written.reason, written.statusEnd, written.isValueChar, rfl⟩
    have lines : readHeaders maxHeaders afterReason = .ok (written.lines.map HeaderLine.header, rest) :=
      readHeaders_eq_ok_iff.mpr ⟨written.lines, written.last, written.length_lines, rfl, rfl⟩
    refine ⟨solid, skipped, _, _, version, _, _, digits, _, line, _, _, lines, ?_⟩
    simp only [Status.ofNat?_eq_some_iff.mpr (Eq.refl written.status.code)]
    rfl

end

/-! ## Framing -/

/-- A value of a length header gives a length, between commas as often as it likes. -/
structure IsLength (value : Text) (length : Nat) : Prop where
  narrow : ∀ c ∈ value, Text.isWide c = false
  each : ∀ piece ∈ value.splitOn ',', Text.number? 10 (Text.trim isPadding piece) = some length

/-- The end of the body can be told from a head: there is no body, it is encoded for transfer, or its
length is not given in two ways. -/
inductive Head.IsFramed (head : Head) : Prop
  | bodyless (status : head.status.code ∈ [101, 204, 304])
  | encoded (named : head.values (Text.of "transfer-encoding") ≠ []) (current : head.isCurrent = true)
  | measured (unnamed : head.values (Text.of "transfer-encoding") = []) {length : Nat}
      (bound : length ≤ maxLength)
      (each : ∀ value ∈ head.values (Text.of "content-length"), IsLength value length)

theorem lengthOf?_eq_some_iff {value : Text} {length : Nat} :
    lengthOf? value = some length ↔ Text.number? 10 value = some length ∧ length < lengthBound := by
  unfold lengthOf?
  constructor
  · intro given
    split_ifs at given
    obtain ⟨read, bound⟩ := Option.filter_eq_some_iff.mp given
    exact ⟨read, of_decide_eq_true bound⟩
  · rintro ⟨read, bound⟩
    have isDigit : value.all Char.isDigit = true := by
      rw [List.all_eq_true]
      exact Text.isInBase_ten_iff.mp (Text.number?_eq_some_iff_positional.mp read).2.1
    rw [if_pos isDigit, read, Option.filter_some, if_pos (decide_eq_true bound)]

theorem mapM_eq_some_replicate_iff {α β : Type} {f : α → Option β} {list : List α} {value : β} :
    list.mapM f = some (List.replicate list.length value) ↔ ∀ x ∈ list, f x = some value := by
  rw [Text.mapM_eq_some_iff]
  induction list with
  | nil => simp
  | cons x list ih =>
    rw [List.length_cons, List.replicate_succ, List.forall₂_cons, ih, List.forall_mem_cons]

/-- Values of length headers, at least one, agree on a length. -/
theorem lengths?_agree_iff {values : List Text} (some : values ≠ []) :
    (∃ length others, lengths? values = .some (length :: others) ∧
        others.all (· == length) = true ∧ length ≤ maxLength) ↔
      ∃ length ≤ maxLength, ∀ value ∈ values, IsLength value length := by
  let pieces := values.flatMap (List.splitOn ',')
  let read (piece : Text) : Option Nat := lengthOf? (Text.trim isPadding piece)
  have wide : ¬values.any (·.any fun c => Text.isWide c) = true ↔
      ∀ value ∈ values, ∀ c ∈ value, Text.isWide c = false := by
    simp
  constructor
  · rintro ⟨length, others, given, agree, bound⟩
    unfold lengths? at given
    split_ifs at given with isWide
    have same : length :: others = List.replicate pieces.length length := by
      refine List.eq_replicate_iff.mpr ⟨(Text.mapM_eq_some_iff.mp given).length_eq.symm, ?_⟩
      exact List.forall_mem_cons.mpr ⟨rfl, by simpa using agree⟩
    have each : ∀ piece ∈ pieces, read piece = .some length :=
      mapM_eq_some_replicate_iff.mp (same ▸ given)
    refine ⟨length, bound, fun value member => ⟨wide.mp isWide value member, fun piece present => ?_⟩⟩
    exact (lengthOf?_eq_some_iff.mp (each piece (List.mem_flatMap.mpr ⟨value, member, present⟩))).1
  · rintro ⟨length, bound, each⟩
    have inside : length < lengthBound := Nat.lt_of_le_of_lt bound (by decide)
    have all : ∀ piece ∈ pieces, read piece = .some length := by
      intro piece present
      obtain ⟨value, member, present⟩ := List.mem_flatMap.mp present
      exact lengthOf?_eq_some_iff.mpr ⟨(each value member).each piece present, inside⟩
    have nonempty : pieces ≠ [] := by
      obtain ⟨value, others, rfl⟩ := List.exists_cons_of_ne_nil some
      exact List.append_ne_nil_of_left_ne_nil (List.splitOn_ne_nil ',' value) _
    obtain ⟨first, rest, split⟩ := List.exists_cons_of_ne_nil nonempty
    have given : lengths? values = .some (List.replicate pieces.length length) := by
      rw [lengths?, if_neg (wide.mpr fun value member => (each value member).narrow)]
      exact mapM_eq_some_replicate_iff.mpr all
    rw [split, List.length_cons, List.replicate_succ] at given
    exact ⟨length, _, given, by simp, bound⟩

theorem checkFraming_eq_ok_iff {head : Head} : head.checkFraming = .ok () ↔ head.IsFramed := by
  have bodyless_iff : head.status.code ∈ [101, 204, 304] ↔
      head.status.code = 101 ∨ head.status.code = 204 ∨ head.status.code = 304 := by simp
  have named_iff : (!(head.values (Text.of "transfer-encoding")).isEmpty) = true ↔
      head.values (Text.of "transfer-encoding") ≠ [] := by simp
  unfold Head.checkFraming
  dsimp only
  split_ifs with bodyless named current absent
  · exact ⟨fun _ => .bodyless (bodyless_iff.mpr bodyless), fun _ => rfl⟩
  · exact ⟨fun _ => .encoded (named_iff.mp named) current, fun _ => rfl⟩
  · refine ⟨nofun, fun framed => ?_⟩
    cases framed with
    | bodyless status => exact absurd (bodyless_iff.mp status) bodyless
    | encoded _ isCurrent => exact absurd isCurrent current
    | measured unnamed => exact absurd unnamed (named_iff.mp named)
  · rw [named_iff, not_ne_iff] at named
    rw [List.isEmpty_iff] at absent
    exact ⟨fun _ => .measured named (Nat.zero_le _) (by simp [absent]), fun _ => rfl⟩
  · rw [named_iff, not_ne_iff] at named
    rw [List.isEmpty_iff] at absent
    have agree := lengths?_agree_iff absent
    constructor
    · intro checked
      split at checked
      · rename_i length others given
        split_ifs at checked with same bound
        obtain ⟨length, bound, each⟩ := agree.mp ⟨length, others, given, same, bound⟩
        exact .measured named bound each
      · cases checked
    · intro framed
      cases framed with
      | bodyless status => exact absurd (bodyless_iff.mp status) bodyless
      | encoded encodes _ => exact absurd named encodes
      | @measured _ length bound each =>
        obtain ⟨length, others, given, same, bound⟩ := agree.mpr ⟨length, bound, each⟩
        simp only [given, same, bound, ↓reduceIte]

/-! ## Final heads -/

/-- A head that only announces another one. -/
def HeadText.IsInterim (written : HeadText) : Prop :=
  written.status.code < 200 ∧ written.status.code ≠ 101

/-- A text carries a head as the final one: the heads before it only announce another one, the end of
the body can be told from it, and anything may follow. -/
def Carries (text : Text) (head : Head) : Prop :=
  ∃ (announced : List HeadText) (final : HeadText) (rest : Text),
    text = announced.flatMap HeadText.text ++ (final.text ++ rest) ∧
      (∀ interim ∈ announced, interim.IsInterim) ∧ ¬final.IsInterim ∧ final.head.IsFramed ∧
      final.head = head

section

variable {text : Text} {head : Head}

theorem HeadText.isInformational_iff {written : HeadText} :
    written.head.isInformational = true ↔ written.IsInterim := by
  rw [Head.isInformational, Bool.and_eq_true, decide_eq_true_eq, bne_iff_ne]
  rfl

/-- The first head of a text is the final one, or it announces what follows it. -/
theorem finalHeadWithin_succ_eq_ok_iff {fuel : Nat} :
    finalHeadWithin (fuel + 1) text = .ok head ↔
      ∃ (written : HeadText) (rest : Text), text = written.text ++ rest ∧
        (written.IsInterim ∧ finalHeadWithin fuel rest = .ok head ∨
          ¬written.IsInterim ∧ written.head.IsFramed ∧ written.head = head) := by
  rw [finalHeadWithin]
  constructor
  · intro read
    split at read
    · cases read
    · rename_i found rest first
      obtain ⟨written, rfl, rfl⟩ := read_eq_ok_iff.mp first
      refine ⟨written, rest, rfl, ?_⟩
      split_ifs at read with interim
      · exact .inl ⟨HeadText.isInformational_iff.mp interim, read⟩
      · obtain ⟨_, framed, same⟩ := map_eq_ok_iff.mp read
        exact .inr ⟨mt HeadText.isInformational_iff.mpr interim, checkFraming_eq_ok_iff.mp framed, same⟩
  · rintro ⟨written, rest, rfl, course⟩
    simp only [read_eq_ok_iff.mpr ⟨written, rfl, rfl⟩]
    obtain ⟨interim, read⟩ | ⟨isFinal, framed, same⟩ := course
    · rw [if_pos (HeadText.isInformational_iff.mpr interim), read]
    · rw [if_neg (mt HeadText.isInformational_iff.mp isFinal), checkFraming_eq_ok_iff.mpr framed, same]
      rfl

theorem finalHeadWithin_eq_ok_iff {fuel : Nat} :
    finalHeadWithin fuel text = .ok head ↔
      ∃ (announced : List HeadText) (final : HeadText) (rest : Text), announced.length < fuel ∧
        text = announced.flatMap HeadText.text ++ (final.text ++ rest) ∧
        (∀ interim ∈ announced, interim.IsInterim) ∧ ¬final.IsInterim ∧ final.head.IsFramed ∧
        final.head = head := by
  constructor
  · intro read
    induction fuel generalizing text with
    | zero => cases read
    | succ fuel ih =>
      obtain ⟨written, rest, rfl, ⟨interim, read⟩ | ⟨isFinal, framed, same⟩⟩ :=
        finalHeadWithin_succ_eq_ok_iff.mp read
      · obtain ⟨announced, final, rest, bound, rfl, interims, ends⟩ := ih read
        refine ⟨written :: announced, final, rest, Nat.succ_lt_succ bound, by simp, ?_, ends⟩
        exact List.forall_mem_cons.mpr ⟨interim, interims⟩
      · exact ⟨[], written, rest, Nat.succ_pos fuel, rfl, List.forall_mem_nil _, isFinal, framed, same⟩
  · rintro ⟨announced, final, rest, bound, rfl, interims, isFinal, framed, same⟩
    induction announced generalizing fuel with
    | nil =>
      obtain ⟨fuel, rfl⟩ := Nat.exists_eq_add_of_lt bound
      exact finalHeadWithin_succ_eq_ok_iff.mpr ⟨final, rest, rfl, .inr ⟨isFinal, framed, same⟩⟩
    | cons written announced ih =>
      obtain ⟨interim, interims⟩ := List.forall_mem_cons.mp interims
      obtain ⟨fuel, rfl⟩ := Nat.exists_eq_add_of_lt bound
      refine finalHeadWithin_succ_eq_ok_iff.mpr ⟨written, _, ?_, .inl ⟨interim, ih ?_ interims⟩⟩
      · simp
      · rw [List.length_cons]
        omega

/-- The final head of a text is the one that it carries. -/
theorem finalHead_eq_ok_iff : finalHead text = .ok head ↔ Carries text head := by
  rw [finalHead, finalHeadWithin_eq_ok_iff]
  constructor
  · rintro ⟨announced, final, rest, -, carried⟩
    exact ⟨announced, final, rest, carried⟩
  · rintro ⟨announced, final, rest, rfl, carried⟩
    refine ⟨announced, final, rest, ?_, rfl, carried⟩
    -- Every head has characters, so there are no more heads than characters.
    have each : ∀ length ∈ announced.map (·.text.length), 1 ≤ length := by
      intro length member
      obtain ⟨written, -, rfl⟩ := List.mem_map.mp member
      exact List.length_pos_iff.mpr written.text_ne_nil
    have bound := List.length_le_sum_of_one_le _ each
    rw [List.length_map] at bound
    rw [List.length_append, List.length_flatMap]
    omega

end

end ReleaseTrigger.Http
