import ReleaseTrigger.Domain.Label
import ReleaseTrigger.Proofs.Percent
import ReleaseTrigger.Proofs.Text.Numeral
import ReleaseTrigger.Proofs.Text.Pieces

/-! # The ASCII form of a domain name

An ASCII form holds neither a character outside ASCII nor a forbidden one, so it is visible as a whole
and cannot be taken for anything but a host. An ASCII name none of whose labels is encoded has itself, in
lower case, for its ASCII form. In general an ASCII form need not be its own: an encoded label may be longer
than any that is decoded.
-/

namespace ReleaseTrigger.Domain

/-! ## Labels are written in ASCII -/

namespace Punycode

theorem isWide_digitChar {digit : Nat} (bound : digit < 36) :
    Text.isWide (digitChar digit) = false := by
  have all : ∀ value < 36, Text.isWide (digitChar value) = false := by decide
  exact all digit bound

theorem isWide_of_mem_encodeDistance {bias position distance : Nat} {c : Char}
    (member : c ∈ encodeDistance bias position distance) : Text.isWide c = false := by
  fun_induction encodeDistance bias position distance with
  | case1 position distance bound last =>
    have bounds := threshold_bounds position bias
    rw [List.mem_singleton.mp member]
    exact isWide_digitChar (by omega)
  | case2 position distance bound more ih =>
    have bounds := threshold_bounds position bias
    obtain rfl | member := List.mem_cons.mp member
    · have digit := Nat.mod_lt (distance - bound) (show 0 < 36 - bound by omega)
      exact isWide_digitChar (by omega)
    · exact ih member

namespace Encoding

/-- What has been written is ASCII. -/
def IsAscii (state : Encoding) : Prop := ∀ c ∈ state.output, Text.isWide c = false

theorem IsAscii.visit {state : Encoding} (ascii : state.IsAscii) (asciiCount code : Nat) (c : Char) :
    (state.visit asciiCount code c).IsAscii := by
  unfold Encoding.visit
  split_ifs
  · exact ascii
  · intro d member
    obtain member | member := List.mem_append.mp member
    · exact ascii d member
    · exact isWide_of_mem_encodeDistance member
  · exact ascii

theorem IsAscii.foldl_visit {state : Encoding} (ascii : state.IsAscii) (asciiCount code : Nat)
    (label : Text) : (label.foldl (Encoding.visit asciiCount code) state).IsAscii := by
  induction label generalizing state with
  | nil => exact ascii
  | cons c label ih => exact ih (ascii.visit asciiCount code c)

theorem IsAscii.insertAll {state : Encoding} (ascii : state.IsAscii) (label : Text) (asciiCount : Nat)
    (codes : List Nat) (next : Nat) : (insertAll label asciiCount codes next state).IsAscii := by
  induction codes generalizing next state with
  | nil => exact ascii
  | cons code codes ih =>
    have start : IsAscii { state with
        distance := state.distance + (code - next) * (state.written + 1) } := ascii
    rw [Encoding.insertAll]
    apply ih
    exact start.foldl_visit asciiCount code label

end Encoding

theorem isWide_of_mem_encode {label : Text} {c : Char} (member : c ∈ encode label) :
    Text.isWide c = false := by
  rw [encode, List.mem_append] at member
  obtain member | member := member
  · split_ifs at member
    · cases member
    · obtain member | member := List.mem_append.mp member
      · simpa using (List.mem_filter.mp member).2
      · rw [List.mem_singleton.mp member]
        rfl
  · refine Encoding.IsAscii.insertAll ?_ _ _ _ _ c member
    intro d member
    cases member

end Punycode

theorem isWide_of_mem_write? {label written : Text} (writes : write? label = some written) :
    ∀ c ∈ written, Text.isWide c = false := by
  unfold write? at writes
  split_ifs at writes with ascii
  · cases writes
    simpa using ascii
  · cases writes
    intro c member
    obtain member | member := List.mem_append.mp member
    · have mark : ∀ d ∈ encodedMark, Text.isWide d = false :=
        List.forall_iff_forall_mem.mp (by decide)
      exact mark c member
    · exact Punycode.isWide_of_mem_encode member

/-! ## Names are written in ASCII -/

theorem exists_of_mem_of_mapM {α β : Type} {f : α → Option β} {list : List α} {results : List β}
    (maps : list.mapM f = some results) {result : β} (member : result ∈ results) :
    ∃ value, f value = some result := by
  induction list generalizing results with
  | nil =>
    cases maps
    cases member
  | cons value list ih =>
    simp only [List.mapM_cons, Option.bind_eq_bind, Option.bind_eq_some_iff] at maps
    obtain ⟨first, here, others, maps, same⟩ := maps
    cases same
    obtain rfl | member := List.mem_cons.mp member
    · exact ⟨value, here⟩
    · exact ih maps member

/-- What a name that has an ASCII form is written as. -/
theorem exists_written_of_toAscii? {name ascii : Text} (written : toAscii? name = some ascii) :
    (∃ labels texts : List Text, labels.mapM write? = some texts ∧ ascii = List.intercalate ['.'] texts) ∧
      ∀ c ∈ ascii, isForbidden c = false := by
  simp only [toAscii?, Option.bind_eq_bind, Option.bind_eq_some_iff] at written
  obtain ⟨mapped, -, readings, -, texts, writes, written⟩ := written
  split_ifs at written with turned forbidden
  cases written
  refine ⟨⟨_, texts, writes, rfl⟩, ?_⟩
  simpa using forbidden

theorem isWide_of_mem_toAscii? {name ascii : Text} (written : toAscii? name = some ascii) {c : Char}
    (member : c ∈ ascii) : Text.isWide c = false := by
  obtain ⟨⟨labels, texts, writes, rfl⟩, -⟩ := exists_written_of_toAscii? written
  obtain member | ⟨text, present, member⟩ := Text.mem_intercalate member
  · rw [List.mem_singleton.mp member]
    rfl
  · obtain ⟨label, writes⟩ := exists_of_mem_of_mapM writes present
    exact isWide_of_mem_write? writes c member

theorem isForbidden_of_mem_toAscii? {name ascii : Text} (written : toAscii? name = some ascii)
    {c : Char} (member : c ∈ ascii) : isForbidden c = false :=
  (exists_written_of_toAscii? written).2 c member

/-! ## Names that are their own form -/

theorem mapM_eq_some_self {α : Type} {f : α → Option α} {list : List α}
    (fixed : ∀ value ∈ list, f value = some value) : list.mapM f = some list := by
  induction list with
  | nil => rfl
  | cons value list ih =>
    rw [List.mapM_cons, fixed value (List.mem_cons_self ..),
      ih fun other member => fixed other (List.mem_cons_of_mem _ member)]
    rfl

/-- Of ASCII characters only capitals are replaced. -/
theorem map?_of_ascii {name : Text} (ascii : ∀ c ∈ name, Text.isWide c = false) :
    map? name = some (Text.lower name) := by
  have single : name.mapM mapChar? = some (name.map fun c => [c.toLower]) := by
    induction name with
    | nil => rfl
    | cons c name ih =>
      rw [List.mapM_cons, ih fun d member => ascii d (List.mem_cons_of_mem _ member), mapChar?,
        ascii c (List.mem_cons_self ..)]
      rfl
  rw [map?, single, Option.map_some, ← List.flatMap_def, Text.lower, List.map_eq_flatMap]

theorem isRightward_of_ascii {c : Char} (ascii : Text.isWide c = false) :
    (Direction.of c).isRightward = false := by
  have low : c.toNat < 0x80 := by simpa [Text.isWide] using ascii
  unfold Direction.of
  dsimp only
  rw [if_pos low]
  split_ifs <;> rfl

/-- A name of ASCII characters without encoded labels is written in lower case. -/
theorem toAscii?_of_plain {name : Text} (ascii : ∀ c ∈ name, Text.isWide c = false)
    (allowed : ∀ c ∈ Text.lower name, isForbidden c = false)
    (plain : ∀ label ∈ List.splitOn '.' (Text.lower name), encodedMark.isPrefixOf label = false) :
    toAscii? name = some (Text.lower name) := by
  have narrow : ∀ c ∈ Text.lower name, Text.isWide c = false := by
    intro c member
    obtain ⟨original, present, rfl⟩ := List.mem_map.mp member
    rw [Text.isWide_toLower, ascii original present]
  have within : ∀ label ∈ List.splitOn '.' (Text.lower name), ∀ c ∈ label, Text.isWide c = false :=
    fun _ member c present => narrow c (Text.mem_of_mem_splitOn member present)
  have narrowLabels : ∀ label ∈ List.splitOn '.' (Text.lower name),
      label.all (!Text.isWide ·) = true := by
    intro label member
    rw [List.all_eq_true]
    intro c present
    rw [within label member c present]
    rfl
  have composed : Unicode.composed (Text.lower name) = Text.lower name := by
    rw [Unicode.composed, if_pos]
    rw [List.all_eq_true]
    intro c member
    rw [narrow c member]
    rfl
  have readings : (List.splitOn '.' (Text.lower name)).mapM read? =
      some (List.splitOn '.' (Text.lower name)) := by
    apply mapM_eq_some_self
    intro label member
    rw [read?, Text.after?, plain label member]
    simp only [Bool.false_eq_true, ↓reduceIte, narrowLabels label member, Bool.true_or]
  have written : (List.splitOn '.' (Text.lower name)).mapM write? =
      some (List.splitOn '.' (Text.lower name)) := by
    apply mapM_eq_some_self
    intro label member
    rw [write?, if_pos (narrowLabels label member)]
  have turns : (List.splitOn '.' (Text.lower name)).any
      (·.any (Direction.of · |>.isRightward)) = false := by
    rw [List.any_eq_false]
    intro label member
    rw [Bool.not_eq_true, List.any_eq_false]
    intro c present
    rw [isRightward_of_ascii (within label member c present)]
    decide
  have allowed : (Text.lower name).any isForbidden = false := by
    rw [List.any_eq_false]
    intro c member
    rw [allowed c member]
    decide
  simp only [toAscii?, map?_of_ascii ascii, composed, readings, written, Option.bind_eq_bind,
    Option.bind_some, turns, List.intercalate_splitOn, allowed, Bool.false_and, Bool.false_eq_true,
    ↓reduceIte]

end ReleaseTrigger.Domain
