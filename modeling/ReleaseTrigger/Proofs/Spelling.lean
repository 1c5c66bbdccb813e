import ReleaseTrigger.Proofs.Url.Place

/-! # Spellings of one job URL

Tabs and line breaks are dropped from a text before any part of it is looked for, as are controls and spaces
at its ends, so wherever they are inserted (`Url.Insertion`) the same text is left. What is left of a text of
the web may be written with slashes for the backslashes before its query and fragment: a backslash ends what a
slash ends, divides what a slash divides, and is kept nowhere.
-/

namespace ReleaseTrigger

/-- Two texts are read as one URL, or they are refused for one reason; only the value that is quoted
differs. -/
def SameOutcome (value value' : Text) : Prop :=
  (∃ url, parseJobUrl value = .ok url ∧ parseJobUrl value' = .ok url) ∨
    (∃ reason, parseJobUrl value = .error (.malformed value reason) ∧
      parseJobUrl value' = .error (.malformed value' reason)) ∨
    ∃ scheme, parseJobUrl value = .error (.unsupportedScheme scheme) ∧
      parseJobUrl value' = .error (.unsupportedScheme scheme)

theorem SameOutcome.of_ok {value value' : Text} (same : SameOutcome value value') {url : Url}
    (accepted : parseJobUrl value = .ok url) : parseJobUrl value' = .ok url := by
  rcases same with ⟨other, here, there⟩ | ⟨_, refused, -⟩ | ⟨_, refused, -⟩
  · rwa [← Except.ok.inj (here.symm.trans accepted)]
  · cases accepted.symm.trans refused
  · cases accepted.symm.trans refused

theorem sameOutcome_of_parse_eq {value value' : Text} (same : AnyUrl.parse value' = AnyUrl.parse value) :
    SameOutcome value value' := by
  simp only [SameOutcome, parseJobUrl, same]
  cases AnyUrl.parse value with
  | error reason => exact .inr (.inl ⟨reason, rfl, rfl⟩)
  | ok parsed =>
    cases parsed with
    | foreign url => exact .inr (.inr ⟨url.scheme, rfl, rfl⟩)
    | network url =>
      by_cases web : url.scheme.isWeb = true
      · exact .inl ⟨url, if_pos web, if_pos web⟩
      · exact .inr (.inr ⟨url.scheme.name, if_neg web, if_neg web⟩)

namespace Url

/-! ## Insertions -/

/-- One more character in a text: a tab or a line break anywhere, a control or a space at an end. -/
inductive Insertion : Text → Text → Prop
  | inside {front back : Text} {c : Char} (ignored : c ∈ Text.of "\t\n\r") :
      Insertion (front ++ back) (front ++ c :: back)
  | start {text : Text} {c : Char} (blank : c.toNat ≤ 0x20) : Insertion text (c :: text)
  | finish {text : Text} {c : Char} (blank : c.toNat ≤ 0x20) : Insertion text (text ++ [c])

theorem isEdgeBlank_of_isIgnored {c : Char} (ignored : (!isIgnored c) = false) : isEdgeBlank c = true := by
  by_contra solid
  rw [isIgnored_of_isEdgeBlank_eq_false (Bool.not_eq_true _ ▸ solid)] at ignored
  cases ignored

/-- It makes no difference what is dropped first. -/
theorem clean_eq (text : Text) : clean text = Text.trim isEdgeBlank (kept text) :=
  Text.filter_trim (fun _ => isEdgeBlank_of_isIgnored) text

theorem isIgnored_iff {c : Char} : isIgnored c = true ↔ c ∈ Text.of "\t\n\r" := by
  simp [isIgnored, Text.of, or_assoc]

/-- A character that is inserted is dropped. -/
theorem Insertion.clean_eq {text text' : Text} (inserted : Insertion text text') :
    clean text' = clean text := by
  cases inserted with
  | @inside front back c ignored =>
    have dropped : kept (c :: back) = kept back :=
      List.filter_cons_of_neg (by rw [isIgnored_iff.mpr ignored]; decide)
    rw [Url.clean_eq, Url.clean_eq, kept_append, kept_append, dropped]
  | @start text c blank =>
    have drops : isEdgeBlank c = true := decide_eq_true blank
    rw [clean, clean, Text.trim_cons drops]
  | @finish text c blank =>
    have drops : isEdgeBlank c = true := decide_eq_true blank
    rw [clean, clean, Text.trim_concat drops]

/-- Nothing is left of all insertions. -/
theorem clean_eq_of_insertions {text text' : Text} (inserted : Relation.ReflTransGen Insertion text text') :
    clean text' = clean text := by
  induction inserted with
  | refl => rfl
  | tail _ last ih => exact last.clean_eq.trans ih

/-! ## Slashes -/

/-- A slash for a backslash. -/
def toSlash (c : Char) : Char := if c = '\\' then '/' else c

/-- A text with slashes for the backslashes before its query and its fragment. -/
def withSlashes (text : Text) : Text :=
  (text.takeWhile isInPath).map toSlash ++ text.dropWhile isInPath

/-- What is alike for both slashes is alike for a character and its slash. -/
theorem apply_toSlash {α : Type} {f : Char → α} (same : f '\\' = f '/') (c : Char) : f (toSlash c) = f c := by
  unfold toSlash
  split_ifs with backslash
  · rw [backslash, same]
  · rfl

theorem toSlash_of_isSlash_eq_false {c : Char} (other : isSlash c = false) : toSlash c = c := by
  apply if_neg
  rintro rfl
  cases other

theorem map_toSlash_of_isSlash_eq_false {text : Text} (slashless : ∀ c ∈ text, isSlash c = false) :
    text.map toSlash = text := by
  have same : ∀ c ∈ text, toSlash c = id c := fun c member => toSlash_of_isSlash_eq_false (slashless c member)
  rw [List.map_congr_left same, List.map_id]

section Lists

variable {p : Char → Bool} (same : p '\\' = p '/')

include same

theorem comp_toSlash : p ∘ toSlash = p := funext (apply_toSlash same)

theorem filter_map_toSlash (text : Text) : (text.map toSlash).filter p = (text.filter p).map toSlash := by
  rw [List.filter_map, comp_toSlash same]

theorem dropWhile_map_toSlash (text : Text) :
    (text.map toSlash).dropWhile p = (text.dropWhile p).map toSlash := by
  rw [List.dropWhile_map, comp_toSlash same]

theorem takeWhile_map_toSlash (text : Text) :
    (text.map toSlash).takeWhile p = (text.takeWhile p).map toSlash := by
  rw [List.takeWhile_map, comp_toSlash same]

theorem trim_map_toSlash (text : Text) : Text.trim p (text.map toSlash) = (Text.trim p text).map toSlash := by
  simp only [Text.trim, dropWhile_map_toSlash same, ← List.map_reverse]

end Lists

section Tails

variable {front tail : Text} (plain : ∀ c ∈ front, isInPath c = true)
  (stops : ∀ c, tail.head? = some c → isInPath c = false)

include plain stops

theorem withSlashes_append : withSlashes (front ++ tail) = front.map toSlash ++ tail := by
  rw [withSlashes, Text.takeWhile_append_of_stops plain stops, Text.dropWhile_append_of_stops plain stops]

end Tails

/-- A text divides at its first question mark or hash. -/
theorem exists_eq_append (text : Text) : ∃ front tail, text = front ++ tail ∧
    (∀ c ∈ front, isInPath c = true) ∧ ∀ c, tail.head? = some c → isInPath c = false :=
  ⟨text.takeWhile isInPath, text.dropWhile isInPath, List.takeWhile_append_dropWhile.symm,
    fun _ => List.mem_takeWhile_imp, fun _ => Text.stops_of_head?_dropWhile⟩

theorem stop_cases {c : Char} (stop : isInPath c = false) : c = '?' ∨ c = '#' := by
  by_contra! plain
  rw [isInPath_iff.mpr plain] at stop
  cases stop

theorem mem_of_mem_clean {text : Text} {c : Char} (member : c ∈ clean text) : c ∈ text := by
  have trimmed : c ∈ (text.dropWhile isEdgeBlank).rdropWhile isEdgeBlank := List.mem_of_mem_filter member
  exact (List.dropWhile_suffix _).subset ((List.rdropWhile_prefix _ _).subset trimmed)

/-- Nothing that is dropped depends on what slashes there are. -/
theorem clean_withSlashes (text : Text) : clean (withSlashes text) = withSlashes (clean text) := by
  obtain ⟨front, tail, rfl, plain, stops⟩ := exists_eq_append text
  rw [withSlashes_append plain stops]
  -- Without a mark blanks are dropped at both ends of the front, with one only at its start.
  cases tail with
  | nil =>
    have plain' : ∀ c ∈ clean front, isInPath c = true := fun c member => plain c (mem_of_mem_clean member)
    have mapped := withSlashes_append plain' stops
    rw [List.append_nil, List.append_nil] at mapped
    rw [List.append_nil, List.append_nil, mapped, clean, clean, trim_map_toSlash (by rfl),
      filter_map_toSlash (by rfl)]
  | cons mark tail =>
    have solid : isEdgeBlank mark = false := by
      rcases stop_cases (stops mark rfl) with rfl | rfl <;> rfl
    have stays : kept (mark :: tail.rdropWhile isEdgeBlank) = mark :: keptTail tail :=
      List.filter_cons_of_pos (by rw [isIgnored_of_isEdgeBlank_eq_false solid]; rfl)
    have plain' : ∀ c ∈ kept (front.dropWhile isEdgeBlank), isInPath c = true := fun c member =>
      plain c ((List.dropWhile_suffix _).subset (List.mem_of_mem_filter member))
    have stops' : ∀ c, (mark :: keptTail tail).head? = some c → isInPath c = false := stops
    rw [clean, clean, Text.trim_append_cons solid, Text.trim_append_cons solid,
      dropWhile_map_toSlash (by rfl), List.filter_append, List.filter_append,
      filter_map_toSlash (by rfl), ← kept, ← kept, stays, withSlashes_append plain' stops']

/-! ## Paths -/

theorem isSlash_toSlash (c : Char) : isSlash (toSlash c) = isSlash c := apply_toSlash (by rfl) c

theorem splitOnP_map_toSlash (text : Text) :
    List.splitOnP isSlash (text.map toSlash) = List.splitOnP isSlash text := by
  induction text with
  | nil => rfl
  | cons c text ih =>
    rw [List.map_cons, List.splitOnP_cons_eq_if_modifyHead, List.splitOnP_cons_eq_if_modifyHead,
      isSlash_toSlash, ih]
    split_ifs with slash
    · rfl
    · rw [toSlash_of_isSlash_eq_false (Bool.not_eq_true _ ▸ slash)]

/-- A path has the same segments whatever slashes divide them. -/
theorem ofText_map_toSlash (path : Text) :
    Path.ofText isSlash (path.map toSlash) = Path.ofText isSlash path := by
  cases path with
  | nil => rfl
  | cons first rest =>
    rw [List.map_cons, Path.ofText, Path.ofText, isSlash_toSlash]
    split_ifs with slash
    · rw [Path.extend, splitOnP_map_toSlash, Path.extend]
    · rw [Path.extend, ← List.map_cons, splitOnP_map_toSlash, Path.extend]

section Tails

variable {front tail : Text} (plain : ∀ c ∈ front, isInPath c = true)
  (stops : ∀ c, tail.head? = some c → isInPath c = false)

include plain stops

/-- The authority ends at the first slash of either kind, so there is none in it. -/
theorem ofAuthority_map_toSlash (scheme : Scheme) :
    ofAuthority scheme (front.map toSlash ++ tail) = ofAuthority scheme (front ++ tail) := by
  have marked : ∀ c, tail.head? = some c → c = '?' ∨ c = '#' := fun c first => stop_cases (stops c first)
  have ends : ∀ c, tail.head? = some c → (!endsAuthority c) = false := by
    intro c first
    rcases marked c first with rfl | rfl <;> rfl
  have slashless : ∀ c ∈ front.takeWhile (!endsAuthority ·), isSlash c = false := by
    intro c member
    have inside := List.mem_takeWhile_imp member
    rw [Bool.not_eq_true', endsAuthority, Bool.or_eq_false_iff, Bool.or_eq_false_iff] at inside
    exact inside.1.1
  have same : (!endsAuthority '\\') = (!endsAuthority '/') := rfl
  have authority : (front.map toSlash).takeWhile (!endsAuthority ·) = front.takeWhile (!endsAuthority ·) := by
    rw [takeWhile_map_toSlash same, map_toSlash_of_isSlash_eq_false slashless]
  have path : ∀ c ∈ front.dropWhile (!endsAuthority ·), isInPath c = true := fun c member =>
    plain c ((List.dropWhile_suffix _).subset member)
  have path' : ∀ c ∈ (front.dropWhile (!endsAuthority ·)).map toSlash, isInPath c = true := by
    intro c member
    obtain ⟨original, present, rfl⟩ := List.mem_map.mp member
    exact (apply_toSlash (by rfl) original).trans (path original present)
  have tails := splitTail_append (fun c member => isInPath_iff.mp (path c member)) tail
  have tails' := splitTail_append (fun c member => isInPath_iff.mp (path' c member)) tail
  rw [splitTail_fst_of_marked marked, List.append_nil] at tails tails'
  rw [ofAuthority, ofAuthority, Text.takeWhile_append_stops ends, Text.takeWhile_append_stops ends,
    Text.dropWhile_append_stops ends, Text.dropWhile_append_stops ends, authority,
    dropWhile_map_toSlash same, tails, tails']
  simp only [ofText_map_toSlash]

theorem ofRest_map_toSlash (scheme : Scheme) :
    ofRest scheme (front.map toSlash ++ tail) = ofRest scheme (front ++ tail) := by
  have slashless : ∀ c, tail.head? = some c → isSlash c = false := by
    intro c first
    rcases stop_cases (stops c first) with rfl | rfl <;> rfl
  have plain' : ∀ c ∈ front.dropWhile isSlash, isInPath c = true := fun c member =>
    plain c ((List.dropWhile_suffix _).subset member)
  rw [ofRest, ofRest, Text.dropWhile_append_stops slashless, Text.dropWhile_append_stops slashless,
    dropWhile_map_toSlash (by rfl), ofAuthority_map_toSlash plain' stops]

end Tails

end Url

/-- A text of the web is read in the same way with slashes for backslashes. -/
theorem parse_withSlashes {value name rest : Text} (cleaned : Url.clean value = name ++ ':' :: rest)
    (web : Text.lower name = Text.of "http" ∨ Text.lower name = Text.of "https") :
    AnyUrl.parse (Url.withSlashes value) = AnyUrl.parse value := by
  obtain ⟨scheme, named⟩ : ∃ scheme : Scheme, Text.lower name = scheme.name := by
    rcases web with named | named
    · exact ⟨.http, named⟩
    · exact ⟨.https, named⟩
  obtain ⟨front, tail, rfl, plain, stops⟩ := Url.exists_eq_append rest
  have letters : ∀ c ∈ name, Url.isInPath c = true ∧ Url.isSlash c = false := by
    intro c member
    have letter := Url.isAlpha_of_mem_schemeName named member
    constructor
    · apply Url.isInPath_iff.mpr
      constructor <;> (rintro rfl; cases letter)
    · by_contra slash
      rw [Bool.not_eq_false, Url.isSlash, Bool.or_eq_true, beq_iff_eq, beq_iff_eq] at slash
      rcases slash with rfl | rfl <;> cases letter
  have cleaned' : Url.clean (Url.withSlashes value) = name ++ ':' :: (front.map Url.toSlash ++ tail) := by
    have whole : name ++ ':' :: (front ++ tail) = (name ++ ':' :: front) ++ tail := by simp
    have plain' : ∀ c ∈ name ++ ':' :: front, Url.isInPath c = true :=
      List.forall_mem_append.mpr ⟨fun c member => (letters c member).1, List.forall_mem_cons.mpr ⟨rfl, plain⟩⟩
    rw [Url.clean_withSlashes, cleaned, whole, Url.withSlashes_append plain' stops, List.map_append,
      List.map_cons, Url.map_toSlash_of_isSlash_eq_false fun c member => (letters c member).2]
    simp [Url.toSlash]
  simp only [AnyUrl.parse, cleaned, cleaned', Url.splitScheme?_append named, Scheme.ofName?_name,
    Url.ofRest_map_toSlash plain stops]

/-- Characters that are ignored are ignored everywhere, and both slashes are alike. Whatever tabs and line
breaks are inserted anywhere in a text, and whatever controls and spaces at its ends, it is read as the same
URL or refused for the same reason. The same holds of a text that is left with the name of a scheme of the web at
its start when each backslash before its first question mark or hash is replaced by a slash. -/
theorem parseJobUrl_spelling :
    (∀ value value', Relation.ReflTransGen Url.Insertion value value' → SameOutcome value value') ∧
      ∀ value name rest, Url.clean value = name ++ ':' :: rest →
        (Text.lower name = Text.of "http" ∨ Text.lower name = Text.of "https") →
        SameOutcome value (Url.withSlashes value) := by
  constructor
  · intro value value' inserted
    apply sameOutcome_of_parse_eq
    simp only [AnyUrl.parse, Url.clean_eq_of_insertions inserted]
  · intro value name rest cleaned web
    exact sameOutcome_of_parse_eq (parse_withSlashes cleaned web)

/-- A tab in the name of the scheme, a line break in the port, a return in an escaped dot, a space before and
a null after all; and backslashes before the authority and in the path, but not in the query. -/
theorem parseJobUrl_spelling_scattered :
    let value := Text.of "http:/\\h:81\\a/%2e?\\"
    let spelled := Text.of " ht\ttp:/\\h:8\n1\\a/%\r2e?\\\x00"
    let slashed := Text.of "http://h:81/a/%2e?\\"
    ∃ url, parseJobUrl value = .ok url ∧ parseJobUrl spelled = .ok url ∧ parseJobUrl slashed = .ok url := by
  intro value spelled slashed
  have inside {text text' : Text} (front back : Text) (c : Char) (ignored : c ∈ Text.of "\t\n\r")
      (whole : text = front ++ back) (whole' : text' = front ++ c :: back) : Url.Insertion text text' := by
    rw [whole, whole']
    exact .inside ignored
  have first : Url.Insertion value (Text.of "ht\ttp:/\\h:81\\a/%2e?\\") :=
    inside (Text.of "ht") (Text.of "tp:/\\h:81\\a/%2e?\\") '\t' (by decide) (by decide) (by decide)
  have second : Url.Insertion (Text.of "ht\ttp:/\\h:81\\a/%2e?\\") (Text.of "ht\ttp:/\\h:8\n1\\a/%2e?\\") :=
    inside (Text.of "ht\ttp:/\\h:8") (Text.of "1\\a/%2e?\\") '\n' (by decide) (by decide) (by decide)
  have third : Url.Insertion (Text.of "ht\ttp:/\\h:8\n1\\a/%2e?\\")
      (Text.of "ht\ttp:/\\h:8\n1\\a/%\r2e?\\") :=
    inside (Text.of "ht\ttp:/\\h:8\n1\\a/%") (Text.of "2e?\\") '\r' (by decide) (by decide) (by decide)
  have space : ' '.toNat ≤ 0x20 := by decide
  have null : '\x00'.toNat ≤ 0x20 := by decide
  have inserted : Relation.ReflTransGen Url.Insertion value spelled :=
    ((((Relation.ReflTransGen.single first).tail second).tail third).tail (.start space)).tail (.finish null)
  have cleaned : Url.clean value = Text.of "http" ++ ':' :: Text.of "/\\h:81\\a/%2e?\\" := by decide +kernel
  have replaced : Url.withSlashes value = slashed := by decide
  obtain ⟨ignored, alike⟩ := parseJobUrl_spelling
  have same := ignored value spelled inserted
  have same' := alike value _ _ cleaned (.inl (by decide))
  rw [replaced] at same'
  let url : Url :=
    { scheme := .http, username := [], password := none, host := .domain (Text.of "h"), port := some 81,
      path := [Text.of "a", []], query := some (Text.of "\\"), fragment := none }
  have accepted : parseJobUrl value = .ok url := by decide +kernel
  exact ⟨url, accepted, same.of_ok accepted, same'.of_ok accepted⟩

end ReleaseTrigger
