import ReleaseTrigger.Proofs.Url.Authority
import ReleaseTrigger.Proofs.Url.Path
import ReleaseTrigger.Url.Parser

/-! # The parts of a text

What is left of a text of the web after blanks and line breaks are dropped consists of the name of a
scheme, a colon, slashes, an authority, a path, and the query with the fragment; the marks between them are
in none of the parts before. So there is one way to divide it (`Parts.text_injective`), each part of the URL
is read from its own part of the text (`Parts.ofRest_eq`), and a text is read as a URL of the web exactly if
it divides into such parts (`AnyUrl.parse_eq_network_iff`).
-/

namespace ReleaseTrigger

/-! ## Names of schemes -/

theorem Scheme.ofName?_name (scheme : Scheme) : ofName? scheme.name = some scheme := by
  cases scheme <;> decide

theorem Scheme.name_injective : Function.Injective name := by
  intro scheme other same
  have known := ofName?_name scheme
  rw [same, ofName?_name, Option.some.injEq] at known
  exact known.symm

namespace Url

/-- A name of a scheme of the web, in any case, is made of letters. -/
theorem isAlpha_of_mem_schemeName {scheme : Scheme} {name : Text} (named : Text.lower name = scheme.name)
    {c : Char} (member : c ∈ name) : c.isAlpha = true := by
  have letter : c.toLower.isAlpha = true := by
    have lower : c.toLower ∈ scheme.name := by
      rw [← named]
      exact List.mem_map_of_mem member
    have letters : ∀ d ∈ scheme.name, d.isAlpha = true := by
      cases scheme <;> exact List.forall_iff_forall_mem.mp (by decide)
    exact letters _ lower
  obtain same | ⟨code, low, high, rfl⟩ := Text.toLower_cases c
  · rwa [same] at letter
  · have upper : ∀ code < 0x5B, 0x41 ≤ code → (Char.ofNat code).isAlpha = true := by decide
    exact upper code (by omega) low

theorem splitScheme?_append {scheme : Scheme} {name : Text} (named : Text.lower name = scheme.name)
    (rest : Text) : splitScheme? (name ++ ':' :: rest) = some (scheme.name, rest) := by
  have unmarked : ∀ c ∈ name, (c == ':') = false := by
    intro c member
    apply beq_eq_false_iff_ne.mpr
    rintro rfl
    cases isAlpha_of_mem_schemeName named member
  have inside : ∀ c ∈ name, isSchemeChar c = true := by
    intro c member
    simp [isSchemeChar, Char.isAlphanum, isAlpha_of_mem_schemeName named member]
  rw [splitScheme?, Text.cut_append (by rfl) unmarked]
  cases name with
  | nil => cases scheme <;> cases named
  | cons first others =>
    have starts := isAlpha_of_mem_schemeName named (List.mem_cons_self ..)
    have continues : others.all isSchemeChar = true :=
      List.all_eq_true.mpr fun c member => inside c (List.mem_cons_of_mem _ member)
    simp only [starts, continues, Bool.and_self, if_true, named]

theorem splitScheme?_eq_some {text name rest : Text} (split : splitScheme? text = some (name, rest)) :
    ∃ spelled, text = spelled ++ ':' :: rest ∧ Text.lower spelled = name := by
  unfold splitScheme? at split
  obtain ⟨before, mark, after, marks, -, rfl, cut⟩ | ⟨-, cut⟩ := Text.cut_cases (· == ':') text
  · obtain rfl := eq_of_beq marks
    rw [cut] at split
    cases before with
    | nil => cases split
    | cons first others =>
      dsimp only at split
      split_ifs at split
      cases split
      exact ⟨first :: others, rfl, rfl⟩
  · rw [cut] at split
    simp at split

theorem name_of_ofName? {name : Text} {scheme : Scheme} (known : Scheme.ofName? name = some scheme) :
    scheme.name = name := by
  rw [Scheme.ofName?] at known
  exact eq_of_beq (List.find?_some (p := fun scheme : Scheme => scheme.name == name) known)

/-! ## Path, query and fragment -/

/-- What stands before the path, and the path itself, have no part in where query and fragment begin. -/
theorem splitTail_append {front : Text} (plain : ∀ c ∈ front, c ≠ '?' ∧ c ≠ '#') (tail : Text) :
    splitTail (front ++ tail) = (front ++ (splitTail tail).1, (splitTail tail).2) := by
  have hashless : ∀ c ∈ front, (c == '#') = false :=
    fun c member => beq_eq_false_iff_ne.mpr (plain c member).2
  have unmarked : ∀ c ∈ front, (c == '?') = false :=
    fun c member => beq_eq_false_iff_ne.mpr (plain c member).1
  simp only [splitTail, Text.cut_append_of_unmarked hashless, Text.cut_append_of_unmarked unmarked]

/-- No path comes before a question mark or a hash. -/
theorem splitTail_fst_of_marked {rest : Text} (marked : ∀ c, rest.head? = some c → c = '?' ∨ c = '#') :
    (splitTail rest).1 = [] := by
  cases rest with
  | nil => rfl
  | cons mark rest =>
    obtain rfl | rfl := marked mark rfl
    · have unmarked : ∀ c ∈ ['?'], (c == '#') = false := List.forall_iff_forall_mem.mp (by decide)
      have divided := Text.cut_append_of_unmarked unmarked rest
      rw [List.singleton_append] at divided
      simp only [splitTail, divided, List.singleton_append]
      rw [Text.cut_cons_of_mark (by rfl)]
    · have divided : Text.cut (· == '#') ('#' :: rest) = ([], some rest) :=
        Text.cut_cons_of_mark (by rfl) rest
      rw [splitTail, divided]
      rfl

/-! ## Parts -/

/-- A character of a path. -/
def isInPath (c : Char) : Bool := c != '?' && c != '#'

theorem isInPath_iff {c : Char} : isInPath c = true ↔ c ≠ '?' ∧ c ≠ '#' := by
  simp [isInPath]

/-- A text of a network URL in its parts. -/
structure Parts where
  /-- The scheme. -/
  scheme : Scheme
  /-- Its name as it is spelled. -/
  name : Text
  /-- The slashes between the colon and the authority, if there are any. -/
  slashes : Text
  /-- User info, host and port. -/
  authority : Text
  /-- The path. -/
  path : Text
  /-- Query and fragment with their marks. -/
  rest : Text
  /-- The name is that of the scheme, in any case. -/
  named : Text.lower name = scheme.name
  /-- Backslashes are slashes. -/
  isSlash_slashes : ∀ c ∈ slashes, isSlash c = true
  /-- There is an authority. -/
  authority_ne_nil : authority ≠ []
  /-- It goes as far as the first mark that ends it. -/
  inside_authority : ∀ c ∈ authority, endsAuthority c = false
  /-- A path begins with a slash. -/
  rooted : ∀ c, path.head? = some c → isSlash c = true
  /-- It goes as far as the first mark of a query or a fragment. -/
  inside_path : ∀ c ∈ path, c ≠ '?' ∧ c ≠ '#'
  /-- What comes then begins with that mark. -/
  marked_rest : ∀ c, rest.head? = some c → c = '?' ∨ c = '#'

/-- Whether texts are the parts of one text. -/
def areParts (scheme : Scheme) (name slashes authority path rest : Text) : Bool :=
  Text.lower name == scheme.name && slashes.all isSlash &&
    (!authority.isEmpty && authority.all (!endsAuthority ·)) &&
    (path.head?.all isSlash && path.all isInPath) && rest.head?.all (!isInPath ·)

namespace Parts

/-- Parts that were checked. -/
def ofTexts (scheme : Scheme) (name slashes authority path rest : Text)
    (checked : areParts scheme name slashes authority path rest = true) : Parts where
  scheme := scheme
  name := name
  slashes := slashes
  authority := authority
  path := path
  rest := rest
  named := by
    simp only [areParts, Bool.and_eq_true] at checked
    exact eq_of_beq checked.1.1.1.1
  isSlash_slashes := by
    simp only [areParts, Bool.and_eq_true] at checked
    exact List.all_eq_true.mp checked.1.1.1.2
  authority_ne_nil := by
    rintro rfl
    simp [areParts] at checked
  inside_authority := by
    simp only [areParts, Bool.and_eq_true, List.all_eq_true, Bool.not_eq_true'] at checked
    exact checked.1.1.2.2
  rooted := by
    intro c first
    simp only [areParts, first, Option.all_some, Bool.and_eq_true] at checked
    exact checked.1.2.1
  inside_path := by
    simp only [areParts, Bool.and_eq_true, List.all_eq_true, isInPath_iff] at checked
    exact checked.1.2.2
  marked_rest := by
    intro c first
    simp only [areParts, first, Option.all_some, Bool.and_eq_true, Bool.not_eq_true'] at checked
    by_contra! plain
    rw [isInPath_iff.mpr plain] at checked
    cases checked.2

/-- The text that the parts make up. -/
def text (parts : Parts) : Text :=
  parts.name ++ ':' :: (parts.slashes ++ (parts.authority ++ (parts.path ++ parts.rest)))

/-- The URL of the parts, given what the authority says. -/
def url (parts : Parts) (authority : Authority) : Url where
  scheme := parts.scheme
  username := authority.username
  password := authority.password
  host := authority.host
  port := authority.port
  path := Path.ofText Url.isSlash parts.path
  query := encodeQuery (splitTail parts.rest).2.1
  fragment := encodeFragment (splitTail parts.rest).2.2

/-- The URL that is read from the parts. -/
def read (parts : Parts) : Except UrlError Url :=
  (Authority.parse parts.scheme parts.authority).map parts.url

/-- Parts whose path, query and fragment are given in one. -/
def ofTail (scheme : Scheme) (name slashes authority tail : Text) (named : Text.lower name = scheme.name)
    (isSlash_slashes : ∀ c ∈ slashes, isSlash c = true) (authority_ne_nil : authority ≠ [])
    (inside_authority : ∀ c ∈ authority, endsAuthority c = false)
    (ends : ∀ c, tail.head? = some c → endsAuthority c = true) : Parts where
  scheme := scheme
  name := name
  slashes := slashes
  authority := authority
  path := tail.takeWhile isInPath
  rest := tail.dropWhile isInPath
  named := named
  isSlash_slashes := isSlash_slashes
  authority_ne_nil := authority_ne_nil
  inside_authority := inside_authority
  rooted := by
    intro c first
    rw [List.head?_takeWhile] at first
    obtain ⟨first, inside⟩ := Option.filter_eq_some_iff.mp first
    have ends := ends c first
    have inside := isInPath_iff.mp inside
    simpa [endsAuthority, inside.1, inside.2] using ends
  inside_path := fun c member => isInPath_iff.mp (List.mem_takeWhile_imp member)
  marked_rest := by
    intro c first
    have stops := Text.stops_of_head?_dropWhile first
    by_contra! plain
    rw [isInPath_iff.mpr plain] at stops
    cases stops

theorem text_ofTail {scheme : Scheme} {name slashes authority tail : Text}
    (named : Text.lower name = scheme.name) (isSlash_slashes : ∀ c ∈ slashes, isSlash c = true)
    (authority_ne_nil : authority ≠ []) (inside_authority : ∀ c ∈ authority, endsAuthority c = false)
    (ends : ∀ c, tail.head? = some c → endsAuthority c = true) :
    (ofTail scheme name slashes authority tail named isSlash_slashes authority_ne_nil inside_authority
      ends).text = name ++ ':' :: (slashes ++ (authority ++ tail)) := by
  simp only [text, ofTail, List.takeWhile_append_dropWhile]

variable (parts : Parts)

/-! ### Where the parts are found -/

theorem splitTail_path : splitTail (parts.path ++ parts.rest) = (parts.path, (splitTail parts.rest).2) := by
  rw [splitTail_append parts.inside_path, splitTail_fst_of_marked parts.marked_rest, List.append_nil]

/-- Whatever ends the authority is not part of it. -/
theorem endsAuthority_of_head? {c : Char} (first : (parts.path ++ parts.rest).head? = some c) :
    endsAuthority c = true := by
  cases given : parts.path with
  | nil =>
    rw [given, List.nil_append] at first
    obtain rfl | rfl := parts.marked_rest c first <;> rfl
  | cons slash path =>
    have rooted := parts.rooted slash (by rw [given]; rfl)
    rw [given, List.cons_append, List.head?_cons, Option.some.injEq] at first
    rw [← first, endsAuthority, rooted]
    rfl

theorem isSlash_of_head?_authority {tail : Text} {c : Char}
    (first : (parts.authority ++ tail).head? = some c) : isSlash c = false := by
  obtain ⟨start, others, same⟩ := List.exists_cons_of_ne_nil parts.authority_ne_nil
  have inside := parts.inside_authority start (same ▸ List.mem_cons_self ..)
  rw [same, List.cons_append, List.head?_cons, Option.some.injEq] at first
  rw [first, endsAuthority, Bool.or_eq_false_iff, Bool.or_eq_false_iff] at inside
  exact inside.1.1

theorem dropWhile_slashes :
    (parts.slashes ++ (parts.authority ++ (parts.path ++ parts.rest))).dropWhile Url.isSlash =
      parts.authority ++ (parts.path ++ parts.rest) :=
  Text.dropWhile_append_of_stops parts.isSlash_slashes fun _ => parts.isSlash_of_head?_authority

theorem goesOn_authority : ∀ c ∈ parts.authority, (!endsAuthority c) = true := by
  intro c member
  rw [parts.inside_authority c member]
  rfl

theorem stops_tail : ∀ c, (parts.path ++ parts.rest).head? = some c → (!endsAuthority c) = false := by
  intro c first
  rw [parts.endsAuthority_of_head? first]
  rfl

theorem takeWhile_authority :
    (parts.authority ++ (parts.path ++ parts.rest)).takeWhile (!endsAuthority ·) = parts.authority :=
  Text.takeWhile_append_of_stops parts.goesOn_authority parts.stops_tail

theorem dropWhile_authority :
    (parts.authority ++ (parts.path ++ parts.rest)).dropWhile (!endsAuthority ·) =
      parts.path ++ parts.rest :=
  Text.dropWhile_append_of_stops parts.goesOn_authority parts.stops_tail

theorem ofRest_eq :
    ofRest parts.scheme (parts.slashes ++ (parts.authority ++ (parts.path ++ parts.rest))) =
      parts.read := by
  simp only [ofRest, parts.dropWhile_slashes, ofAuthority, parts.takeWhile_authority,
    parts.dropWhile_authority, parts.splitTail_path, read, bind, Except.bind, pure, Except.pure]
  cases Authority.parse parts.scheme parts.authority <;> rfl

theorem read_eq_ok_iff {url : Url} :
    parts.read = .ok url ↔
      ∃ authority, Authority.parse parts.scheme parts.authority = .ok authority ∧
        parts.url authority = url := by
  rw [read]
  cases Authority.parse parts.scheme parts.authority <;> simp [Except.map]

/-- A text is read by its parts. -/
theorem parse_eq {text : Text} (cleaned : clean text = parts.text) :
    AnyUrl.parse text = parts.read.map .network := by
  simp only [AnyUrl.parse, cleaned, Parts.text, splitScheme?_append parts.named, Scheme.ofName?_name,
    parts.ofRest_eq]

/-- Nothing before the query and the fragment looks like a mark of theirs. -/
theorem splitTail_text : (splitTail parts.text).2 = (splitTail parts.rest).2 := by
  have plain : ∀ c ∈ parts.name ++ ':' :: (parts.slashes ++ (parts.authority ++ parts.path)),
      c ≠ '?' ∧ c ≠ '#' := by
    intro c member
    simp only [List.mem_append, List.mem_cons] at member
    rcases member with member | rfl | member | member | member
    · have letter := isAlpha_of_mem_schemeName parts.named member
      constructor <;> (rintro rfl; cases letter)
    · decide
    · have slash := parts.isSlash_slashes c member
      constructor <;> (rintro rfl; cases slash)
    · have inside := parts.inside_authority c member
      constructor <;> (rintro rfl; cases inside)
    · exact parts.inside_path c member
  have whole : parts.text =
      (parts.name ++ ':' :: (parts.slashes ++ (parts.authority ++ parts.path))) ++ parts.rest := by
    simp [text]
  rw [whole, splitTail_append plain]

/-! ### The only way to divide a text -/

theorem cut_text : Text.cut (· == ':') parts.text =
    (parts.name, some (parts.slashes ++ (parts.authority ++ (parts.path ++ parts.rest)))) := by
  refine Text.cut_append (by rfl) (fun c member => beq_eq_false_iff_ne.mpr ?_) _
  rintro rfl
  cases isAlpha_of_mem_schemeName parts.named member

theorem takeWhile_slashes :
    (parts.slashes ++ (parts.authority ++ (parts.path ++ parts.rest))).takeWhile Url.isSlash =
      parts.slashes :=
  Text.takeWhile_append_of_stops parts.isSlash_slashes fun _ => parts.isSlash_of_head?_authority

theorem takeWhile_path : (parts.path ++ parts.rest).takeWhile isInPath = parts.path := by
  apply Text.takeWhile_append_of_stops
  · exact fun c member => isInPath_iff.mpr (parts.inside_path c member)
  · intro c first
    obtain rfl | rfl := parts.marked_rest c first <;> rfl

theorem text_injective : Function.Injective text := by
  intro parts other same
  have cut := parts.cut_text
  rw [same, other.cut_text, Prod.mk.injEq, Option.some.injEq] at cut
  obtain ⟨name, tail⟩ := cut
  have scheme : parts.scheme = other.scheme :=
    Scheme.name_injective (by rw [← parts.named, ← other.named, name])
  have slashes : parts.slashes = other.slashes := by
    rw [← parts.takeWhile_slashes, ← tail, other.takeWhile_slashes]
  rw [slashes, List.append_cancel_left_eq] at tail
  have authority : parts.authority = other.authority := by
    rw [← parts.takeWhile_authority, ← tail, other.takeWhile_authority]
  rw [authority, List.append_cancel_left_eq] at tail
  have path : parts.path = other.path := by
    rw [← parts.takeWhile_path, ← tail, other.takeWhile_path]
  rw [path, List.append_cancel_left_eq] at tail
  cases parts
  cases other
  simp_all

end Parts

/-! ## Every URL of the web has parts -/

theorem exists_parts_of_ofRest {scheme : Scheme} {name rest : Text} {url : Url}
    (named : Text.lower name = scheme.name) (read : ofRest scheme rest = .ok url) :
    ∃ parts : Parts, parts.text = name ++ ':' :: rest ∧ parts.read = .ok url := by
  let text := rest.dropWhile isSlash
  have ends : ∀ c, (text.dropWhile (!endsAuthority ·)).head? = some c → endsAuthority c = true := by
    intro c first
    simpa using Text.stops_of_head?_dropWhile first
  have inside : ∀ c ∈ text.takeWhile (!endsAuthority ·), endsAuthority c = false := by
    intro c member
    simpa using List.mem_takeWhile_imp member
  have authority : text.takeWhile (!endsAuthority ·) ≠ [] := by
    intro empty
    have none : Authority.parse scheme [] = .error .emptyHost := rfl
    simp only [ofRest, ofAuthority] at read
    rw [show (rest.dropWhile isSlash).takeWhile (!endsAuthority ·) = [] from empty, none] at read
    cases read
  let parts := Parts.ofTail scheme name (rest.takeWhile isSlash) _ _ named
    (fun c member => List.mem_takeWhile_imp member) authority inside ends
  have tail : parts.slashes ++ (parts.authority ++ (parts.path ++ parts.rest)) = rest := by
    simp only [parts, Parts.ofTail, List.takeWhile_append_dropWhile, text]
  refine ⟨parts, ?_, ?_⟩
  · rw [Parts.text, tail]
    rfl
  · rw [← parts.ofRest_eq, tail]
    exact read

end Url

/-- A text is read as a URL of the web if what is left of it divides into parts that are read as the URL. -/
theorem AnyUrl.parse_eq_network_iff {text : Text} {url : Url} :
    parse text = .ok (.network url) ↔
      ∃ parts : Url.Parts, Url.clean text = parts.text ∧ parts.read = .ok url := by
  constructor
  · intro parsed
    unfold parse at parsed
    split at parsed
    · cases parsed
    · rename_i name rest split
      obtain ⟨spelled, whole, named⟩ := Url.splitScheme?_eq_some split
      cases known : Scheme.ofName? name with
      | none =>
        simp only [known] at parsed
        cases read : ForeignUrl.ofRest name rest <;> rw [read] at parsed <;> cases parsed
      | some scheme =>
        simp only [known] at parsed
        cases read : Url.ofRest scheme rest <;> rw [read] at parsed <;> cases parsed
        obtain ⟨parts, divided, read⟩ :=
          Url.exists_parts_of_ofRest (named.trans (Url.name_of_ofName? known).symm) read
        exact ⟨parts, whole.trans divided.symm, read⟩
  · rintro ⟨parts, cleaned, read⟩
    rw [parts.parse_eq cleaned, read]
    rfl

end ReleaseTrigger
