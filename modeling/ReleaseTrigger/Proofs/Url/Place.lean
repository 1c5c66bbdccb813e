import ReleaseTrigger.Proofs.JobUrl

/-! # Where a job URL points

What is dropped from the text of a job URL does not move the marks that end its authority, and the
authority is divided at its last at sign. Host and port, and whether there is a fault in them, therefore
depend on what stands after that sign alone: not on the user info before it, nor on the path, the query
and the fragment after the authority, none of which can be at fault.
-/

namespace ReleaseTrigger

/-! ## Authorities with user info -/

/-- User info has no influence on host and port. -/
theorem Authority.parse_userInfo (scheme : Scheme) (userInfo : Text) {place : Text}
    (unmarked : ∀ c ∈ place, (c == '@') = false) :
    Authority.parse scheme (userInfo ++ '@' :: place) =
      (Authority.parse scheme place).map fun authority =>
        { authority with
          username := (parseUserInfo userInfo).1
          password := (parseUserInfo userInfo).2 } := by
  have last : Text.cutLast (· == '@') (userInfo ++ '@' :: place) = (some userInfo, place) :=
    Text.cutLast_append (by rfl) userInfo unmarked
  simp only [parse, last, Text.cutLast_of_unmarked unmarked, bind, Except.bind, pure, Except.pure]
  cases Host.parse (splitPort false place).1 with
  | error reason => rfl
  | ok host =>
    dsimp only
    cases parsePort ((splitPort false place).2.getD []) with
    | error reason => rfl
    | ok port => rfl

namespace Url

/-! ## The text of an authority and its tail -/

/-- The marks that end an authority. -/
theorem endsAuthority_iff {c : Char} : endsAuthority c = true ↔ c ∈ Text.of "/\\?#" := by
  simp [endsAuthority, isSlash, Text.of, or_assoc]

theorem endsAuthority_eq_false_iff {c : Char} : endsAuthority c = false ↔ c ∉ Text.of "/\\?#" := by
  rw [← endsAuthority_iff, Bool.not_eq_true]

/-- A text that stands after an authority: nothing, or what starts with a mark that ends one. -/
def IsTail (text : Text) : Prop := ∀ c, text.head? = some c → c ∈ Text.of "/\\?#"

theorem IsTail.cons {mark : Char} (ends : mark ∈ Text.of "/\\?#") (rest : Text) : IsTail (mark :: rest) := by
  rintro c ⟨⟩
  exact ends

/-- What is left of a text when the characters that are ignored everywhere are dropped. -/
def kept (text : Text) : Text := text.filter (!isIgnored ·)

/-- What is left of a tail, at whose end more characters are ignored. -/
def keptTail (tail : Text) : Text := kept (tail.rdropWhile isEdgeBlank)

theorem isIgnored_of_isEdgeBlank_eq_false {c : Char} (solid : isEdgeBlank c = false) :
    isIgnored c = false := by
  by_contra! ignored
  simp only [isIgnored, ne_eq, Bool.not_eq_false, Bool.or_eq_true, beq_iff_eq] at ignored
  obtain (rfl | rfl) | rfl := ignored <;> cases solid

theorem isEdgeBlank_of_endsAuthority {c : Char} (ends : endsAuthority c = true) :
    isEdgeBlank c = false := by
  simp only [endsAuthority, isSlash, Bool.or_eq_true, beq_iff_eq] at ends
  obtain ((rfl | rfl) | rfl) | rfl := ends <;> rfl

theorem isIgnored_of_endsAuthority {c : Char} (ends : endsAuthority c = true) : isIgnored c = false :=
  isIgnored_of_isEdgeBlank_eq_false (isEdgeBlank_of_endsAuthority ends)

/-- A tail stays a tail. -/
theorem IsTail.keptTail {tail : Text} (isTail : IsTail tail) : IsTail (keptTail tail) := by
  intro c first
  rw [Url.keptTail] at first
  cases remains : tail.rdropWhile isEdgeBlank with
  | nil =>
    rw [remains] at first
    cases first
  | cons mark rest =>
    obtain ⟨dropped, whole⟩ := List.rdropWhile_prefix isEdgeBlank (l := tail)
    have starts : mark ∈ Text.of "/\\?#" := by
      apply isTail mark
      rw [← whole, remains]
      rfl
    have stays := isIgnored_of_endsAuthority (endsAuthority_iff.mpr starts)
    rw [remains, kept, List.filter_cons_of_pos (by rw [stays]; rfl), List.head?_cons] at first
    rwa [← Option.some.inj first]

theorem clean_append {first last : Char} {front tail : Text} (solid : isEdgeBlank first = false)
    (solid' : isEdgeBlank last = false) :
    clean (first :: front ++ last :: tail) = kept (first :: front ++ [last]) ++ keptTail tail := by
  have starts : (first :: front).dropWhile isEdgeBlank = first :: front :=
    List.dropWhile_cons_of_neg (by rw [solid]; decide)
  rw [clean, Text.trim_append_cons solid', starts, List.append_cons, List.filter_append]
  rfl

/-! ## Scheme names -/

theorem kept_of_solid {text : Text} (solid : ∀ c ∈ text, isIgnored c = false) : kept text = text := by
  rw [kept, List.filter_eq_self]
  intro c member
  rw [solid c member]
  rfl

theorem kept_append (first second : Text) : kept (first ++ second) = kept first ++ kept second :=
  List.filter_append ..

/-- Letters and decimal digits are not dropped, and end no authority. -/
theorem solid_of_isAlphanum {c : Char} (alphanumeric : c.isAlphanum = true) :
    isEdgeBlank c = false ∧ endsAuthority c = false := by
  have chars : ∀ code < 0x80, (Char.ofNat code).isAlphanum = true →
      isEdgeBlank (Char.ofNat code) = false ∧ endsAuthority (Char.ofNat code) = false := by decide
  obtain ⟨code, bound, rfl⟩ :=
    Text.exists_code_of_isWide_eq_false (Text.isWide_of_isAlphanum alphanumeric)
  exact chars code bound alphanumeric

/-- What is left of a text that starts with the name of a scheme. -/
theorem clean_schemeName_append {scheme : Scheme} {name front tail : Text} {last : Char}
    (named : Text.lower name = scheme.name) (solid : isEdgeBlank last = false) :
    clean (name ++ Text.of "://" ++ (front ++ last :: tail)) =
      name ++ ':' :: '/' :: '/' :: (kept (front ++ [last]) ++ keptTail tail) := by
  have solid' : ∀ c ∈ name, isEdgeBlank c = false := by
    intro c member
    have letter := isAlpha_of_mem_schemeName named member
    exact (solid_of_isAlphanum (by rw [Char.isAlphanum, letter, Bool.true_or])).1
  have marks : ∀ c ∈ Text.of "://", isIgnored c = false := List.forall_iff_forall_mem.mp (by decide)
  have stays : kept (name ++ Text.of "://") = name ++ Text.of "://" := by
    apply kept_of_solid
    intro c member
    obtain member | member := List.mem_append.mp member
    · exact isIgnored_of_isEdgeBlank_eq_false (solid' c member)
    · exact marks c member
  cases name with
  | nil => cases scheme <;> cases named
  | cons first others =>
    have whole : first :: others ++ Text.of "://" ++ (front ++ last :: tail) =
        first :: (others ++ Text.of "://" ++ front) ++ last :: tail := by simp
    have before : first :: (others ++ Text.of "://" ++ front) ++ [last] =
        (first :: others ++ Text.of "://") ++ (front ++ [last]) := by simp
    rw [whole, clean_append (solid' first (List.mem_cons_self ..)) solid, before, kept_append, stays]
    simp [Text.of]

/-- A mark that ends an authority is not dropped. -/
theorem keptTail_cons {mark : Char} (ends : endsAuthority mark = true) (tail : Text) :
    keptTail (mark :: tail) = mark :: keptTail tail := by
  have split : (mark :: tail).rdropWhile isEdgeBlank = mark :: tail.rdropWhile isEdgeBlank :=
    Text.rdropWhile_append_cons (isEdgeBlank_of_endsAuthority ends) [] tail
  rw [keptTail, split, kept, List.filter_cons_of_pos (by rw [isIgnored_of_endsAuthority ends]; rfl)]
  rfl

/-- What is left of a text with an authority that does not end in blanks where nothing comes after it. -/
theorem clean_authority {scheme : Scheme} {name authority tail : Text}
    (named : Text.lower name = scheme.name)
    (solid : tail = [] → ∃ front last, authority = front ++ [last] ∧ isEdgeBlank last = false)
    (isTail : IsTail tail) :
    clean (name ++ Text.of "://" ++ (authority ++ tail)) =
      name ++ ':' :: (['/', '/'] ++ (kept authority ++ keptTail tail)) := by
  cases tail with
  | nil =>
    obtain ⟨front, last, rfl, visible⟩ := solid rfl
    rw [List.append_nil, clean_schemeName_append named visible]
    rfl
  | cons mark tail =>
    have ends : endsAuthority mark = true := endsAuthority_iff.mpr (isTail mark rfl)
    have stays : kept [mark] = [mark] :=
      kept_of_solid (List.forall_mem_singleton.mpr (isIgnored_of_endsAuthority ends))
    rw [clean_schemeName_append named (isEdgeBlank_of_endsAuthority ends), keptTail_cons ends, kept_append,
      stays, List.append_assoc]
    rfl

/-- A text with an authority has it for one of its parts, less what is ignored in it. -/
theorem exists_parts_of_clean {scheme : Scheme} {text name authority tail : Text}
    (cleaned : clean text = name ++ ':' :: (['/', '/'] ++ (kept authority ++ keptTail tail)))
    (named : Text.lower name = scheme.name) (some : kept authority ≠ [])
    (inside : ∀ c ∈ authority, endsAuthority c = false) (isTail : IsTail tail) :
    ∃ parts : Parts, clean text = parts.text ∧ parts.scheme = scheme ∧ parts.authority = kept authority := by
  let parts := Parts.ofTail scheme name ['/', '/'] (kept authority) (keptTail tail) named
    (List.forall_iff_forall_mem.mp (by decide)) some
    (fun c member => inside c (List.mem_of_mem_filter member))
    (fun c first => endsAuthority_iff.mpr (isTail.keptTail c first))
  exact ⟨parts, cleaned.trans (Parts.text_ofTail ..).symm, rfl, rfl⟩

/-- The authority alone decides whether a text is accepted, and for which host and port. -/
theorem parseJobUrl_authority {scheme : Scheme} (web : scheme.isWeb = true)
    {name authority tail : Text} (named : Text.lower name = scheme.name) (some : authority ≠ [])
    (solid : isEdgeBlank (authority.getLast some) = false)
    (inside : ∀ c ∈ authority, endsAuthority c = false) (isTail : IsTail tail) :
    let text := name ++ Text.of "://" ++ (authority ++ tail)
    (∃ place url, Authority.parse scheme (kept authority) = .ok place ∧ parseJobUrl text = .ok url ∧
        url.scheme = scheme ∧ url.host = place.host ∧ url.port = place.port) ∨
      ∃ reason, Authority.parse scheme (kept authority) = .error reason ∧
        parseJobUrl text = .error (.malformed text reason) := by
  intro text
  have some' : kept authority ≠ [] := by
    have member : authority.getLast some ∈ kept authority := by
      apply List.mem_filter.mpr
      exact ⟨List.getLast_mem some, by rw [isIgnored_of_isEdgeBlank_eq_false solid]; rfl⟩
    exact List.ne_nil_of_mem member
  have cleaned := clean_authority named
    (fun _ => ⟨_, _, (List.dropLast_append_getLast some).symm, solid⟩) isTail
  obtain ⟨parts, cleaned, rfl, divided⟩ := exists_parts_of_clean cleaned named some' inside isTail
  have read := Parts.parseJobUrl_eq cleaned web
  rw [Parts.read, divided] at read
  cases parsed : Authority.parse parts.scheme (kept authority) with
  | error reason =>
    rw [parsed] at read
    exact .inr ⟨reason, rfl, read⟩
  | ok place =>
    rw [parsed] at read
    exact .inl ⟨place, _, rfl, read, rfl, rfl, rfl⟩

end Url

/-- Neither user info nor path, query and fragment move the place a job URL points to, whatever marks of
an authority the user info contains; nor do they decide whether the URL is accepted. -/
theorem parseJobUrl_place {name place userInfo first second : Text}
    (web : Text.lower name = Text.of "http" ∨ Text.lower name = Text.of "https") (some : place ≠ [])
    (solid : ∀ c ∈ place, 0x20 < c.toNat ∧ c ∉ Text.of "/\\?#@")
    (inside : ∀ c ∈ userInfo, c ∉ Text.of "/\\?#") (isTail : Url.IsTail first)
    (isTail' : Url.IsTail second) :
    let bare := name ++ Text.of "://" ++ (place ++ first)
    let full := name ++ Text.of "://" ++ (userInfo ++ '@' :: place ++ second)
    (∃ url other, parseJobUrl bare = .ok url ∧ parseJobUrl full = .ok other ∧
        url.scheme = other.scheme ∧ url.host = other.host ∧ url.port = other.port) ∨
      ∃ reason, parseJobUrl bare = .error (.malformed bare reason) ∧
        parseJobUrl full = .error (.malformed full reason) := by
  intro bare full
  obtain ⟨scheme, isWeb, named⟩ : ∃ scheme : Scheme, scheme.isWeb = true ∧ Text.lower name = scheme.name := by
    obtain named | named := web
    · exact ⟨.http, rfl, named⟩
    · exact ⟨.https, rfl, named⟩
  have visible : ∀ c ∈ place, Url.isEdgeBlank c = false := by
    intro c member
    rw [Url.isEdgeBlank, decide_eq_false_iff_not, Nat.not_le]
    exact (solid c member).1
  have inner : ∀ c ∈ place, Url.endsAuthority c = false := by
    intro c member
    apply Url.endsAuthority_eq_false_iff.mpr
    exact fun mark => (solid c member).2 (List.mem_append_left ['@'] mark)
  have unmarked : ∀ c ∈ place, (c == '@') = false := by
    intro c member
    apply beq_eq_false_iff_ne.mpr
    rintro rfl
    exact (solid '@' member).2 (by decide)
  have stays : Url.kept place = place :=
    Url.kept_of_solid fun c member => Url.isIgnored_of_isEdgeBlank_eq_false (visible c member)
  have stays' : Url.kept (userInfo ++ '@' :: place) = Url.kept userInfo ++ '@' :: place := by
    rw [Url.kept_append, List.append_cancel_left_eq]
    exact (List.filter_cons_of_pos (by rfl)).trans (congrArg _ stays)
  have inner' : ∀ c ∈ userInfo ++ '@' :: place, Url.endsAuthority c = false := by
    simp only [List.forall_mem_append, List.forall_mem_cons]
    exact ⟨fun c member => Url.endsAuthority_eq_false_iff.mpr (inside c member), rfl, inner⟩
  have same := Authority.parse_userInfo scheme (Url.kept userInfo) unmarked
  have outcome := Url.parseJobUrl_authority isWeb named some (visible _ (List.getLast_mem some)) inner
    isTail
  have outcome' := Url.parseJobUrl_authority isWeb named (by simp)
    (by simpa [some] using visible _ (List.getLast_mem some)) inner' isTail'
  rw [stays] at outcome
  rw [stays', same] at outcome'
  obtain ⟨authority, url, read, accepted, kind, host, port⟩ | ⟨reason, read, rejected⟩ := outcome
  · rw [read] at outcome'
    obtain ⟨_, other, ⟨⟩, accepted', kind', host', port'⟩ | ⟨_, ⟨⟩, _⟩ := outcome'
    exact .inl ⟨url, other, accepted, accepted', kind.trans kind'.symm, host.trans host'.symm,
      port.trans port'.symm⟩
  · rw [read] at outcome'
    obtain ⟨_, _, ⟨⟩, _⟩ | ⟨_, ⟨⟩, rejected'⟩ := outcome'
    exact .inr ⟨reason, rejected, rejected'⟩

theorem parseJobUrl_place_deceptive :
    let bare := Text.of "HtTp://build.example:8080/job"
    let full := Text.of "HtTp://ci:t@[other.example:80@build.example:8080#job"
    ∃ url other, parseJobUrl bare = .ok url ∧ parseJobUrl full = .ok other ∧
      url.scheme = other.scheme ∧ url.host = other.host ∧ url.port = other.port := by
  intro bare full
  have isTail : Url.IsTail (Text.of "/job") := by
    rintro c ⟨⟩
    decide
  have isTail' : Url.IsTail (Text.of "#job") := by
    rintro c ⟨⟩
    decide
  have solid : ∀ c ∈ Text.of "build.example:8080", 0x20 < c.toNat ∧ c ∉ Text.of "/\\?#@" :=
    List.forall_iff_forall_mem.mp (by decide)
  have inside : ∀ c ∈ Text.of "ci:t@[other.example:80", c ∉ Text.of "/\\?#" :=
    List.forall_iff_forall_mem.mp (by decide)
  have web : Text.lower (Text.of "HtTp") = Text.of "http" ∨ Text.lower (Text.of "HtTp") = Text.of "https" :=
    .inl (by decide)
  obtain accepted | ⟨reason, rejected, -⟩ :=
    parseJobUrl_place web (by decide) solid inside isTail isTail'
  · exact accepted
  · have accepted : (parseJobUrl bare).toOption.isSome = true := by decide +kernel
    rw [show parseJobUrl bare = .error (.malformed bare reason) from rejected] at accepted
    cases accepted

end ReleaseTrigger
