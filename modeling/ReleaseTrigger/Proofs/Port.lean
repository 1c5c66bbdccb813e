import ReleaseTrigger.Proofs.Url.Place

/-! # Ports

The digits after a host are a port if their value is at most 65535, however many of them there are; no
digits are none. The port that a scheme stands for by itself is left out of the URL, and any other is shown in
decimal.
-/

namespace ReleaseTrigger

namespace Url

/-- The port that digits stand for in a URL of a scheme. -/
def portOf (scheme : Scheme) (digits : Text) : Option Nat :=
  Authority.shownPort scheme (if digits = [] then none else some (Text.positional 10 digits))

variable {scheme : Scheme} {name host digits tail : Text} {bare : Url}

theorem portOf_eq_some_iff {number : Nat} :
    portOf scheme digits = some number ↔
      digits ≠ [] ∧ Text.positional 10 digits = number ∧ number ≠ scheme.defaultPort := by
  rw [portOf, Authority.shownPort_eq_some_iff]
  split_ifs with empty
  · simp [empty]
  · simp [empty]

theorem portOf_eq_none_iff :
    portOf scheme digits = none ↔ digits = [] ∨ Text.positional 10 digits = scheme.defaultPort := by
  rw [Option.eq_none_iff_forall_ne_some]
  constructor
  · intro hidden
    by_contra! shown
    exact hidden _ (portOf_eq_some_iff.mpr ⟨shown.1, rfl, shown.2⟩)
  · rintro hidden number shown
    obtain ⟨some, rfl, other⟩ := portOf_eq_some_iff.mp shown
    rcases hidden with empty | same
    · exact some empty
    · exact other same

/-! ## Hosts and ports -/

section Host

variable (named : Text.lower name = scheme.name) (inside : ∀ c ∈ host, endsAuthority c = false)
  (nameless : ∀ c ∈ host, c ≠ '@') (isHostText : Authority.IsHostText (kept host))

include named inside nameless isHostText

/-- A URL with nothing but a host has the host that is read from what is left of its text. -/
theorem parse_host_of_parseJobUrl
    (accepted : parseJobUrl (name ++ Text.of "://" ++ (host ++ ['/'])) = .ok bare) :
    Host.parse (kept host) = .ok bare.host := by
  have isTail : IsTail ['/'] := .cons (by decide) []
  have followed : ['/'] = [] → ∃ front last, host = front ++ [last] ∧ isEdgeBlank last = false := by
    rintro ⟨⟩
  have cleaned := clean_authority named followed isTail
  -- A text without an authority has no parts, but it is not accepted either.
  by_cases empty : kept host = []
  · have refused : AnyUrl.parse (name ++ Text.of "://" ++ (host ++ ['/'])) = .error .emptyHost := by
      simp only [AnyUrl.parse, cleaned, empty, splitScheme?_append named, Scheme.ofName?_name]
      rfl
    cases (parseJobUrl_eq_ok_iff.mp accepted).1.symm.trans refused
  · obtain ⟨parts, cleaned, rfl, authority⟩ := exists_parts_of_clean cleaned named empty inside isTail
    have divided : Authority.Divided parts.authority none (kept host) none := by
      refine ⟨by rw [authority]; exact (List.append_nil _).symm, isHostText, fun c member => ?_⟩
      rw [marked, List.append_nil] at member
      exact nameless c (List.mem_of_mem_filter member)
    obtain ⟨found, read, rfl⟩ := parts.read_eq_ok_iff.mp (Parts.read_of_parseJobUrl cleaned accepted)
    obtain ⟨place, _, hosted, -, rfl⟩ := divided.parse_eq_ok_iff.mp read
    exact hosted

/-- A text with a host and digits after it has the two for its authority, whatever comes then. -/
theorem exists_parts_of_port (isDigit : ∀ c ∈ digits, c.isDigit = true) (isTail : IsTail tail) :
    ∃ parts : Parts, clean (name ++ Text.of "://" ++ (host ++ ':' :: digits ++ tail)) = parts.text ∧
      parts.scheme = scheme ∧ Authority.Divided parts.authority none (kept host) (some digits) := by
  have solid : ∀ c ∈ ':' :: digits, isEdgeBlank c = false ∧ endsAuthority c = false := by
    intro c member
    rcases List.mem_cons.mp member with rfl | member
    · decide
    · exact solid_of_isAlphanum (by rw [Char.isAlphanum, isDigit c member, Bool.or_true])
  have inside' : ∀ c ∈ host ++ ':' :: digits, endsAuthority c = false :=
    List.forall_mem_append.mpr ⟨inside, fun c member => (solid c member).2⟩
  have stays : kept (host ++ ':' :: digits) = kept host ++ ':' :: digits := by
    rw [kept_append]
    exact congrArg _ (kept_of_solid fun c member => isIgnored_of_isEdgeBlank_eq_false (solid c member).1)
  have last : ∃ front last, host ++ ':' :: digits = front ++ [last] ∧ isEdgeBlank last = false := by
    obtain ⟨front, last, same⟩ := (List.eq_nil_or_concat' (':' :: digits)).resolve_left (List.cons_ne_nil _ _)
    refine ⟨host ++ front, last, by rw [same, List.append_assoc], (solid last ?_).1⟩
    rw [same]
    exact List.mem_append_right _ (List.mem_singleton_self last)
  obtain ⟨parts, cleaned, kind, authority⟩ := exists_parts_of_clean
    (clean_authority named (fun _ => last) isTail) named (by rw [stays]; simp) inside' isTail
  refine ⟨parts, cleaned, kind, by rw [authority, stays]; rfl, isHostText, fun c member => ?_⟩
  rcases List.mem_append.mp member with member | member
  · exact nameless c (List.mem_of_mem_filter member)
  rcases List.mem_cons.mp member with rfl | member
  · decide
  · rintro rfl
    cases isDigit '@' member

end Host

/-- A URL with a host and digits after it is read as that if the digits are a port. -/
theorem Parts.read_of_port {parts : Parts} {place : Host}
    (divided : Authority.Divided parts.authority none host (some digits))
    (hosted : Host.parse host = .ok place) (isDigit : ∀ c ∈ digits, c.isDigit = true) :
    parts.read = if Text.positional 10 digits ≤ 65535 then
      .ok (parts.url ⟨[], none, place, portOf parts.scheme digits⟩) else .error .port := by
  rw [read, divided.parse_eq, hosted, Option.getD_some, Authority.parsePort_of_isDigit isDigit]
  by_cases small : Text.positional 10 digits ≤ 65535
  · rw [if_pos small, if_pos small]
    rfl
  · rw [if_neg small, if_neg small]
    rfl

/-- A URL without user info shows its port, if it has one, between its host and the first slash of its
path. -/
theorem exists_render_eq {url : Url} (username : url.username = []) (password : url.password = none)
    (path : url.path ≠ []) :
    ∃ shown rest,
      url.render = url.scheme.name ++ Text.of "://" ++ url.host.render ++ shown ++ '/' :: rest ∧
        (url.port = none → shown = []) ∧
        ∀ number, url.port = some number → ∃ numeral, shown = ':' :: numeral ∧ numeral ≠ [] ∧
          (∀ c ∈ numeral, c.isDigit = true) ∧ Text.positional 10 numeral = number ∧
          (numeral.head? = some '0' → numeral = ['0']) := by
  obtain ⟨segment, segments, same⟩ := List.exists_cons_of_ne_nil path
  refine ⟨marked ':' (url.port.map Text.decimal),
    segment ++ Path.render segments ++ marked '?' url.query ++ marked '#' url.fragment, ?_, ?_, ?_⟩
  · simp [render, renderUserInfo, renderPlace, renderPath, username, password, same, Path.render]
  · intro hidden
    rw [hidden]
    rfl
  · intro number shown
    obtain ⟨some, digits, value, leading⟩ := Text.eq_decimal_iff.mp (rfl : Text.decimal number = _)
    refine ⟨Text.decimal number, ?_, some, Text.isInBase_ten_iff.mp digits, value, leading⟩
    rw [shown]
    rfl

end Url

/-- Digits of any number after a host are accepted if and only if their value is at most 65535, whatever
comes after them. There is then no port if there are no digits or their value is the port of the scheme, and
else their value is the port. The URL shows it without leading zeros, and nothing where there is none. Digits
of a greater value are always refused because of the port. -/
theorem parseJobUrl_port {name host digits tail : Text} {standard : Nat} {bare : Url}
    (web : Text.lower name = Text.of "http" ∧ standard = 80 ∨
      Text.lower name = Text.of "https" ∧ standard = 443)
    (inside : ∀ c ∈ host, c ∉ Text.of "/\\?#@") (isHostText : Authority.IsHostText (Url.kept host))
    (accepted : parseJobUrl (name ++ Text.of "://" ++ (host ++ ['/'])) = .ok bare)
    (isDigit : ∀ c ∈ digits, c.isDigit = true) (isTail : Url.IsTail tail) :
    let text := name ++ Text.of "://" ++ (host ++ ':' :: digits ++ tail)
    let value := Text.positional 10 digits
    ((∃ url, parseJobUrl text = .ok url) ↔ value ≤ 65535) ∧
      (∀ url, parseJobUrl text = .ok url →
        url.host = bare.host ∧
        (url.port = none ↔ digits = [] ∨ value = standard) ∧
        (∀ number, url.port = some number → number = value) ∧
        ∃ shown rest,
          url.render = Text.lower name ++ Text.of "://" ++ url.host.render ++ shown ++ '/' :: rest ∧
          (url.port = none → shown = []) ∧
          ∀ number, url.port = some number → ∃ numeral, shown = ':' :: numeral ∧ numeral ≠ [] ∧
            (∀ c ∈ numeral, c.isDigit = true) ∧ Text.positional 10 numeral = number ∧
            (numeral.head? = some '0' → numeral = ['0'])) ∧
      (65535 < value → parseJobUrl text = .error (.malformed text .port)) ∧
      UrlError.port.message = Text.of "invalid port number" := by
  intro text value
  obtain ⟨scheme, isWeb, named, rfl⟩ : ∃ scheme : Scheme, scheme.isWeb = true ∧
      Text.lower name = scheme.name ∧ scheme.defaultPort = standard := by
    rcases web with ⟨named, rfl⟩ | ⟨named, rfl⟩
    · exact ⟨.http, rfl, named, rfl⟩
    · exact ⟨.https, rfl, named, rfl⟩
  have goesOn : ∀ c ∈ host, Url.endsAuthority c = false := by
    intro c member
    exact Url.endsAuthority_eq_false_iff.mpr fun mark => inside c member (List.mem_append_left ['@'] mark)
  have nameless : ∀ c ∈ host, c ≠ '@' := by
    rintro c member rfl
    exact inside '@' member (by decide)
  have hosted := Url.parse_host_of_parseJobUrl named goesOn nameless isHostText accepted
  obtain ⟨parts, cleaned, rfl, divided⟩ :=
    Url.exists_parts_of_port named goesOn nameless isHostText isDigit isTail
  have outcome := Url.Parts.parseJobUrl_eq cleaned isWeb
  rw [Url.Parts.read_of_port divided hosted isDigit] at outcome
  by_cases small : value ≤ 65535
  · rw [if_pos small] at outcome
    refine ⟨⟨fun _ => small, fun _ => ⟨_, outcome⟩⟩, ?_, fun large => absurd small (by omega), rfl⟩
    intro url accepted
    obtain rfl := Except.ok.inj (outcome.symm.trans accepted)
    refine ⟨rfl, Url.portOf_eq_none_iff, ?_, ?_⟩
    · intro number shown
      exact (Url.portOf_eq_some_iff.mp shown).2.1.symm
    · rw [named]
      exact Url.exists_render_eq rfl rfl (isWritten_of_parseJobUrl accepted).path_ne_nil
  · rw [if_neg small] at outcome
    have refused : ∀ url, parseJobUrl text ≠ .ok url := by
      intro url accepted
      cases accepted.symm.trans outcome
    exact ⟨⟨fun ⟨url, accepted⟩ => absurd accepted (refused url), fun inside => absurd inside small⟩,
      fun url accepted => absurd accepted (refused url), fun _ => outcome, rfl⟩

/-- Leading zeros, and the port of the other scheme; and digits that would be the port of the scheme if they
wrapped at 16 bits. -/
theorem parseJobUrl_port_zeros :
    let text := Text.of "HtTp://[0::1]:000000000000000000000000443\\job"
    let text' := Text.of "HtTp://[0::1]:65616\\job"
    (∃ url rest, parseJobUrl text = .ok url ∧ url.port = some 443 ∧
        url.render = Text.of "http://" ++ url.host.render ++ Text.of ":443/" ++ rest) ∧
      parseJobUrl text' = .error (.malformed text' .port) := by
  intro text text'
  let host := Text.of "[0::1]"
  let bare : Url :=
    { scheme := .http, username := [], password := none, host := .ipv6 ⟨[0, 0, 0, 0, 0, 0, 0, 1], rfl⟩,
      port := none, path := [[]], query := none, fragment := none }
  have web : Text.lower (Text.of "HtTp") = Text.of "http" ∧ 80 = 80 ∨
      Text.lower (Text.of "HtTp") = Text.of "https" ∧ 80 = 443 := .inl ⟨by decide, rfl⟩
  have inside : ∀ c ∈ host, c ∉ Text.of "/\\?#@" := List.forall_iff_forall_mem.mp (by decide)
  have isHostText : Authority.IsHostText (Url.kept host) :=
    .inl ⟨Text.of "0::1", by decide, List.forall_iff_forall_mem.mp (by decide)⟩
  have accepted : parseJobUrl (Text.of "HtTp" ++ Text.of "://" ++ (host ++ ['/'])) = .ok bare := by
    decide +kernel
  have isTail : Url.IsTail (Text.of "\\job") := .cons (by decide) _
  have digits (numeral : Text) (number : Nat) (read : Text.number? 10 numeral = some number) :
      (∀ c ∈ numeral, c.isDigit = true) ∧ Text.positional 10 numeral = number := by
    obtain ⟨-, inside, value⟩ := Text.number?_eq_some_iff_positional.mp read
    exact ⟨Text.isInBase_ten_iff.mp inside, value⟩
  obtain ⟨isDigit, value⟩ := digits (Text.of "000000000000000000000000443") 443 (by decide)
  obtain ⟨isDigit', value'⟩ := digits (Text.of "65616") 65616 (by decide)
  obtain ⟨reaches, shows, -⟩ := parseJobUrl_port web inside isHostText accepted isDigit isTail
  obtain ⟨-, -, refused, -⟩ := parseJobUrl_port web inside isHostText accepted isDigit' isTail
  obtain ⟨url, accepted⟩ := reaches.mpr (by rw [value]; decide)
  obtain ⟨-, hidden, ported, shown, rest, rendered, -, numeral⟩ := shows url accepted
  rw [value] at hidden
  obtain ⟨number, port⟩ := Option.ne_none_iff_exists'.mp (mt hidden.mp (by decide))
  obtain rfl := (ported number port).trans value
  obtain ⟨numeral, rfl, written⟩ := numeral 443 port
  rw [← Text.isInBase_ten_iff, ← Text.eq_decimal_iff] at written
  refine ⟨⟨url, rest, accepted, port, ?_⟩, refused (by rw [value']; decide)⟩
  have plain : Text.of "443" = Text.decimal 443 := Text.eq_decimal_of_number? (by decide) (by decide)
  rw [rendered, written, ← plain]
  simp [Text.of, Text.lower]

end ReleaseTrigger
