import ReleaseTrigger.Proofs.JobUrl

/-! # Addresses of version 6 as hosts

A host in brackets is the address that the text between them denotes, and is shown in its canonical form. So
of two texts in the same place both give one URL if they denote one address, and none is given by texts
that denote two.
-/

namespace ReleaseTrigger

namespace Url.Parts

/-- Parts that differ in their authority and in how the name of the scheme and the slashes are written, if
at all. -/
structure SameAround (parts other : Parts) : Prop where
  scheme : other.scheme = parts.scheme
  path : other.path = parts.path
  rest : other.rest = parts.rest

variable {parts other : Parts} {userInfo : Option Text} {inner inner' : Text} {port : Option Text}
  {url : Url}

theorem SameAround.url_eq (around : parts.SameAround other) (authority : Authority) :
    other.url authority = parts.url authority := by
  simp only [Parts.url, around.scheme, around.path, around.rest]

/-- A host that is an address of version 6 stands in brackets. -/
theorem exists_divided (read : parts.read = .ok url) {address : Ipv6} (host : url.host = .ipv6 address) :
    ∃ userInfo inner port, Authority.Divided parts.authority userInfo ('[' :: (inner ++ [']'])) port := by
  obtain ⟨authority, parsed, rfl⟩ := parts.read_eq_ok_iff.mp read
  obtain ⟨place, number, hosted, -, rfl⟩ := Authority.parse_eq_ok_iff.mp parsed
  obtain rfl : place = .ipv6 address := host
  generalize cut : Text.cutLast (· == '@') parts.authority = halves at hosted
  obtain ⟨userInfo, place⟩ := halves
  generalize split : Authority.splitPort false place = found at hosted
  obtain ⟨text, port⟩ := found
  obtain ⟨inner, rfl, denotes⟩ := Host.eq_bracketed_of_parse hosted
  have brackets : ∀ c ∈ inner, c ≠ '[' ∧ c ≠ ']' := by
    intro c member
    have allowed := denotes.all c member
    constructor <;> (rintro rfl; cases allowed)
  exact ⟨userInfo, inner, port, .of_splits cut split (.inl ⟨inner, rfl, brackets⟩)⟩

/-- What is between brackets denotes an address, which is the host. -/
theorem read_bracketed_iff
    (divided : Authority.Divided parts.authority userInfo ('[' :: (inner ++ [']'])) port) :
    parts.read = .ok url ↔
      ∃ address number, Ipv6.Denotes inner address ∧
        Authority.parsePort (port.getD []) = .ok number ∧
        url = parts.url ⟨(Authority.parseUserInfo (userInfo.getD [])).1,
          (Authority.parseUserInfo (userInfo.getD [])).2, .ipv6 address,
          Authority.shownPort parts.scheme number⟩ := by
  rw [read_eq_ok_iff]
  constructor
  · rintro ⟨authority, parsed, rfl⟩
    obtain ⟨place, number, bracketed, numbered, rfl⟩ := divided.parse_eq_ok_iff.mp parsed
    obtain ⟨address, denotes, rfl⟩ := Host.parse_bracketed_eq_ok_iff.mp bracketed
    exact ⟨address, number, denotes, numbered, rfl⟩
  · rintro ⟨address, number, denotes, numbered, rfl⟩
    have bracketed := Host.parse_bracketed_eq_ok_iff.mpr ⟨address, denotes, rfl⟩
    exact ⟨_, divided.parse_eq_ok_iff.mpr ⟨_, number, bracketed, numbered, rfl⟩, rfl⟩

/-- The host of a bracketed text is the one address that the text denotes. -/
theorem exists_denotes_iff
    (divided : Authority.Divided parts.authority userInfo ('[' :: (inner ++ [']'])) port)
    (read : parts.read = .ok url) :
    ∃ address, url.host = .ipv6 address ∧ ∀ other, Ipv6.Denotes inner other ↔ other = address := by
  obtain ⟨address, number, denotes, -, rfl⟩ := (read_bracketed_iff divided).mp read
  refine ⟨address, rfl, fun other => ?_⟩
  constructor
  · exact fun denotes' => denotes.unique denotes'
  · rintro rfl
    exact denotes

/-- Another text for the same address gives the same URL. -/
theorem read_of_denotes
    (divided : Authority.Divided parts.authority userInfo ('[' :: (inner ++ [']'])) port)
    (divided' : Authority.Divided other.authority userInfo ('[' :: (inner' ++ [']'])) port)
    (around : parts.SameAround other) (read : parts.read = .ok url) {address : Ipv6}
    (denotes : Ipv6.Denotes inner address) (denotes' : Ipv6.Denotes inner' address) :
    other.read = .ok url := by
  obtain ⟨found, number, foundDenotes, numbered, rfl⟩ := (read_bracketed_iff divided).mp read
  obtain rfl := denotes.unique foundDenotes
  apply (read_bracketed_iff divided').mpr
  exact ⟨found, number, denotes', numbered, by rw [around.url_eq, around.scheme]⟩

end Url.Parts

/-- A URL with an address for its host and nothing else is read as that. -/
theorem parseJobUrl_address (address : Ipv6) :
    ∃ url, parseJobUrl (Text.of "http://[" ++ (Ipv6.render address ++ Text.of "]/")) = .ok url ∧
      url.host = .ipv6 address := by
  let url : Url :=
    { scheme := .http, username := [], password := none, host := .ipv6 address, port := none,
      path := [[]], query := none, fragment := none }
  have written : url.IsWritten :=
    { username := by simp [url, Percent.Escaped]
      password := by rintro _ ⟨⟩
      host := trivial
      port := by rintro _ ⟨⟩
      path_ne_nil := List.cons_ne_nil _ _
      path := List.forall_mem_singleton.mpr Path.isWritten_nil
      query := by rintro _ ⟨⟩
      fragment := by rintro _ ⟨⟩ }
  have stable : url.host.IsStable := by rintro _ _ _ ⟨⟩
  have text : url.render = Text.of "http://[" ++ (Ipv6.render address ++ Text.of "]/") := by
    simp [url, Url.render, Url.renderUserInfo, Url.renderPlace, Url.renderPath, Url.marked, Host.render,
      Path.render, Scheme.name, Text.of]
  rw [← text]
  exact ⟨url, parseJobUrl_of_isWritten written rfl stable, rfl⟩

/-- Hosts that are addresses of version 6 are canonical. An address has one canonical form; between brackets
it is the host of a URL that is read as the address, and every job URL shows that text as its host if and
only if its host is the address, in which case the host of its text is in brackets. What such brackets hold
denotes one address, and the URL shows its canonical form. Only texts for the same address give that URL;
and each of them gives it, in the same place with all around it the same. -/
theorem parseJobUrl_ipv6 :
    (∀ address : Ipv6, ∃ canonical,
      (∀ text, Ipv6.IsCanonical address text ↔ text = canonical) ∧
        (∃ url, parseJobUrl (Text.of "http://[" ++ (canonical ++ Text.of "]/")) = .ok url ∧
          url.host = .ipv6 address) ∧
        ∀ value url, parseJobUrl value = .ok url →
          (url.host = .ipv6 address ↔ url.host.render = '[' :: (canonical ++ [']']))) ∧
      ∀ (value : Text) (url : Url) (parts : Url.Parts), parseJobUrl value = .ok url →
        Url.clean value = parts.text →
        (∀ address, url.host = .ipv6 address →
          ∃ userInfo inner port,
            Authority.Divided parts.authority userInfo ('[' :: (inner ++ [']'])) port) ∧
        ∀ (userInfo : Option Text) (inner : Text) (port : Option Text),
          Authority.Divided parts.authority userInfo ('[' :: (inner ++ [']'])) port →
          ∃ address canonical, (∀ other, Ipv6.Denotes inner other ↔ other = address) ∧
            Ipv6.IsCanonical address canonical ∧ url.host = .ipv6 address ∧
            url.host.render = '[' :: (canonical ++ [']']) ∧
            ∀ (value' : Text) (parts' : Url.Parts) (inner' : Text), Url.clean value' = parts'.text →
              (∀ userInfo' port',
                Authority.Divided parts'.authority userInfo' ('[' :: (inner' ++ [']'])) port' →
                parseJobUrl value' = .ok url → Ipv6.Denotes inner' address) ∧
              (Authority.Divided parts'.authority userInfo ('[' :: (inner' ++ [']'])) port →
                parts.SameAround parts' → Ipv6.Denotes inner' address →
                parseJobUrl value' = .ok url) := by
  constructor
  · intro address
    refine ⟨Ipv6.render address, fun text => Ipv6.isCanonical_iff, parseJobUrl_address address, ?_⟩
    intro value url accepted
    constructor
    · intro host
      rw [host]
      rfl
    · intro shown
      have written := (isWritten_of_parseJobUrl accepted).host
      have written' : (Host.ipv6 address).IsWritten := trivial
      exact Host.render_injective written written' shown
  · intro value url parts accepted cleaned
    obtain ⟨read, web⟩ := (Url.Parts.parseJobUrl_iff_read cleaned).mp accepted
    refine ⟨fun address host => Url.Parts.exists_divided read host, ?_⟩
    intro userInfo inner port divided
    obtain ⟨address, host, denotes⟩ := Url.Parts.exists_denotes_iff divided read
    refine ⟨address, Ipv6.render address, denotes, Ipv6.isCanonical_render address, host,
      by rw [host]; rfl, ?_⟩
    intro value' parts' inner' cleaned'
    constructor
    · intro userInfo' port' divided' accepted'
      have read' := Url.Parts.read_of_parseJobUrl cleaned' accepted'
      obtain ⟨found, host', denotes'⟩ := Url.Parts.exists_denotes_iff divided' read'
      obtain rfl : address = found := Host.ipv6.inj (host.symm.trans host')
      exact (denotes' address).mpr rfl
    · intro divided' around denotes'
      apply (Url.Parts.parseJobUrl_iff_read cleaned').mpr
      have read' := Url.Parts.read_of_denotes divided divided' around read ((denotes address).mpr rfl)
        denotes'
      exact ⟨read', by rw [around.scheme]; exact web⟩

/-- Capitals, leading zeros and decimal octets, and two colons for as many zeros. -/
theorem parseJobUrl_ipv6_spelled :
    let value := Text.of "HTTP://u:p@[00:0:0:0:0:FFFF:192.168.0.1]:80/job?x"
    let value' := Text.of "http:\\u:p@[::ffFF:C0a8:0001]:80/job?x"
    ∃ url, parseJobUrl value = .ok url ∧ url.host.render = Text.of "[::ffff:c0a8:1]" ∧
      parseJobUrl value' = .ok url := by
  intro value value'
  let address : Ipv6 := ⟨[0, 0, 0, 0, 0, 0xFFFF, 0xC0A8, 1], rfl⟩
  let inner := Text.of "00:0:0:0:0:FFFF:192.168.0.1"
  let inner' := Text.of "::ffFF:C0a8:0001"
  let parts := Url.Parts.ofTexts .http (Text.of "HTTP") (Text.of "//")
    (Text.of "u:p@[00:0:0:0:0:FFFF:192.168.0.1]:80") (Text.of "/job") (Text.of "?x") (by decide)
  let parts' := Url.Parts.ofTexts .http (Text.of "http") (Text.of "\\")
    (Text.of "u:p@[::ffFF:C0a8:0001]:80") (Text.of "/job") (Text.of "?x") (by decide)
  let url : Url :=
    { scheme := .http, username := Text.of "u", password := some (Text.of "p"),
      host := .ipv6 address, port := none, path := [Text.of "job"], query := some (Text.of "x"),
      fragment := none }
  have accepted : parseJobUrl value = .ok url := by decide +kernel
  have cleaned : Url.clean value = parts.text := by decide +kernel
  have cleaned' : Url.clean value' = parts'.text := by decide +kernel
  have divided : Authority.Divided parts.authority (some (Text.of "u:p")) ('[' :: (inner ++ [']']))
      (some (Text.of "80")) :=
    ⟨by decide, .inl ⟨inner, rfl, List.forall_iff_forall_mem.mp (by decide)⟩,
      List.forall_iff_forall_mem.mp (by decide)⟩
  have divided' : Authority.Divided parts'.authority (some (Text.of "u:p")) ('[' :: (inner' ++ [']']))
      (some (Text.of "80")) :=
    ⟨by decide, .inl ⟨inner', rfl, List.forall_iff_forall_mem.mp (by decide)⟩,
      List.forall_iff_forall_mem.mp (by decide)⟩
  have denotes : Ipv6.Denotes inner' address := Ipv6.parse?_eq_some_iff.mp (by decide +kernel)
  obtain ⟨found, canonical, -, -, host, -, others⟩ :=
    (parseJobUrl_ipv6.2 value url parts accepted cleaned).2 _ _ _ divided
  obtain rfl : address = found := Host.ipv6.inj host
  obtain ⟨-, same⟩ := others value' parts' inner' cleaned'
  exact ⟨url, accepted, by decide +kernel, same divided' ⟨rfl, rfl, rfl⟩ denotes⟩

end ReleaseTrigger
