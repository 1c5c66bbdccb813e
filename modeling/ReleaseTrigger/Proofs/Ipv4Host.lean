import ReleaseTrigger.Proofs.Url.Place

/-! # Addresses of version 4 as hosts

A host of numbers between dots is never a domain name: it is the address that the numbers denote, or the
text is no URL. Whatever base the numbers are written in and however many digits they have, the address is
their exact sum, and the URL shows it in its dotted form.
-/

namespace ReleaseTrigger

namespace Ipv4.Dotted

variable {text : Text} {numbers : List Nat} (dotted : Dotted text numbers)

include dotted

/-- Dotted numbers stand for a host without a port. -/
theorem divided : Authority.Divided text none text none where
  whole := (List.append_nil text).symm
  isHostText := by
    refine .inr fun c member => ?_
    rcases dotted.mem member with alphanumeric | rfl
    · refine ⟨?_, ?_, ?_⟩ <;> (rintro rfl; cases alphanumeric)
    · decide
  last := by
    rw [Url.marked, List.append_nil]
    rintro c member rfl
    rcases dotted.mem member with alphanumeric | dot
    · cases alphanumeric
    · cases dot

/-- An authority of dotted numbers is the address that they denote. -/
theorem parse_authority (scheme : Scheme) :
    Authority.parse scheme text = match ofNumbers? numbers with
      | some address => .ok ⟨[], none, .ipv4 address, none⟩
      | none => .error .ipv4Address := by
  rw [dotted.divided.parse_eq, Host.parse_of_dotted dotted]
  cases ofNumbers? numbers <;> rfl

/-- Nothing is dropped from dotted numbers, and nothing ends the authority among them. -/
theorem solid {c : Char} (member : c ∈ text) : Url.isEdgeBlank c = false ∧ Url.endsAuthority c = false := by
  rcases dotted.mem member with alphanumeric | rfl
  · exact Url.solid_of_isAlphanum alphanumeric
  · decide

end Ipv4.Dotted

/-- A URL with dotted numbers for its host has the address that they denote, or there is no such URL. -/
theorem parseJobUrl_dotted {text : Text} {numbers : List Nat} (dotted : Ipv4.Dotted text numbers) :
    let value := Text.of "http://" ++ (text ++ ['/'])
    (∃ address url, Ipv4.ofNumbers? numbers = some address ∧ parseJobUrl value = .ok url ∧
        url.host = .ipv4 address) ∨
      Ipv4.ofNumbers? numbers = none ∧ parseJobUrl value = .error (.malformed value .ipv4Address) := by
  intro value
  have stays : Url.kept text = text :=
    Url.kept_of_solid fun c member => Url.isIgnored_of_isEdgeBlank_eq_false (dotted.solid member).1
  have isTail : Url.IsTail ['/'] := .cons (by decide) []
  have named : Text.lower (Text.of "http") = Scheme.http.name := rfl
  have outcome := Url.parseJobUrl_authority (by rfl) named dotted.ne_nil
    (dotted.solid (List.getLast_mem _)).1 (fun c member => (dotted.solid member).2) isTail
  rw [stays, dotted.parse_authority] at outcome
  cases denoted : Ipv4.ofNumbers? numbers with
  | none =>
    rw [denoted] at outcome
    rcases outcome with ⟨_, _, ⟨⟩, _⟩ | ⟨_, ⟨⟩, rejected⟩
    exact .inr ⟨rfl, rejected⟩
  | some address =>
    rw [denoted] at outcome
    rcases outcome with ⟨_, url, ⟨⟩, accepted, -, host, -⟩ | ⟨_, ⟨⟩, _⟩
    exact .inl ⟨address, url, rfl, accepted, host⟩

/-- Numbers between dots, each in decimal, octal or hexadecimal and of any length, are the host of a URL if
and only if there are four of them at most, all but the last are octets, and the last one fills no more than
the octets that remain. The host is then an address, the sum of the numbers at their places, of which it
shows the octets in decimal. Otherwise the text is refused because of its address. -/
theorem parseJobUrl_ipv4 {text : Text} {before : List Nat} {last : Nat}
    (dotted : Ipv4.Dotted text (before ++ [last])) :
    let value := Text.of "http://" ++ (text ++ ['/'])
    let count := (before ++ [last]).length
    let fits := count ≤ 4 ∧ (∀ number ∈ before, number ≤ 255) ∧ last < 256 ^ (5 - count)
    ((∃ url, parseJobUrl value = .ok url) ↔ fits) ∧
      (∀ url, parseJobUrl value = .ok url → ∃ address a b c d,
        url.host = .ipv4 address ∧
        address.toNat = ∑ place : Fin before.length, before.get place * 256 ^ (3 - place.val) + last ∧
        (a ≤ 255 ∧ b ≤ 255 ∧ c ≤ 255 ∧ d ≤ 255) ∧
        address.toNat = a * 256 ^ 3 + b * 256 ^ 2 + c * 256 + d ∧
        url.host.render = Text.decimal a ++ '.' :: (Text.decimal b ++ '.' ::
          (Text.decimal c ++ '.' :: Text.decimal d))) ∧
      (¬fits → parseJobUrl value = .error (.malformed value .ipv4Address)) ∧
      UrlError.ipv4Address.message = Text.of "invalid IPv4 address" := by
  intro value count fits
  have bounds : fits ↔ Ipv4.Fits before last := by
    have counted : count = before.length + 1 := List.length_append
    have room : 5 - count = 4 - before.length := by omega
    simp only [fits, room]
    constructor
    · rintro ⟨short, octets, bound⟩
      exact ⟨by omega, octets, bound⟩
    · rintro ⟨short, octets, bound⟩
      exact ⟨by omega, octets, bound⟩
  rw [bounds]
  rcases parseJobUrl_dotted dotted with ⟨address, url, denoted, accepted, host⟩ | ⟨denoted, rejected⟩
  · obtain ⟨inside, sum⟩ := Ipv4.ofNumbers?_eq_some_iff.mp denoted
    refine ⟨⟨fun _ => inside, fun _ => ⟨url, accepted⟩⟩, ?_, fun outside => absurd inside outside, rfl⟩
    intro other accepted'
    obtain rfl : url = other := Except.ok.inj (accepted.symm.trans accepted')
    obtain ⟨a, b, c, d, octets, digits, shown⟩ := Ipv4.exists_octets address
    exact ⟨address, a, b, c, d, host, sum, octets, digits, by rw [host]; exact shown⟩
  · have outside := Ipv4.ofNumbers?_eq_none_iff.mp denoted
    have refused : ∀ url, parseJobUrl value ≠ .ok url := by
      intro url accepted
      cases accepted.symm.trans rejected
    exact ⟨⟨fun ⟨url, accepted⟩ => absurd accepted (refused url), fun inside => absurd inside outside⟩,
      fun url accepted => absurd accepted (refused url), fun _ => rejected, rfl⟩

/-- Three bases, more digits than an address has bits, and a last number that fills two octets; one more
does not fit into them. -/
theorem parseJobUrl_ipv4_mixed :
    let value := Text.of "http://0X7f.0000000000000000000000000000000000000000377.65535./"
    let value' := Text.of "http://0X7f.0000000000000000000000000000000000000000377.65536./"
    (∃ url, parseJobUrl value = .ok url ∧ url.host.render = Text.of "127.255.255.255") ∧
      parseJobUrl value' = .error (.malformed value' .ipv4Address) := by
  intro value value'
  have spells (part : Text) (number : Nat) (read : Ipv4.number? part = some number) :=
    Ipv4.spells_of_number? read
  have first := spells (Text.of "0X7f") 127 (by decide)
  have second := spells (Text.of "0000000000000000000000000000000000000000377") 255 (by decide +kernel)
  have last := spells (Text.of "65535") 65535 (by decide)
  have last' := spells (Text.of "65536") 65536 (by decide)
  have dotted : Ipv4.Dotted _ ([127, 255] ++ [65535]) := .more first (.more second (.closed last))
  have dotted' : Ipv4.Dotted _ ([127, 255] ++ [65536]) := .more first (.more second (.closed last'))
  obtain ⟨accepted, shown, -⟩ := parseJobUrl_ipv4 dotted
  obtain ⟨-, -, refused, -⟩ := parseJobUrl_ipv4 dotted'
  obtain ⟨url, accepted⟩ := accepted.mpr (by decide)
  obtain ⟨address, a, b, c, d, host, sum, -, -, -⟩ := shown url accepted
  have value : address = 0x7FFFFFFF#32 := BitVec.eq_of_toNat_eq (sum.trans (by decide))
  refine ⟨⟨url, accepted, ?_⟩, refused (by decide)⟩
  rw [host, value]
  decide +kernel

end ReleaseTrigger
