import ReleaseTrigger.Proofs.Domain.Name
import ReleaseTrigger.Proofs.Text.Utf8
import ReleaseTrigger.Proofs.Url.Ipv4
import ReleaseTrigger.Proofs.Url.Ipv6
import ReleaseTrigger.Url.Host

/-! # Written hosts

The text of a host says which kind it is: only addresses of version 6 begin with a bracket, and of the
others only addresses of version 4 end in a number. So no two hosts have one text, and a host is read
back from its text, provided that its domain name is its own ASCII form.
-/

namespace ReleaseTrigger

theorem Text.isWide_of_isAlphanum {c : Char} (alphanumeric : c.isAlphanum = true) :
    isWide c = false := by
  have ranges : ((c.isUpper || c.isLower) || c.isDigit) = true := alphanumeric
  rw [Bool.or_eq_true, Bool.or_eq_true] at ranges
  have bound : c.toNat < 0x80 := by
    obtain (upper | lower) | digit := ranges
    · have upper : 'A'.val ≤ c.val ∧ c.val ≤ 'Z'.val := of_decide_eq_true upper
      exact Nat.lt_of_le_of_lt upper.2 (by decide)
    · have lower : (decide ('a'.val ≤ c.val) && decide (c.val ≤ 'z'.val)) = true := lower
      exact Nat.lt_of_le_of_lt (of_decide_eq_true (Bool.and_eq_true_iff.mp lower).2) (by decide)
    · exact Nat.lt_of_le_of_lt (Char.isDigit_iff_toNat.mp digit).2 (by decide)
  simpa [isWide] using bound

theorem Text.exists_code_of_isWide_eq_false {c : Char} (ascii : isWide c = false) :
    ∃ code < 0x80, c = Char.ofNat code :=
  ⟨c.toNat, by simpa [isWide] using ascii, (Char.ofNat_toNat c).symm⟩

theorem Domain.isForbidden_of_isAlphanum {c : Char} (alphanumeric : c.isAlphanum = true) :
    isForbidden c = false := by
  have allowed : ∀ code < 0x80, (Char.ofNat code).isAlphanum = true →
      isForbidden (Char.ofNat code) = false := by decide
  obtain ⟨code, bound, rfl⟩ :=
    Text.exists_code_of_isWide_eq_false (Text.isWide_of_isAlphanum alphanumeric)
  exact allowed code bound alphanumeric

/-- A name of letters, decimal digits and dots has itself in lower case for its ASCII form. -/
theorem Domain.toAscii?_of_isAlphanum {name : Text}
    (chars : ∀ c ∈ name, c.isAlphanum = true ∨ c = '.') : toAscii? name = some (Text.lower name) := by
  have ascii : ∀ c ∈ name, Text.isWide c = false := by
    intro c member
    rcases chars c member with alphanumeric | rfl
    · exact Text.isWide_of_isAlphanum alphanumeric
    · rfl
  have plain : ∀ c ∈ Text.lower name, isForbidden c = false ∧ c ≠ '-' := by
    have letters : ∀ code < 0x80, (Char.ofNat code).isAlphanum = true →
        isForbidden (Char.ofNat code).toLower = false ∧ (Char.ofNat code).toLower ≠ '-' := by decide
    intro c member
    obtain ⟨original, present, rfl⟩ := List.mem_map.mp member
    rcases chars original present with alphanumeric | rfl
    · obtain ⟨code, bound, rfl⟩ := Text.exists_code_of_isWide_eq_false (ascii original present)
      exact letters code bound alphanumeric
    · decide
  apply toAscii?_of_plain ascii fun c member => (plain c member).1
  intro label member
  rw [← Bool.not_eq_true, List.isPrefixOf_iff_prefix]
  intro encoded
  have hyphen : '-' ∈ Text.lower name := Text.mem_of_mem_splitOn member (encoded.subset (by decide))
  exact (plain '-' hyphen).2 rfl

namespace Host

/-- A host as a URL holds it: a domain name is in ASCII form, is not empty, and does not pass for an
address. -/
def IsWritten : Host → Prop
  | .domain name => name ≠ [] ∧ (∃ given, Domain.toAscii? given = some name) ∧
      Ipv4.endsInNumber name = false
  | .ipv4 _ => True
  | .ipv6 _ => True

/-- A host whose domain name, if it is one, is no more changed once it is in ASCII form. -/
def IsStable (host : Host) : Prop :=
  ∀ given name, Domain.toAscii? given = some name → host = .domain name →
    Domain.toAscii? name = some name

/-- A text in ASCII form is ASCII, and holds no character that a domain name may not hold. -/
theorem allowed_of_toAscii? {given name : Text} (form : Domain.toAscii? given = some name) :
    ∀ c ∈ name, Text.isWide c = false ∧ Domain.isForbidden c = false :=
  fun _ member =>
    ⟨Domain.isWide_of_mem_toAscii? form member, Domain.isForbidden_of_mem_toAscii? form member⟩

/-! ## What is read is written -/

theorem ofName_cases {name : Text} {host : Host} (named : ofName name = .ok host) :
    name ≠ [] ∧ ((Ipv4.endsInNumber name = false ∧ host = .domain name) ∨
      ∃ address, Ipv4.parse? name = some address ∧ host = .ipv4 address) := by
  unfold ofName at named
  split_ifs at named with empty number
  · refine ⟨by simpa using empty, ?_⟩
    cases parsed : Ipv4.parse? name with
    | none =>
      rw [parsed] at named
      cases named
    | some address =>
      rw [parsed] at named
      cases named
      exact .inr ⟨address, rfl, rfl⟩
  · cases named
    exact ⟨by simpa using empty, .inl ⟨Bool.eq_false_iff.mpr number, rfl⟩⟩

theorem parseBracketed_eq_ok {text : Text} {host : Host} (parsed : parseBracketed text = .ok host) :
    ∃ address, host = .ipv6 address := by
  unfold parseBracketed at parsed
  split at parsed
  · split at parsed
    · cases parsed
      exact ⟨_, rfl⟩
    · cases parsed
  · cases parsed

theorem isWritten_of_parse {text : Text} {host : Host} (parsed : parse text = .ok host) :
    host.IsWritten := by
  unfold parse at parsed
  split at parsed
  · cases parsed
  · obtain ⟨address, rfl⟩ := parseBracketed_eq_ok parsed
    trivial
  · split at parsed
    · cases parsed
    · rename_i name written
      obtain ⟨decoded, -, written⟩ := Option.bind_eq_some_iff.mp written
      obtain ⟨some, ⟨wordy, rfl⟩ | ⟨address, -, rfl⟩⟩ := ofName_cases parsed
      · exact ⟨some, ⟨decoded, written⟩, wordy⟩
      · trivial

/-! ## What is written is read back -/

/-- Text with neither brackets nor escapes is put into its ASCII form and read as a name. -/
theorem parse_of_unmarked {text : Text} (some : text ≠ []) (unmarked : ∀ c ∈ text, c ≠ '[' ∧ c ≠ '%') :
    parse text = match Domain.toAscii? text with
      | none => .error .domainName
      | .some name => ofName name := by
  have decoded : Utf8.decode? (Percent.decode text) = .some text := by
    rw [Percent.decode_of_unmarked fun c member => (unmarked c member).2]
    exact Utf8.decode?_eq_some_iff.mpr rfl
  unfold parse
  split
  · exact absurd rfl some
  · exact absurd rfl (unmarked '[' (List.mem_cons_self ..)).1
  · cases ascii : Domain.toAscii? text with
    | none => simp only [decoded, Option.bind_some, ascii]
    | some name => simp only [decoded, Option.bind_some, ascii]

/-- Text that is its own ASCII form is read as a name. -/
theorem parse_of_stable {name : Text} (some : name ≠ [])
    (stable : Domain.toAscii? name = .some name) : parse name = ofName name := by
  have allowed := allowed_of_toAscii? stable
  rw [parse_of_unmarked some, stable]
  intro c member
  constructor <;>
  · rintro rfl
    exact absurd (allowed _ member).2 (by decide)

theorem toAscii?_render (address : Ipv4) :
    Domain.toAscii? (Ipv4.render address) = some (Ipv4.render address) := by
  have chars : ∀ c ∈ Ipv4.render address, c.isDigit = true ∨ c = '.' := fun _ => Ipv4.mem_render
  have small : ∀ c ∈ Ipv4.render address, c.isUpper = false := by
    intro c member
    rcases chars c member with digit | rfl
    · exact Text.isUpper_of_isDigit digit
    · rfl
  rw [Domain.toAscii?_of_isAlphanum, Text.lower_of_isUpper_eq_false small]
  intro c member
  rcases chars c member with digit | rfl
  · exact .inl (by rw [Char.isAlphanum, digit, Bool.or_true])
  · exact .inr rfl

/-- A text in brackets is read as the address that it denotes. -/
theorem parse_bracketed_eq_ok_iff {inner : Text} {host : Host} :
    parse ('[' :: (inner ++ [']'])) = .ok host ↔
      ∃ address, Ipv6.Denotes inner address ∧ host = .ipv6 address := by
  simp only [parse, parseBracketed, List.reverse_append, List.reverse_singleton, List.singleton_append,
    List.reverse_reverse, ← Ipv6.parse?_eq_some_iff]
  cases Ipv6.parse? inner <;> simp [eq_comm]

/-- Only texts in brackets are read as addresses of version 6. -/
theorem eq_bracketed_of_parse {text : Text} {address : Ipv6} (parsed : parse text = .ok (.ipv6 address)) :
    ∃ inner, text = '[' :: (inner ++ [']']) ∧ Ipv6.Denotes inner address := by
  have bracketed : ∃ inner, text = '[' :: (inner ++ [']']) := by
    unfold parse at parsed
    split at parsed
    · cases parsed
    · unfold parseBracketed at parsed
      split at parsed
      · rename_i rest _ reversed closes
        refine ⟨reversed.reverse, ?_⟩
        rw [← List.reverse_reverse rest, closes, List.reverse_cons]
      · cases parsed
    · split at parsed
      · cases parsed
      · obtain ⟨-, ⟨-, other⟩ | ⟨_, -, other⟩⟩ := ofName_cases parsed <;> cases other
  obtain ⟨inner, rfl⟩ := bracketed
  obtain ⟨found, denotes, same⟩ := parse_bracketed_eq_ok_iff.mp parsed
  exact ⟨inner, rfl, Host.ipv6.inj same ▸ denotes⟩

/-- Dotted numbers are an address if they denote one, and no domain name otherwise. -/
theorem ofName_of_dotted {name : Text} {numbers : List Nat} (dotted : Ipv4.Dotted name numbers) :
    ofName name = match Ipv4.ofNumbers? numbers with
      | some address => .ok (.ipv4 address)
      | none => .error .ipv4Address := by
  rw [ofName, List.isEmpty_eq_false_iff.mpr dotted.ne_nil, dotted.endsInNumber, dotted.parse?_eq]
  rfl

/-- In a base with letters for digits, these may be capitals. -/
theorem parse_of_dotted {text : Text} {numbers : List Nat} (dotted : Ipv4.Dotted text numbers) :
    parse text = match Ipv4.ofNumbers? numbers with
      | some address => .ok (.ipv4 address)
      | none => .error .ipv4Address := by
  have unmarked : ∀ c ∈ text, c ≠ '[' ∧ c ≠ '%' := by
    intro c member
    rcases dotted.mem member with alphanumeric | rfl
    · constructor <;> (rintro rfl; cases alphanumeric)
    · decide
  rw [parse_of_unmarked dotted.ne_nil unmarked, Domain.toAscii?_of_isAlphanum fun c => dotted.mem]
  exact ofName_of_dotted dotted.lower

theorem ofName_ipv4_render (address : Ipv4) : ofName (Ipv4.render address) = .ok (.ipv4 address) := by
  rw [ofName_of_dotted (Ipv4.dotted_render address), Ipv4.ofNumbers?_octets]

/-- A host is read back from its text. -/
theorem parse_render {host : Host} (written : host.IsWritten) (stable : host.IsStable) :
    parse host.render = .ok host := by
  cases host with
  | domain name =>
    obtain ⟨some, ⟨given, form⟩, wordy⟩ := written
    rw [render, parse_of_stable some (stable given name form rfl), ofName,
      List.isEmpty_eq_false_iff.mpr some, wordy]
    rfl
  | ipv4 address =>
    have named := ofName_ipv4_render address
    have some : Ipv4.render address ≠ [] := (ofName_cases named).1
    rw [render, parse_of_stable some (toAscii?_render address), named]
  | ipv6 address =>
    exact parse_bracketed_eq_ok_iff.mpr ⟨address, (Ipv6.isCanonical_render address).denotes, rfl⟩

/-! ## What texts of hosts consist of -/

theorem render_ne_nil {host : Host} (written : host.IsWritten) : host.render ≠ [] := by
  cases host with
  | domain name => exact written.1
  | ipv4 address => exact (ofName_cases (ofName_ipv4_render address)).1
  | ipv6 address => exact List.cons_ne_nil _ _

/-- A host is a bracketed text of digits, letters and colons, or it holds no forbidden character. -/
theorem render_cases {host : Host} (written : host.IsWritten) :
    (∃ text, host.render = '[' :: text ++ [']'] ∧ ∀ c ∈ text, c.isAlphanum = true ∨ c = ':') ∨
      ∀ c ∈ host.render, Text.isWide c = false ∧ Domain.isForbidden c = false := by
  cases host with
  | domain name =>
    obtain ⟨-, ⟨given, form⟩, -⟩ := written
    exact .inr (allowed_of_toAscii? form)
  | ipv4 address => exact .inr (allowed_of_toAscii? (toAscii?_render address))
  | ipv6 address => exact .inl ⟨_, rfl, fun _ => Ipv6.mem_render⟩

theorem mem_render {host : Host} (written : host.IsWritten) {c : Char} (member : c ∈ host.render) :
    (Text.isWide c = false ∧ Domain.isForbidden c = false) ∨ c = '[' ∨ c = ']' ∨ c = ':' := by
  obtain ⟨text, bracketed, inner⟩ | allowed := render_cases written
  · rw [bracketed, List.mem_append, List.mem_cons, List.mem_singleton] at member
    obtain (rfl | member) | rfl := member
    · exact .inr (.inl rfl)
    · obtain alphanumeric | rfl := inner c member
      · exact .inl ⟨Text.isWide_of_isAlphanum alphanumeric,
          Domain.isForbidden_of_isAlphanum alphanumeric⟩
      · exact .inr (.inr (.inr rfl))
    · exact .inr (.inr (.inl rfl))
  · exact .inl (allowed c member)

/-- No two hosts have one text. -/
theorem render_injective {first second : Host} (written : first.IsWritten) (written' : second.IsWritten)
    (same : first.render = second.render) : first = second := by
  have bracket {host : Host} (written : host.IsWritten) {rest : Text} (starts : host.render = '[' :: rest) :
      ∃ address, host = .ipv6 address := by
    have member : '[' ∈ host.render := starts ▸ List.mem_cons_self ..
    cases host with
    | domain name =>
      obtain ⟨-, ⟨given, form⟩, -⟩ := written
      exact absurd (allowed_of_toAscii? form '[' member).2 (by decide)
    | ipv4 address =>
      obtain digit | dot := Ipv4.mem_render member
      · cases digit
      · cases dot
    | ipv6 address => exact ⟨address, rfl⟩
  have kind {name : Text} {address : Ipv4} (written : (domain name).IsWritten)
      (same : name = Ipv4.render address) : False := by
    have wordy := written.2.2
    rw [same, (Ipv4.dotted_render address).endsInNumber] at wordy
    cases wordy
  cases first with
  | ipv6 address =>
    obtain ⟨other, rfl⟩ := bracket written' same.symm
    simp only [render, List.cons_append, List.cons.injEq, List.append_cancel_right_eq, true_and] at same
    rw [Ipv6.render_injective same]
  | domain name =>
    cases second with
    | domain other => exact congrArg domain same
    | ipv4 address => exact (kind written same).elim
    | ipv6 address =>
      obtain ⟨other, impossible⟩ := bracket written same
      cases impossible
  | ipv4 address =>
    cases second with
    | domain name => exact (kind written' same.symm).elim
    | ipv4 other => exact congrArg ipv4 (Ipv4.render_injective same)
    | ipv6 other =>
      obtain ⟨other, impossible⟩ := bracket written same
      cases impossible

end Host

end ReleaseTrigger
