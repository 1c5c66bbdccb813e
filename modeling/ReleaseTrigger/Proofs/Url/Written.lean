import ReleaseTrigger.Proofs.Url.Parts

/-! # Written URLs

Every component of a URL that was read is in the form in which it is written: escaped, and free of the
marks that end it. So the text of such a URL has the components for its parts, and its authority
divides into user info, host and port; no two written URLs have one text, and a written URL whose host is
stable is read back from its text.
-/

namespace ReleaseTrigger

namespace Url

/-- A URL as it is held after reading. -/
structure IsWritten (url : Url) : Prop where
  /-- Nothing in the user name has to be escaped. -/
  username : Percent.Escaped Percent.userInfoSet url.username
  /-- A password is not empty, and nothing in it has to be escaped. -/
  password : ∀ text, url.password = some text → text ≠ [] ∧ Percent.Escaped Percent.userInfoSet text
  /-- The host is written. -/
  host : url.host.IsWritten
  /-- A port is one, and not the one that goes without saying. -/
  port : ∀ number, url.port = some number → number ≤ 65535 ∧ number ≠ url.scheme.defaultPort
  /-- The path has a segment. -/
  path_ne_nil : url.path ≠ []
  /-- The segments of the path are written. -/
  path : ∀ segment ∈ url.path, Path.IsWritten segment
  /-- Nothing in the query has to be escaped. -/
  query : ∀ text, url.query = some text → Percent.Escaped Percent.querySet text
  /-- Nothing in the fragment has to be escaped. -/
  fragment : ∀ text, url.fragment = some text → Percent.Escaped Percent.fragmentSet text

theorem Parts.isWritten_of_read {parts : Parts} {url : Url} (read : parts.read = .ok url) :
    url.IsWritten := by
  obtain ⟨authority, parsed, rfl⟩ := parts.read_eq_ok_iff.mp read
  obtain ⟨host, port, hosted, ported, rfl⟩ := Authority.parse_eq_ok_iff.mp parsed
  refine
    { username := (Authority.escaped_parseUserInfo _).1
      password := (Authority.escaped_parseUserInfo _).2
      host := Host.isWritten_of_parse hosted
      port := ?_
      path_ne_nil := Path.ofText_ne_nil _ _
      path := Path.isWritten_of_mem_ofText _
      query := ?_
      fragment := ?_ }
  · intro number shown
    obtain ⟨rfl, other⟩ := Authority.shownPort_eq_some_iff.mp shown
    exact ⟨Authority.le_of_parsePort ported, other⟩
  · intro query given
    obtain ⟨text, -, rfl⟩ := Option.map_eq_some_iff.mp given
    exact Percent.querySet_isComponentSet.escaped_encode text
  · intro fragment given
    obtain ⟨text, -, rfl⟩ := Option.map_eq_some_iff.mp given
    exact Percent.fragmentSet_isComponentSet.escaped_encode text

/-! ## The text of a URL -/

/-- User info, host and port. -/
def authorityText (url : Url) : Text := url.renderUserInfo ++ url.renderPlace

/-- Path, query and fragment. -/
def tailText (url : Url) : Text := url.renderPath ++ marked '?' url.query ++ marked '#' url.fragment

theorem render_eq (url : Url) :
    url.render = url.scheme.name ++ ':' :: '/' :: '/' :: (url.authorityText ++ url.tailText) := by
  simp [render, authorityText, tailText, Text.of]

/-- User info, if there is a user name or a password. -/
def userInfo? (url : Url) : Option Text :=
  if url.username = [] ∧ url.password = none then none else some (url.username ++ marked ':' url.password)

namespace IsWritten

variable {url : Url} (written : url.IsWritten)

include written

/-! ### Characters -/

theorem of_mem_renderUserInfo {c : Char} (member : c ∈ url.renderUserInfo) :
    Percent.userInfoSet c = false ∨ c = ':' ∨ c = '@' := by
  unfold renderUserInfo at member
  split_ifs at member
  · cases member
  · rw [List.mem_append, List.mem_append, List.mem_singleton] at member
    obtain (member | member) | rfl := member
    · exact .inl (written.username c member)
    · obtain rfl | ⟨text, given, member⟩ := mem_marked member
      · exact .inr (.inl rfl)
      · exact .inl ((written.password text given).2 c member)
    · exact .inr (.inr rfl)

theorem of_mem_renderPlace {c : Char} (member : c ∈ url.renderPlace) :
    (Text.isWide c = false ∧ Domain.isForbidden c = false) ∨ c = '[' ∨ c = ']' ∨ c = ':' := by
  obtain member | member := List.mem_append.mp member
  · exact Host.mem_render written.host member
  · obtain rfl | ⟨text, given, member⟩ := mem_marked member
    · exact .inr (.inr (.inr rfl))
    · obtain ⟨number, -, rfl⟩ := Option.map_eq_some_iff.mp given
      have alphanumeric : c.isAlphanum = true := by
        rw [Char.isAlphanum, Text.isDigit_of_mem_decimal member, Bool.or_true]
      exact .inl ⟨Text.isWide_of_isAlphanum alphanumeric,
        Domain.isForbidden_of_isAlphanum alphanumeric⟩

theorem ne_at_of_mem_renderPlace {c : Char} (member : c ∈ url.renderPlace) : c ≠ '@' := by
  rintro rfl
  obtain ⟨-, allowed⟩ | other | other | other := written.of_mem_renderPlace member
  · exact absurd allowed (by decide)
  all_goals exact absurd other (by decide)

theorem endsAuthority_of_mem_authorityText {c : Char} (member : c ∈ url.authorityText) :
    endsAuthority c = false := by
  have ends : ∀ mark, endsAuthority mark = true →
      Percent.userInfoSet mark = true ∧ Domain.isForbidden mark = true ∧
        mark ≠ ':' ∧ mark ≠ '@' ∧ mark ≠ '[' ∧ mark ≠ ']' := by
    intro mark ends
    simp only [endsAuthority, isSlash, Bool.or_eq_true, beq_iff_eq] at ends
    obtain ((rfl | rfl) | rfl) | rfl := ends <;> decide
  by_contra! marks
  obtain ⟨escaped, forbidden, others⟩ := ends c (Bool.not_eq_false _ ▸ marks)
  obtain member | member := List.mem_append.mp member
  · obtain plain | rfl | rfl := written.of_mem_renderUserInfo member
    · rw [escaped] at plain
      cases plain
    · exact others.1 rfl
    · exact others.2.1 rfl
  · obtain ⟨-, allowed⟩ | rfl | rfl | rfl := written.of_mem_renderPlace member
    · rw [forbidden] at allowed
      cases allowed
    · exact others.2.2.1 rfl
    · exact others.2.2.2 rfl
    · exact others.1 rfl

theorem authorityText_ne_nil : url.authorityText ≠ [] :=
  List.append_ne_nil_of_right_ne_nil _
    (List.append_ne_nil_of_left_ne_nil (Host.render_ne_nil written.host) _)

theorem ne_of_mem_renderPath {c : Char} (member : c ∈ url.renderPath) : c ≠ '?' ∧ c ≠ '#' := by
  constructor <;>
  · rintro rfl
    obtain impossible | plain := Path.mem_render written.path member
    · cases impossible
    · exact absurd plain (by decide)

/-- The first question mark is the one before the query. -/
theorem cut_query :
    Text.cut (· == '?') (url.renderPath ++ marked '?' url.query) = (url.renderPath, url.query) :=
  cut_marked (fun _ member => (written.ne_of_mem_renderPath member).1) url.query

theorem ne_hash_of_mem_query {c : Char} (member : c ∈ url.renderPath ++ marked '?' url.query) :
    c ≠ '#' := by
  rcases List.mem_append.mp member with member | member
  · exact (written.ne_of_mem_renderPath member).2
  · rintro rfl
    obtain impossible | ⟨query, given, member⟩ := mem_marked member
    · cases impossible
    · exact absurd (written.query query given '#' member) (by decide)

end IsWritten

/-- The parts of the text of a written URL. -/
def IsWritten.parts {url : Url} (written : url.IsWritten) : Parts where
  scheme := url.scheme
  name := url.scheme.name
  slashes := ['/', '/']
  authority := url.authorityText
  path := url.renderPath
  rest := marked '?' url.query ++ marked '#' url.fragment
  named := by cases url.scheme <;> decide
  isSlash_slashes := List.forall_iff_forall_mem.mp (by decide)
  authority_ne_nil := written.authorityText_ne_nil
  inside_authority := fun _ => written.endsAuthority_of_mem_authorityText
  rooted := by
    intro c first
    rw [renderPath, Path.render_eq written.path_ne_nil, List.head?_cons, Option.some.injEq] at first
    rw [← first]
    rfl
  inside_path := fun _ => written.ne_of_mem_renderPath
  marked_rest := by
    intro c first
    rw [List.head?_append] at first
    cases given : url.query with
    | some query =>
      rw [given] at first
      exact .inl (Option.some.inj first).symm
    | none =>
      cases given' : url.fragment with
      | some fragment =>
        rw [given, given'] at first
        exact .inr (Option.some.inj first).symm
      | none =>
        rw [given, given'] at first
        cases first

namespace IsWritten

variable {url : Url} (written : url.IsWritten)

include written

theorem text_parts : written.parts.text = url.render := by
  rw [render_eq, tailText, List.append_assoc]
  rfl

/-- Path, query and fragment are read back. -/
theorem url_parts : written.parts.url ⟨url.username, url.password, url.host, url.port⟩ = url := by
  have tail :
      splitTail (marked '?' url.query ++ marked '#' url.fragment) = ([], url.query, url.fragment) := by
    have hashless : ∀ c ∈ marked '?' url.query, c ≠ '#' :=
      fun _ member => written.ne_hash_of_mem_query (List.mem_append_right _ member)
    have query : Text.cut (· == '?') (marked '?' url.query) = ([], url.query) :=
      cut_marked (List.forall_mem_nil _) url.query
    simp only [splitTail, cut_marked hashless, query]
  have path : Path.ofText isSlash url.renderPath = url.path :=
    Path.ofText_render written.path_ne_nil written.path
  have query : encodeQuery url.query = url.query := Percent.map_encode_of_escaped written.query
  have fragment : encodeFragment url.fragment = url.fragment :=
    Percent.map_encode_of_escaped written.fragment
  simp only [Parts.url, parts, tail, path, query, fragment]

theorem divided :
    Authority.Divided url.authorityText url.userInfo? url.host.render (url.port.map Text.decimal) where
  whole := by
    rw [authorityText, renderUserInfo, userInfo?]
    simp only [Bool.and_eq_true, List.isEmpty_iff, Option.isNone_iff_eq_none]
    split_ifs <;> rfl
  isHostText := Authority.isHostText_render written.host
  last := fun _ => written.ne_at_of_mem_renderPlace

theorem parseUserInfo_userInfo? :
    Authority.parseUserInfo (url.userInfo?.getD []) = (url.username, url.password) := by
  unfold userInfo?
  split_ifs with empty
  · rw [empty.1, empty.2]
    rfl
  · exact Authority.parseUserInfo_append written.username written.password

/-- A written URL is read back from its parts if its host is stable. -/
theorem read_parts (stable : url.host.IsStable) : written.parts.read = .ok url := by
  have shown : Authority.shownPort url.scheme url.port = url.port := by
    cases given : url.port with
    | none => rfl
    | some number => exact Authority.shownPort_eq_some_iff.mpr ⟨rfl, (written.port number given).2⟩
  have port := Authority.parsePort_decimal fun number given => (written.port number given).1
  have host := Host.parse_render written.host stable
  refine written.parts.read_eq_ok_iff.mpr ⟨_, ?_, written.url_parts⟩
  refine written.divided.parse_eq_ok_iff.mpr ⟨url.host, url.port, host, port, ?_⟩
  rw [written.parseUserInfo_userInfo?]
  exact congrArg (Authority.mk _ _ _) shown.symm

/-- No two written URLs have one text, whatever their hosts. -/
theorem render_injective {other : Url} (written' : other.IsWritten) (same : url.render = other.render) :
    url = other := by
  have parts : written.parts = written'.parts := by
    apply Parts.text_injective
    rw [written.text_parts, written'.text_parts, same]
  have authority : url.authorityText = other.authorityText := congrArg Parts.authority parts
  have divided := written'.divided
  rw [← authority] at divided
  obtain ⟨userInfo, host, port⟩ := written.divided.unique divided
  have userInfo' := written.parseUserInfo_userInfo?
  rw [userInfo, written'.parseUserInfo_userInfo?, Prod.mk.injEq] at userInfo'
  have port' := Authority.parsePort_decimal fun number given => (written.port number given).1
  rw [port, Authority.parsePort_decimal fun number given => (written'.port number given).1,
    Except.ok.injEq] at port'
  rw [← written.url_parts, ← written'.url_parts, parts, userInfo'.1, userInfo'.2, port',
    Host.render_injective written.host written'.host host]

end IsWritten

end Url

end ReleaseTrigger
