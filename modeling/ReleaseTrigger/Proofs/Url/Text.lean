import ReleaseTrigger.Proofs.Url.Written

/-! # The text of a URL

The text of a written URL is visible throughout, so nothing of it is dropped before it is read. It is
read back as the URL if the host is stable.
-/

namespace ReleaseTrigger.Url

theorem clean_of_visible {text : Text} (visible : ∀ c ∈ text, Text.isVisible c = true) :
    clean text = text := by
  have code {c : Char} (member : c ∈ text) : 0x21 ≤ c.toNat :=
    (Text.isVisible_iff.mp (visible c member)).1
  have edges : ∀ c ∈ text, isEdgeBlank c = false := by
    intro c member
    have := code member
    rw [isEdgeBlank, decide_eq_false_iff_not]
    omega
  rw [clean, Text.trim_of_unmarked edges, List.filter_eq_self]
  intro c member
  have := code member
  by_contra ignored
  simp only [isIgnored, Bool.not_eq_true', Bool.not_eq_false, Bool.or_eq_true, beq_iff_eq] at ignored
  obtain (rfl | rfl) | rfl := ignored <;> exact absurd this (by decide)

theorem isVisible_of_isForbidden_eq_false {c : Char} (ascii : Text.isWide c = false)
    (allowed : Domain.isForbidden c = false) : Text.isVisible c = true := by
  have codes : ∀ code < 0x80, Domain.isForbidden (Char.ofNat code) = false →
      Text.isVisible (Char.ofNat code) = true := by decide
  obtain ⟨code, bound, rfl⟩ := Text.exists_code_of_isWide_eq_false ascii
  exact codes code bound allowed

theorem isVisible_of_mem_marked {mark : Char} {set : Percent.EncodeSet} {component : Option Text}
    (isComponentSet : Percent.IsComponentSet set) (visible : Text.isVisible mark = true)
    (escaped : ∀ text, component = some text → Percent.Escaped set text) {c : Char}
    (member : c ∈ marked mark component) : Text.isVisible c = true := by
  obtain rfl | ⟨text, given, member⟩ := mem_marked member
  · exact visible
  · exact isComponentSet.isVisible (escaped text given c member)

namespace IsWritten

variable {url : Url} (written : url.IsWritten)

include written

theorem isVisible_of_mem_authorityText {c : Char} (member : c ∈ url.authorityText) :
    Text.isVisible c = true := by
  obtain member | member := List.mem_append.mp member
  · obtain plain | rfl | rfl := written.of_mem_renderUserInfo member
    · exact Percent.userInfoSet_isComponentSet.isVisible plain
    · rfl
    · rfl
  · obtain ⟨ascii, allowed⟩ | rfl | rfl | rfl := written.of_mem_renderPlace member
    · exact isVisible_of_isForbidden_eq_false ascii allowed
    · rfl
    · rfl
    · rfl

theorem isVisible_of_mem_renderPath {c : Char} (member : c ∈ url.renderPath) :
    Text.isVisible c = true := by
  obtain rfl | plain := Path.mem_render written.path member
  · rfl
  · exact Percent.pathSet_isComponentSet.isVisible plain

/-- The text of a URL holds neither a blank nor a control nor a character outside ASCII. -/
theorem isVisible_of_mem_render {c : Char} (member : c ∈ url.render) : Text.isVisible c = true := by
  have scheme : ∀ c ∈ url.scheme.name, Text.isVisible c = true := by
    cases url.scheme <;> exact List.forall_iff_forall_mem.mp (by decide)
  rw [render_eq, tailText] at member
  simp only [List.mem_append, List.mem_cons] at member
  obtain member | rfl | rfl | rfl | member | (member | member) | member := member
  · exact scheme c member
  · rfl
  · rfl
  · rfl
  · exact written.isVisible_of_mem_authorityText member
  · exact written.isVisible_of_mem_renderPath member
  · exact isVisible_of_mem_marked Percent.querySet_isComponentSet (by rfl) written.query member
  · exact isVisible_of_mem_marked Percent.fragmentSet_isComponentSet (by rfl) written.fragment member

end IsWritten

/-- A URL that was read is written. -/
theorem isWritten_of_parse {text : Text} {url : Url} (parsed : AnyUrl.parse text = .ok (.network url)) :
    url.IsWritten := by
  obtain ⟨parts, -, read⟩ := AnyUrl.parse_eq_network_iff.mp parsed
  exact Parts.isWritten_of_read read

/-- A written URL is read back from its text if its host is stable. -/
theorem IsWritten.parse_render {url : Url} (written : url.IsWritten) (stable : url.host.IsStable) :
    AnyUrl.parse url.render = .ok (.network url) := by
  have cleaned := clean_of_visible fun _ => written.isVisible_of_mem_render
  rw [← written.text_parts] at cleaned ⊢
  exact AnyUrl.parse_eq_network_iff.mpr ⟨written.parts, cleaned, written.read_parts stable⟩

end ReleaseTrigger.Url
