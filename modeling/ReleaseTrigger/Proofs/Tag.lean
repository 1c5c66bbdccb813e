import ReleaseTrigger.Proofs.Text.Pieces
import ReleaseTrigger.Tag

/-! # The tag of a reference

The last segment of a reference is empty exactly if the reference is empty or ends in a slash, and
then, and only then, the reference names no tag. A reference divides in one way only into a front, which
is empty or ends in a slash, and its last segment, so nothing but the last segment decides on the tag.
Tags that are named are normal: as references they name themselves.
-/

namespace ReleaseTrigger.Tag

/-! ## The last segment -/

theorem lastSegment_append {front segment : Text} (ends : front = [] ∨ front.getLast? = some '/')
    (slashless : '/' ∉ segment) : lastSegment (front ++ segment) = segment := by
  have unmarked : ∀ c ∈ segment, (c == '/') = false := by
    intro c member
    apply beq_eq_false_iff_ne.mpr
    rintro rfl
    exact slashless member
  obtain rfl | ends := ends
  · rw [List.nil_append, lastSegment, Text.cutLast_of_unmarked unmarked]
  · obtain ⟨initial, rfl⟩ := List.getLast?_eq_some_iff.mp ends
    rw [List.append_assoc, List.singleton_append, lastSegment,
      Text.cutLast_append (by rfl) initial unmarked]

/-- A reference is a front, which is empty or ends in a slash, and its last segment. -/
theorem exists_eq_append_lastSegment (reference : Text) :
    ∃ front, reference = front ++ lastSegment reference ∧
      (front = [] ∨ front.getLast? = some '/') ∧ '/' ∉ lastSegment reference := by
  obtain ⟨before, mark, after, marks, unmarked, whole, cut⟩ | ⟨unmarked, cut⟩ :=
    Text.cutLast_cases (· == '/') reference
  · obtain rfl := eq_of_beq marks
    have last : lastSegment reference = after := by rw [lastSegment, cut]
    rw [last]
    refine ⟨before ++ ['/'], ?_, .inr List.getLast?_concat, ?_⟩
    · rw [whole, List.append_assoc, List.singleton_append]
    · intro member
      cases unmarked '/' member
  · have last : lastSegment reference = reference := by rw [lastSegment, cut]
    rw [last]
    refine ⟨[], rfl, .inl rfl, ?_⟩
    intro member
    cases unmarked '/' member

theorem lastSegment_eq_nil_iff (reference : Text) :
    lastSegment reference = [] ↔ reference = [] ∨ reference.getLast? = some '/' := by
  constructor
  · intro empty
    obtain ⟨front, whole, ends, -⟩ := exists_eq_append_lastSegment reference
    rw [empty, List.append_nil] at whole
    rwa [whole]
  · intro ends
    have whole : lastSegment (reference ++ []) = [] := lastSegment_append ends List.not_mem_nil
    rwa [List.append_nil] at whole

/-! ## The tag -/

theorem ofReference?_eq_none_iff (reference : Text) :
    ofReference? reference = none ↔ reference = [] ∨ reference.getLast? = some '/' := by
  rw [← lastSegment_eq_nil_iff, ofReference?]
  split_ifs with empty main
  · simpa using empty
  · have some : mainBranch ≠ [] := by decide
    simp [main, some]
  · simpa using empty

theorem ofReference?_eq_some_iff {reference tag : Text} :
    ofReference? reference = some tag ↔
      ∃ front segment, reference = front ++ segment ∧ (front = [] ∨ front.getLast? = some '/') ∧
        segment ≠ [] ∧ '/' ∉ segment ∧ tag = if segment = mainBranch then latest else segment := by
  constructor
  · intro named
    obtain ⟨front, whole, ends, slashless⟩ := exists_eq_append_lastSegment reference
    have some : lastSegment reference ≠ [] := by
      intro empty
      rw [ofReference?, empty] at named
      cases named
    refine ⟨front, lastSegment reference, whole, ends, some, slashless, ?_⟩
    rw [ofReference?, if_neg (by simpa using some)] at named
    split_ifs at named ⊢ with main <;> exact (Option.some.inj named).symm
  · rintro ⟨front, segment, rfl, ends, some, slashless, rfl⟩
    rw [ofReference?, lastSegment_append ends slashless, if_neg (by simpa using some)]
    split_ifs <;> rfl

/-- What stands before a slash has no part in the tag. -/
theorem ofReference?_append (front reference : Text) :
    ofReference? (front ++ '/' :: reference) = ofReference? reference := by
  obtain ⟨inner, whole, ends, slashless⟩ := exists_eq_append_lastSegment reference
  have same : lastSegment (front ++ '/' :: reference) = lastSegment reference := by
    have longer : front ++ '/' :: reference = (front ++ '/' :: inner) ++ lastSegment reference := by
      rw [List.append_assoc, List.cons_append, ← whole]
    rw [longer]
    apply lastSegment_append (.inr ?_) slashless
    obtain rfl | ends := ends
    · exact List.getLast?_concat
    · rw [List.getLast?_append, List.getLast?_cons, ends]
      rfl
  rw [ofReference?, ofReference?, same]

/-- Text that is its own tag. -/
structure IsNormal (tag : Text) : Prop where
  ne_nil : tag ≠ []
  slashless : '/' ∉ tag
  ne_mainBranch : tag ≠ mainBranch

theorem isNormal_of_ofReference? {reference tag : Text} (named : ofReference? reference = some tag) :
    IsNormal tag := by
  obtain ⟨-, segment, -, -, some, slashless, rfl⟩ := ofReference?_eq_some_iff.mp named
  split_ifs with main
  · exact ⟨by decide, by decide, by decide⟩
  · exact ⟨some, slashless, main⟩

theorem IsNormal.ofReference?_eq {tag : Text} (normal : IsNormal tag) : ofReference? tag = some tag :=
  ofReference?_eq_some_iff.mpr
    ⟨[], tag, rfl, .inl rfl, normal.ne_nil, normal.slashless, (if_neg normal.ne_mainBranch).symm⟩

end ReleaseTrigger.Tag
