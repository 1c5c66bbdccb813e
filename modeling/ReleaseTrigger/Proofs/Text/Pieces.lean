import ReleaseTrigger.Text.Basic
import Mathlib.Data.List.Basic
import Mathlib.Data.List.DropRight

/-! # Marks and pieces

A cut is made at a mark and nowhere else, so a list that is put together around a mark comes apart
there. The same holds of a division into pieces: what stands on either side of a separator is
divided by itself.
-/

namespace ReleaseTrigger.Text

variable {α : Type} {isMark : α → Bool}

/-! ## Pieces -/

theorem eq_false_of_mem_splitOnP {list piece : List α} (member : piece ∈ list.splitOnP isMark) :
    ∀ c ∈ piece, isMark c = false := by
  induction list generalizing piece with
  | nil =>
    rw [List.splitOnP_nil, List.mem_singleton] at member
    simp [member]
  | cons head rest ih =>
    rw [List.splitOnP_cons_eq_if_modifyHead] at member
    split_ifs at member with marks
    · obtain rfl | member := List.mem_cons.mp member
      · simp
      · exact ih member
    · obtain ⟨first, others, split⟩ := List.exists_cons_of_ne_nil (List.splitOnP_ne_nil isMark rest)
      rw [split] at ih member
      rw [List.modifyHead_cons] at member
      obtain rfl | member := List.mem_cons.mp member
      · exact List.forall_mem_cons.mpr ⟨Bool.eq_false_iff.mpr marks, ih (List.mem_cons_self ..)⟩
      · exact ih (List.mem_cons_of_mem _ member)

theorem mem_intercalate {separator : List α} {parts : List (List α)} {c : α}
    (member : c ∈ List.intercalate separator parts) : c ∈ separator ∨ ∃ part ∈ parts, c ∈ part := by
  induction parts with
  | nil => cases member
  | cons part others ih =>
    by_cases last : others = []
    · rw [last, List.intercalate_singleton] at member
      exact .inr ⟨part, List.mem_cons_self .., member⟩
    · rw [List.intercalate_cons_of_ne_nil last, List.mem_append, List.mem_append] at member
      obtain (member | member) | member := member
      · exact .inr ⟨part, List.mem_cons_self .., member⟩
      · exact .inl member
      · exact (ih member).imp_right fun ⟨other, present, member⟩ =>
          ⟨other, List.mem_cons_of_mem _ present, member⟩

theorem mem_intercalate_of_mem (separator : List α) {parts : List (List α)} {part : List α}
    (present : part ∈ parts) {c : α} (member : c ∈ part) : c ∈ List.intercalate separator parts := by
  induction parts with
  | nil => cases present
  | cons other others ih =>
    by_cases last : others = []
    · rw [last, List.mem_singleton] at present
      rwa [last, List.intercalate_singleton, ← present]
    · rw [List.intercalate_cons_of_ne_nil last]
      obtain rfl | present := List.mem_cons.mp present
      · exact List.mem_append_left _ (List.mem_append_left _ member)
      · exact List.mem_append_right _ (ih present)

theorem mem_of_mem_splitOn [BEq α] [LawfulBEq α] {mark : α} {list piece : List α}
    (member : piece ∈ list.splitOn mark) {c : α} (present : c ∈ piece) : c ∈ list := by
  rw [← @List.intercalate_splitOn α list _ _ mark]
  exact mem_intercalate_of_mem [mark] member present

/-- Parts that are joined with a mark are the pieces of the whole if none of them holds a mark of any
kind. -/
theorem splitOnP_intercalate {mark : α} (marks : isMark mark = true) {parts : List (List α)}
    (some : parts ≠ []) (unmarked : ∀ part ∈ parts, ∀ c ∈ part, isMark c = false) :
    List.splitOnP isMark (List.intercalate [mark] parts) = parts := by
  induction parts with
  | nil => exact absurd rfl some
  | cons part others ih =>
    obtain ⟨plain, unmarked⟩ := List.forall_mem_cons.mp unmarked
    by_cases last : others = []
    · rw [last, List.intercalate_singleton, List.splitOnP_eq_singleton plain]
    · rw [List.intercalate_cons_of_ne_nil last, List.append_assoc, List.singleton_append,
        List.splitOnP_append_cons_of_forall_mem plain mark marks, ih last unmarked]

/-! ## Cuts -/

/-- What comes after a stop has no part in what comes before the first one. -/
theorem takeWhile_append_cons {goesOn : α → Bool} {stop : α} (stops : goesOn stop = false)
    (list rest : List α) : (list ++ stop :: rest).takeWhile goesOn = list.takeWhile goesOn := by
  induction list with
  | nil => exact List.takeWhile_cons_of_neg (by rw [stops]; decide)
  | cons c list ih => simp only [List.cons_append, List.takeWhile_cons, ih]

theorem dropWhile_append_cons {goesOn : α → Bool} {stop : α} (stops : goesOn stop = false)
    (list rest : List α) :
    (list ++ stop :: rest).dropWhile goesOn = list.dropWhile goesOn ++ stop :: rest := by
  induction list with
  | nil => exact List.dropWhile_cons_of_neg (by rw [stops]; decide)
  | cons c list ih =>
    simp only [List.cons_append, List.dropWhile_cons, ih]
    split <;> rfl

section Stops

variable {goesOn : α → Bool} {list rest : List α} (inside : ∀ c ∈ list, goesOn c = true)
  (stops : ∀ c, rest.head? = some c → goesOn c = false)

include stops

theorem takeWhile_append_stops (list : List α) :
    (list ++ rest).takeWhile goesOn = list.takeWhile goesOn := by
  cases rest with
  | nil => rw [List.append_nil]
  | cons stop rest => exact takeWhile_append_cons (stops stop rfl) list rest

theorem dropWhile_append_stops (list : List α) :
    (list ++ rest).dropWhile goesOn = list.dropWhile goesOn ++ rest := by
  cases rest with
  | nil => rw [List.append_nil, List.append_nil]
  | cons stop rest => exact dropWhile_append_cons (stops stop rfl) list rest

include inside

/-- What goes on until a stop or the end is taken as a whole. -/
theorem takeWhile_append_of_stops : (list ++ rest).takeWhile goesOn = list := by
  rw [takeWhile_append_stops stops, List.takeWhile_eq_self_iff.mpr inside]

theorem dropWhile_append_of_stops : (list ++ rest).dropWhile goesOn = rest := by
  rw [dropWhile_append_stops stops, List.dropWhile_eq_nil_iff.mpr inside, List.nil_append]

end Stops

theorem stops_of_head?_dropWhile {goesOn : α → Bool} {list : List α} {c : α}
    (first : (list.dropWhile goesOn).head? = some c) : goesOn c = false := by
  have stops := List.head?_dropWhile_not goesOn list
  rw [first] at stops
  exact stops

/-- What comes before a stop is not dropped from behind. -/
theorem rdropWhile_append_cons {goesOn : α → Bool} {stop : α} (stops : goesOn stop = false)
    (list rest : List α) :
    (list ++ stop :: rest).rdropWhile goesOn = list ++ stop :: rest.rdropWhile goesOn := by
  have reversed : (list ++ stop :: rest).reverse = rest.reverse ++ stop :: list.reverse := by simp
  rw [List.rdropWhile, reversed, dropWhile_append_cons stops, List.reverse_append, List.reverse_cons,
    List.reverse_reverse, List.append_assoc, List.singleton_append, ← List.rdropWhile]

theorem cut_cons_of_mark {mark : α} (marks : isMark mark = true) (rest : List α) :
    cut isMark (mark :: rest) = ([], some rest) := by
  simp [cut, marks]

theorem cut_cons_of_unmarked {c : α} (unmarked : isMark c = false) (rest : List α) :
    cut isMark (c :: rest) = (c :: (cut isMark rest).1, (cut isMark rest).2) := by
  simp only [cut, List.dropWhile_cons, List.takeWhile_cons, unmarked, Bool.not_false, if_true]
  split <;> rfl

/-- A front without a mark has no part in where a list is cut. -/
theorem cut_append_of_unmarked {before : List α} (unmarked : ∀ c ∈ before, isMark c = false)
    (list : List α) :
    cut isMark (before ++ list) = (before ++ (cut isMark list).1, (cut isMark list).2) := by
  induction before with
  | nil => rfl
  | cons c before ih =>
    rw [List.cons_append, cut_cons_of_unmarked (unmarked c (List.mem_cons_self ..)),
      ih fun d member => unmarked d (List.mem_cons_of_mem _ member), List.cons_append]

theorem cut_append {mark : α} (marks : isMark mark = true) {before : List α}
    (unmarked : ∀ c ∈ before, isMark c = false) (after : List α) :
    cut isMark (before ++ mark :: after) = (before, some after) := by
  rw [cut_append_of_unmarked unmarked, cut_cons_of_mark marks, List.append_nil]

theorem cut_of_unmarked {list : List α} (unmarked : ∀ c ∈ list, isMark c = false) :
    cut isMark list = (list, none) := by
  have whole := cut_append_of_unmarked unmarked []
  rwa [List.append_nil, show cut isMark [] = ([], none) from rfl, List.append_nil] at whole

theorem cut_fst (isMark : α → Bool) (list : List α) :
    (cut isMark list).1 = list.takeWhile (!isMark ·) := by
  unfold cut
  split <;> rfl

/-- A list has a first mark, at which it is cut, or none at all. -/
theorem cut_cases (isMark : α → Bool) (list : List α) :
    (∃ before mark after, isMark mark = true ∧ (∀ c ∈ before, isMark c = false) ∧
      list = before ++ mark :: after ∧ cut isMark list = (before, some after)) ∨
    ((∀ c ∈ list, isMark c = false) ∧ cut isMark list = (list, none)) := by
  induction list with
  | nil => exact .inr ⟨by simp, rfl⟩
  | cons c rest ih =>
    cases marks : isMark c with
    | true => exact .inl ⟨[], c, rest, marks, by simp, rfl, cut_cons_of_mark marks rest⟩
    | false =>
      rw [cut_cons_of_unmarked marks]
      obtain ⟨before, mark, after, marked, unmarked, rfl, equal⟩ | ⟨unmarked, equal⟩ := ih
      · rw [equal]
        exact .inl ⟨c :: before, mark, after, marked, List.forall_mem_cons.mpr ⟨marks, unmarked⟩,
          rfl, rfl⟩
      · rw [equal]
        exact .inr ⟨List.forall_mem_cons.mpr ⟨marks, unmarked⟩, rfl⟩

/-- The last mark of a list is the first one from behind. -/
theorem cutLast_eq (list : List α) :
    cutLast isMark list = match cut isMark list.reverse with
      | (_, none) => (none, list)
      | (after, some before) => (some before.reverse, after.reverse) := by
  simp only [cutLast, cut]
  split <;> rfl

theorem cutLast_append {mark : α} (marks : isMark mark = true) (before : List α) {after : List α}
    (unmarked : ∀ c ∈ after, isMark c = false) :
    cutLast isMark (before ++ mark :: after) = (some before, after) := by
  have reversed : (before ++ mark :: after).reverse = after.reverse ++ mark :: before.reverse := by simp
  have cut := cut_append marks (fun c member => unmarked c (List.mem_reverse.mp member)) before.reverse
  rw [cutLast_eq, reversed, cut]
  simp only [List.reverse_reverse]

theorem cutLast_of_unmarked {list : List α} (unmarked : ∀ c ∈ list, isMark c = false) :
    cutLast isMark list = (none, list) := by
  rw [cutLast_eq, cut_of_unmarked fun c member => unmarked c (List.mem_reverse.mp member)]

/-- A list has a last mark, at which it is cut, or none at all. -/
theorem cutLast_cases (isMark : α → Bool) (list : List α) :
    (∃ before mark after, isMark mark = true ∧ (∀ c ∈ after, isMark c = false) ∧
      list = before ++ mark :: after ∧ cutLast isMark list = (some before, after)) ∨
    ((∀ c ∈ list, isMark c = false) ∧ cutLast isMark list = (none, list)) := by
  obtain ⟨after, mark, before, marks, unmarked, reversed, -⟩ | ⟨unmarked, -⟩ :=
    cut_cases isMark list.reverse
  · have whole : list = before.reverse ++ mark :: after.reverse := by
      rw [← List.reverse_reverse list, reversed]
      simp
    have others : ∀ c ∈ after.reverse, isMark c = false :=
      fun c member => unmarked c (List.mem_reverse.mp member)
    exact .inl ⟨before.reverse, mark, after.reverse, marks, others, whole,
      whole ▸ cutLast_append marks before.reverse others⟩
  · have others : ∀ c ∈ list, isMark c = false :=
      fun c member => unmarked c (List.mem_reverse.mpr member)
    exact .inr ⟨others, cutLast_of_unmarked others⟩

theorem after?_eq_some_iff [BEq α] [LawfulBEq α] {start list rest : List α} :
    after? start list = some rest ↔ list = start ++ rest := by
  rw [after?, Option.ite_none_right_eq_some, List.isPrefixOf_iff_prefix, Option.some.injEq]
  constructor
  · rintro ⟨isPrefix, rfl⟩
    exact (List.prefix_iff_eq_append.mp isPrefix).symm
  · rintro rfl
    exact ⟨List.prefix_append _ _, List.drop_left⟩

/-! ## Ends -/

section Trim

variable {isBlank : α → Bool}

/-- What goes from the ends of a list goes from the front first. -/
theorem trim_eq (list : List α) : trim isBlank list = (list.dropWhile isBlank).rdropWhile isBlank := rfl

theorem trim_of_unmarked {list : List α} (unmarked : ∀ c ∈ list, isBlank c = false) :
    trim isBlank list = list := by
  have kept {list : List α} (unmarked : ∀ c ∈ list, isBlank c = false) : list.dropWhile isBlank = list := by
    cases list with
    | nil => rfl
    | cons c rest =>
      rw [List.dropWhile_cons_of_neg]
      rw [unmarked c (List.mem_cons_self ..)]
      decide
  rw [trim, kept unmarked, kept, List.reverse_reverse]
  exact fun c member => unmarked c (List.mem_reverse.mp member)

theorem trim_append_cons {c : α} (solid : isBlank c = false) (front rest : List α) :
    trim isBlank (front ++ c :: rest) = front.dropWhile isBlank ++ c :: rest.rdropWhile isBlank := by
  rw [trim_eq, dropWhile_append_cons solid, rdropWhile_append_cons solid]

theorem trim_cons {c : α} (blank : isBlank c = true) (list : List α) :
    trim isBlank (c :: list) = trim isBlank list := by
  rw [trim_eq, trim_eq, List.dropWhile_cons_of_pos blank]

theorem trim_concat {c : α} (blank : isBlank c = true) (list : List α) :
    trim isBlank (list ++ [c]) = trim isBlank list := by
  rw [trim_eq, trim_eq, List.dropWhile_append]
  split_ifs with empty
  · rw [List.isEmpty_iff.mp empty, List.dropWhile_cons_of_pos blank]
    rfl
  · exact List.rdropWhile_concat_pos _ _ _ blank

variable {keeps : α → Bool} (blank : ∀ c, keeps c = false → isBlank c = true)

include blank

theorem filter_dropWhile (list : List α) :
    (list.dropWhile isBlank).filter keeps = (list.filter keeps).dropWhile isBlank := by
  induction list with
  | nil => rfl
  | cons c list ih =>
    cases drops : isBlank c with
    | true =>
      rw [List.dropWhile_cons_of_pos drops, ih, List.filter_cons]
      split_ifs
      · rw [List.dropWhile_cons_of_pos drops]
      · rfl
    | false =>
      have stays : keeps c = true := by
        by_contra lost
        rw [blank c (Bool.not_eq_true _ ▸ lost)] at drops
        cases drops
      have solid : ¬isBlank c = true := by
        rw [drops]
        decide
      rw [List.dropWhile_cons_of_neg solid, List.filter_cons_of_pos stays, List.dropWhile_cons_of_neg solid]

/-- It makes no difference whether blanks are dropped everywhere before those at the ends are, or after. -/
theorem filter_trim (list : List α) :
    (trim isBlank list).filter keeps = trim isBlank (list.filter keeps) := by
  rw [trim, trim, List.filter_reverse, filter_dropWhile blank, List.filter_reverse, filter_dropWhile blank]

end Trim

end ReleaseTrigger.Text
