import ReleaseTrigger.Proofs.Text.Numeral
import ReleaseTrigger.Proofs.Text.Pieces
import ReleaseTrigger.Text.Quoted

/-! # Lines

A text is divided into lines at its line breaks. A text without a break is one line of whatever it is
part of, and numerals and quoted texts never have one. Text with a margin behind each of its breaks has
no line but the first that starts with a character of its own.
-/

namespace ReleaseTrigger

namespace Text

/-- The lines of a text: what stands between its line breaks. Only the line feed is one. What comes after
the last break counts as a line, even if it is empty. -/
def lines (text : Text) : List Text := List.splitOn '\n' text

theorem lines_append_break (first second : Text) :
    lines (first ++ '\n' :: second) = lines first ++ lines second :=
  List.splitOn_append_cons_self first second

theorem lines_of_unbroken {line : Text} (unbroken : '\n' ∉ line) : lines line = [line] :=
  List.splitOn_eq_singleton unbroken

theorem lines_cons {line : Text} (unbroken : '\n' ∉ line) (rest : Text) :
    lines (line ++ '\n' :: rest) = line :: lines rest :=
  List.splitOn_append_cons_self_of_not_mem unbroken rest

theorem mem_lines_intercalate {parts : List Text} {line : Text}
    (member : line ∈ lines (List.intercalate ['\n'] parts)) :
    line = [] ∨ ∃ part ∈ parts, line ∈ lines part := by
  induction parts with
  | nil => exact .inl (List.mem_singleton.mp member)
  | cons part others ih =>
    by_cases last : others = []
    · rw [last, List.intercalate_singleton] at member
      exact .inr ⟨part, List.mem_cons_self .., member⟩
    · rw [List.intercalate_cons_of_ne_nil last, List.append_assoc, List.singleton_append,
        lines_append_break, List.mem_append] at member
      obtain member | member := member
      · exact .inr ⟨part, List.mem_cons_self .., member⟩
      · obtain empty | ⟨other, present, member⟩ := ih member
        · exact .inl empty
        · exact .inr ⟨other, List.mem_cons_of_mem _ present, member⟩

/-! ## Texts in one line -/

theorem break_not_mem_decimal (number : Nat) : '\n' ∉ decimal number := by
  intro member
  cases isDigit_of_mem_decimal member

end Text

/-- A quoted text has no line break: it is written as an escape. -/
theorem Quoted.break_not_mem_encode (text : Text) : '\n' ∉ encode text := by
  have escaped : ∀ c, '\n' ∉ encodeChar c := by
    intro c
    have marks : '\n' ∉ Text.of "\\u\x7b" ∧ '\n' ∉ Text.of "\x7d" := by decide
    have code : '\n' ∉ Text.hexadecimal c.toNat := by
      intro member
      cases Text.isAlphanum_of_mem_hexadecimal member
    unfold encodeChar
    split_ifs with _ _ isBreak
    · decide
    · decide
    · decide
    · decide
    · decide
    · decide
    · exact List.not_mem_append (List.not_mem_append marks.1 code) marks.2
    · simpa [eq_comm] using isBreak
  simp [encode, escaped]

namespace Text

/-! ## Margins -/

/-- A text in one line that starts with no letter. -/
structure IsAside (line : Text) : Prop where
  unbroken : '\n' ∉ line
  head : ∀ c, line.head? = some c → c.isAlpha = false

theorem IsAside.of_forall {line : Text} (plain : ∀ c ∈ line, c ≠ '\n' ∧ c.isAlpha = false) :
    line.IsAside where
  unbroken := fun member => (plain '\n' member).1 rfl
  head := fun c first => (plain c (List.mem_of_head? first)).2

theorem isAside_blanks (count : Nat) : IsAside (List.replicate count ' ') :=
  .of_forall fun _ member => List.eq_of_mem_replicate member ▸ by decide

theorem IsAside.append {start : Text} (aside : start.IsAside) (some : start ≠ []) {rest : Text}
    (unbroken : '\n' ∉ rest) : (start ++ rest).IsAside where
  unbroken := List.not_mem_append aside.unbroken unbroken
  head := by
    rw [List.head?_append_of_ne_nil _ some]
    exact aside.head

/-- Each line of a text that is written behind a margin starts with the margin. -/
theorem isAside_of_mem_lines_margin {margin : Text} (aside : margin.IsAside) (some : margin ≠ [])
    {start : Text} (startAside : start.IsAside) (startSome : start ≠ []) (text : Text) :
    ∀ line ∈ lines (start ++ text.flatMap fun c => if c = '\n' then '\n' :: margin else [c]),
      line.IsAside := by
  -- The start grows by what has been read of the current line, and is the margin again after a break.
  induction text generalizing start with
  | nil =>
    intro line member
    rw [List.flatMap_nil, List.append_nil, lines_of_unbroken startAside.unbroken,
      List.mem_singleton] at member
    rwa [member]
  | cons c text ih =>
    intro line member
    rw [List.flatMap_cons] at member
    by_cases isBreak : c = '\n'
    · rw [if_pos isBreak, List.cons_append, lines_cons startAside.unbroken] at member
      obtain rfl | member := List.mem_cons.mp member
      · exact startAside
      · exact ih aside some line member
    · rw [if_neg isBreak, ← List.append_assoc] at member
      have unbroken : '\n' ∉ [c] := by simpa [eq_comm] using isBreak
      exact ih (startAside.append startSome unbroken) (by simp) line member

end Text

end ReleaseTrigger
