import ReleaseTrigger.CommandLine.Arguments
import ReleaseTrigger.Proofs.Text.Pieces
import ReleaseTrigger.Proofs.Text.Utf8

/-! # The words of a command line

What an argument is by its first characters says everything about it: `Word.render` gives the
argument back. Options are known by the spelling of their names alone, which no value after an equals
sign can disturb.
-/

namespace ReleaseTrigger.CommandLine

/-! ## Words -/

/-- The argument that a word comes from. -/
def Word.render : Word → Octets
  | escape => [hyphen, hyphen]
  | long name none => hyphen :: hyphen :: name
  | long name (some value) => hyphen :: hyphen :: (name ++ equalsSign :: value)
  | letters octets => hyphen :: octets
  | plain octets => octets

/-- An argument that stands for itself: a single hyphen, or one that does not start with a hyphen. -/
def IsPlain (argument : Octets) : Prop := argument = [hyphen] ∨ argument.head? ≠ some hyphen

namespace Word

/-- What an argument is determines the argument. -/
theorem render_of (argument : Octets) : (Word.of argument).render = argument := by
  unfold Word.of
  split
  · rfl
  · rfl
  · rename_i first second rest
    split_ifs with hyphens both empty
    · rw [hyphens, both, List.isEmpty_iff.mp empty]
      rfl
    · subst hyphens both
      obtain ⟨name, mark, value, marks, -, rfl, cut⟩ | ⟨-, cut⟩ :=
        Text.cut_cases (· == equalsSign) rest
      · rw [cut, eq_of_beq marks]
        rfl
      · rw [cut]
        rfl
    · rw [hyphens]
      rfl
    · rfl

theorem of_plain {argument : Octets} (plain : IsPlain argument) :
    Word.of argument = .plain argument := by
  unfold Word.of
  split
  · rfl
  · rfl
  · rename_i first second rest
    have other : first ≠ hyphen := by
      rintro rfl
      simp [IsPlain] at plain
    rw [if_neg other]

theorem isPlain_of {argument octets : Octets} (word : Word.of argument = .plain octets) :
    IsPlain argument := by
  match argument with
  | [] => exact .inr (by simp)
  | [octet] =>
    by_cases single : octet = hyphen
    · exact .inl (by rw [single])
    · exact .inr (by simpa using single)
  | first :: second :: rest =>
    refine .inr ?_
    rintro starts
    obtain rfl := Option.some.inj starts
    simp only [Word.of, ↓reduceIte] at word
    split_ifs at word

theorem of_long {rest : Octets} (named : rest ≠ []) :
    Word.of (hyphen :: hyphen :: rest) =
      .long (Text.cut (· == equalsSign) rest).1 (Text.cut (· == equalsSign) rest).2 := by
  simp [Word.of, named]

theorem ne_nil_of_letters {argument octets : Octets} (word : Word.of argument = .letters octets) :
    octets ≠ [] := by
  rintro rfl
  have typed := render_of argument
  rw [word] at typed
  subst typed
  cases word

end Word

/-! ## Names -/

theorem Opt.ofLong?_eq_some_iff {name : Text} {option : Opt} :
    Opt.ofLong? name = some option ↔ name = option.long := by
  constructor
  · intro found
    have same := List.find?_some found
    exact (eq_of_beq same).symm
  · rintro rfl
    cases option with
    | value option => cases option <;> rfl
    | flag flag => cases flag <;> rfl

theorem Flag.ofLetter?_eq_some_iff {c : Char} {flag : Flag} :
    Flag.ofLetter? c = some flag ↔ c = flag.letter := by
  constructor
  · intro found
    have same := List.find?_some found
    exact (eq_of_beq same).symm
  · rintro rfl
    cases flag <;> rfl

/-- The octets of a long name name the option. -/
theorem decodedOption_eq_some_iff {name : Octets} {option : Opt} :
    (Utf8.decode? name).bind Opt.ofLong? = some option ↔ name = Utf8.encode option.long := by
  simp only [Option.bind_eq_some_iff, Opt.ofLong?_eq_some_iff, Utf8.decode?_eq_some_iff]
  constructor
  · rintro ⟨text, rfl, rfl⟩
    rfl
  · intro same
    exact ⟨_, same, rfl⟩

/-- The argument that names an option. -/
def Opt.typed (option : Opt) : Octets := Utf8.encode (Text.of "--" ++ option.long)

namespace Opt

theorem typed_eq (option : Opt) : option.typed = hyphen :: hyphen :: Utf8.encode option.long := rfl

private theorem encode_long_ne_nil (option : Opt) : Utf8.encode option.long ≠ [] := by
  cases option with
  | value option => cases option <;> decide
  | flag flag => cases flag <;> decide

private theorem unmarked_long (option : Opt) :
    ∀ octet ∈ Utf8.encode option.long, (octet == equalsSign) = false := by
  cases option with
  | value option => cases option <;> decide +kernel
  | flag flag => cases flag <;> decide +kernel

theorem of_typed (option : Opt) :
    Word.of option.typed = .long (Utf8.encode option.long) none := by
  rw [typed_eq, Word.of_long option.encode_long_ne_nil, Text.cut_of_unmarked option.unmarked_long]

theorem of_typed_append (option : Opt) (value : Octets) :
    Word.of (option.typed ++ equalsSign :: value) =
      .long (Utf8.encode option.long) (some value) := by
  have cut : Text.cut (· == equalsSign) (Utf8.encode option.long ++ equalsSign :: value) =
      (Utf8.encode option.long, some value) := by
    apply Text.cut_append ?_ option.unmarked_long
    exact beq_self_eq_true equalsSign
  rw [typed_eq, List.cons_append, List.cons_append, Word.of_long (by simp), cut]

end Opt

end ReleaseTrigger.CommandLine
