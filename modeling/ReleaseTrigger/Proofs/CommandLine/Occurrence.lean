import Mathlib.Data.List.Forall2
import ReleaseTrigger.Proofs.CommandLine.Word

/-! # Occurrences of options

An accepted command line is a list of occurrences: of options with their values, in one argument or
two, and of the flag, by its letter or its name. Two hyphens may end it. `readAll` accepts exactly
what is written in this way, and what it accepts is what comes of the occurrences one by one.
-/

namespace ReleaseTrigger.CommandLine

/-! ## Occurrences -/

/-- An occurrence of an option. -/
inductive Occurrence where
  /-- An option, and its value in an argument of its own. -/
  | spaced (option : ValueOption) (value : Octets)
  /-- An option, an equals sign and its value in one argument. -/
  | joined (option : ValueOption) (value : Octets)
  /-- The flag by its letter. -/
  | short
  /-- The flag by its name. -/
  | long
deriving DecidableEq, Repr

namespace Occurrence

/-- The option that occurs. -/
def option : Occurrence → Opt
  | spaced option _ | joined option _ => .value option
  | short | long => .flag .verbose

/-- The arguments of an occurrence. -/
def render : Occurrence → List Octets
  | spaced option value => [(Opt.value option).typed, value]
  | joined option value => [(Opt.value option).typed ++ equalsSign :: value]
  | short => [Utf8.encode (Text.of "-v")]
  | long => [(Opt.flag .verbose).typed]

/-- A value in an argument of its own does not look like an option. -/
def IsApart : Occurrence → Prop
  | spaced _ value => IsPlain value
  | joined _ _ | short | long => True

theorem isApart_of_single {occurrence : Occurrence} {argument : Octets}
    (single : occurrence.render = [argument]) : occurrence.IsApart := by
  cases occurrence with
  | spaced => cases single
  | joined | short | long => trivial

/-- An argument that is an occurrence does not end the options. -/
theorem word_ne_escape {occurrence : Occurrence} {argument : Octets}
    (single : occurrence.render = [argument]) : Word.of argument ≠ .escape := by
  cases occurrence with
  | spaced => cases single
  | joined =>
    cases single
    simp [Opt.of_typed_append]
  | short =>
    cases single
    decide
  | long =>
    cases single
    simp [Opt.of_typed]

/-- The setting of an occurrence. -/
def setting : Occurrence → Except UsageError Setting
  | spaced option value | joined option value => Setting.ofOctets option value
  | short | long => .ok .verbose

/-- Settings with one more occurrence, whose option must not be there yet. -/
def acceptInto (settings : List Setting) (occurrence : Occurrence) :
    Except UsageError (List Setting) :=
  if hasOption settings occurrence.option then .error (.repeated occurrence.option)
  else occurrence.setting.map fun setting => settings ++ [setting]

end Occurrence

/-- The arguments of occurrences, with two hyphens at the end or without. -/
def commandLine (occurrences : List Occurrence) (isEnded : Bool) : List Octets :=
  occurrences.flatMap Occurrence.render ++ if isEnded then [[hyphen, hyphen]] else []

@[simp] theorem commandLine_cons (occurrence : Occurrence) (occurrences : List Occurrence)
    (isEnded : Bool) :
    commandLine (occurrence :: occurrences) isEnded =
      occurrence.render ++ commandLine occurrences isEnded := by
  simp [commandLine]

theorem commandLine_append (first second : List Occurrence) (isEnded : Bool) :
    commandLine (first ++ second) isEnded =
      first.flatMap Occurrence.render ++ commandLine second isEnded := by
  simp [commandLine]

/-! ## One argument -/

theorem mapError_eq_ok_iff {ε ε' α : Type} {map : ε → ε'} {result : Except ε α} {value : α} :
    result.mapError map = .ok value ↔ result = .ok value := by
  cases result with
  | error error => exact ⟨nofun, nofun⟩
  | ok found =>
    constructor
    · rintro ⟨⟩
      rfl
    · rintro ⟨⟩
      rfl

/-- Reading one argument that does not end the options. -/
def readOne (progress : Progress) (argument : Octets) : Except Stop Progress :=
  match Word.of argument with
  | .escape => .error (.usage (strayArgument (Utf8.decodeLossy argument)))
  | .long name value => readLong progress name value
  | .letters octets => readLetters progress (Utf8.units none octets)
  | .plain octets => readPlain progress octets

theorem readAll_cons {progress : Progress} {argument : Octets} (rest : List Octets)
    (other : Word.of argument ≠ .escape) :
    readAll progress (argument :: rest) =
      match readOne progress argument with
      | .error stop => .error stop
      | .ok next => readAll next rest := by
  rw [readAll.eq_def, readOne]
  dsimp only
  cases word : Word.of argument with
  | escape => exact (other word).elim
  | long | letters | plain => rfl

section

variable {progress : Progress} {settings : List Setting}

theorem readOne_typed (settles : progress.settle = .ok settings) (option : ValueOption) :
    readOne progress (Opt.value option).typed = .ok ⟨settings, some (.waiting option)⟩ := by
  have named := decodedOption_eq_some_iff.mpr (Eq.refl (Utf8.encode (Opt.value option).long))
  simp only [readOne, Opt.of_typed, readLong, named, settles]

theorem readOne_plain {option : ValueOption} (waits : progress.open? = some (.waiting option))
    {value : Octets} (plain : IsPlain value) :
    readOne progress value = .ok ⟨progress.accepted, some (.given option value)⟩ := by
  simp only [readOne, Word.of_plain plain, readPlain, waits]

/-- An occurrence of one argument is accepted at once. -/
theorem readOne_single (settles : progress.settle = .ok settings) {occurrence : Occurrence}
    {argument : Octets} (single : occurrence.render = [argument]) :
    readOne progress argument =
      match occurrence.acceptInto settings with
      | .error error => .error (.usage error)
      | .ok more => .ok ⟨more, none⟩ := by
  have named (option : Opt) :=
    decodedOption_eq_some_iff.mpr (Eq.refl (Utf8.encode option.long))
  cases occurrence with
  | spaced => cases single
  | joined option value =>
    cases single
    simp only [readOne, Opt.of_typed_append, readLong, named, settles]
    rfl
  | long =>
    cases single
    simp only [readOne, Opt.of_typed, readLong, named, switchOn, settles]
    by_cases repeated : hasOption settings (.flag .verbose) = true
    · simp [Occurrence.acceptInto, Occurrence.option, repeated]
    · simp [Occurrence.acceptInto, Occurrence.option, Occurrence.setting, Except.map, repeated]
  | short =>
    cases single
    have word : Word.of (Utf8.encode (Text.of "-v")) = .letters (Utf8.encode (Text.of "v")) := by
      decide
    have units : Utf8.units none (Utf8.encode (Text.of "v")) = [some 'v'] := by
      decide
    have letter : Flag.ofLetter? 'v' = some .verbose := rfl
    simp only [readOne, word, units, readLetters, letter, switchOn, settles]
    by_cases repeated : hasOption settings (.flag .verbose) = true
    · simp [Occurrence.acceptInto, Occurrence.option, repeated]
    · simp [Occurrence.acceptInto, Occurrence.option, Occurrence.setting, Except.map, repeated]

end

/-- What reading one argument can do. -/
inductive Step (progress : Progress) : Octets → Progress → Prop
  /-- The option that waits is given its value. -/
  | value {option : ValueOption} {argument : Octets}
      (waits : progress.open? = some (.waiting option)) (plain : IsPlain argument) :
      Step progress argument ⟨progress.accepted, some (.given option argument)⟩
  /-- An option is named. -/
  | opens {option : ValueOption} {settings : List Setting} (settles : progress.settle = .ok settings) :
      Step progress (Opt.value option).typed ⟨settings, some (.waiting option)⟩
  /-- An occurrence of one argument is complete. -/
  | single {occurrence : Occurrence} {argument : Octets} {settings more : List Setting}
      (settles : progress.settle = .ok settings) (single : occurrence.render = [argument]) :
      Step progress argument ⟨more, none⟩

theorem switchOn_eq_ok {progress next : Progress} {flag : Flag}
    (switched : switchOn progress flag = .ok next) :
    flag = .verbose ∧ ∃ settings, progress.settle = .ok settings ∧
      hasOption settings (.flag .verbose) = false ∧ next = ⟨settings ++ [.verbose], none⟩ := by
  unfold switchOn at switched
  cases settles : progress.settle with
  | error error =>
    rw [settles] at switched
    cases switched
  | ok settings =>
    rw [settles] at switched
    cases flag with
    | help | version => cases switched
    | verbose =>
      dsimp only at switched
      split at switched
      · cases switched
      · rename_i fresh
        cases switched
        exact ⟨rfl, settings, rfl, Bool.eq_false_iff.mpr fresh, rfl⟩

theorem readLong_eq_ok {progress next : Progress} {name : Octets} {value : Option Octets}
    (read : readLong progress name value = .ok next) :
    Step progress (Word.long name value).render next := by
  unfold readLong at read
  cases named : (Utf8.decode? name).bind Opt.ofLong? with
  | none =>
    rw [named] at read
    cases read
  | some option =>
    rw [named] at read
    obtain rfl := decodedOption_eq_some_iff.mp named
    cases option with
    | flag flag =>
      cases value with
      | some octets => cases read
      | none =>
        obtain ⟨rfl, settings, settles, -, rfl⟩ := switchOn_eq_ok read
        exact .single settles (Eq.refl Occurrence.long.render)
    | value option =>
      cases settles : progress.settle with
      | error error =>
        rw [settles] at read
        cases read
      | ok settings =>
        rw [settles] at read
        cases value with
        | none =>
          cases read
          exact .opens settles
        | some octets =>
          cases accepts : accept settings option octets with
          | error error =>
            simp only [accepts] at read
            cases read
          | ok more =>
            simp only [accepts] at read
            cases read
            exact .single settles (Eq.refl (Occurrence.joined option octets).render)

private theorem readLetters_cons_eq_ok {progress next : Progress} {first : Utf8.Unit}
    {rest : List Utf8.Unit} (read : readLetters progress (first :: rest) = .ok next) :
    first = some 'v' ∧ ∃ settings, progress.settle = .ok settings ∧
      hasOption settings (.flag .verbose) = false ∧
      readLetters ⟨settings ++ [.verbose], none⟩ rest = .ok next := by
  cases first with
  | none => cases read
  | some c =>
    rw [readLetters] at read
    cases letter : Flag.ofLetter? c with
    | none =>
      rw [letter] at read
      cases read
    | some flag =>
      rw [letter] at read
      cases switched : switchOn progress flag with
      | error stop =>
        simp only [switched] at read
        cases read
      | ok after =>
        simp only [switched] at read
        obtain ⟨rfl, settings, settles, fresh, rfl⟩ := switchOn_eq_ok switched
        obtain rfl := Flag.ofLetter?_eq_some_iff.mp letter
        exact ⟨rfl, settings, settles, fresh, read⟩

/-- Letters are read to the end only if they are the letter of the flag alone: a second one would
repeat it. -/
theorem readLetters_eq_ok {progress next : Progress} {units : List Utf8.Unit} (letters : units ≠ [])
    (read : readLetters progress units = .ok next) :
    units = [some 'v'] ∧ ∃ settings, progress.settle = .ok settings ∧
      next = ⟨settings ++ [.verbose], none⟩ := by
  obtain ⟨first, rest, rfl⟩ := List.exists_cons_of_ne_nil letters
  obtain ⟨rfl, settings, settles, -, others⟩ := readLetters_cons_eq_ok read
  cases rest with
  | nil =>
    cases others
    exact ⟨rfl, settings, settles, rfl⟩
  | cons second rest =>
    obtain ⟨-, more, resettles, fresh, -⟩ := readLetters_cons_eq_ok others
    cases resettles
    simp [hasOption, Setting.option] at fresh

theorem step_of_readOne {progress next : Progress} {argument : Octets}
    (read : readOne progress argument = .ok next) : Step progress argument next := by
  have typed := Word.render_of argument
  unfold readOne at read
  cases word : Word.of argument with
  | escape =>
    rw [word] at read
    cases read
  | long name value =>
    rw [word] at read typed
    rw [← typed]
    exact readLong_eq_ok read
  | letters octets =>
    rw [word] at read typed
    have letters : Utf8.units none octets ≠ [] := by
      intro empty
      have nothing : Utf8.encode [] = octets := Utf8.encode_of_units empty
      exact Word.ne_nil_of_letters word nothing.symm
    obtain ⟨single, settings, settles, rfl⟩ := readLetters_eq_ok letters read
    obtain rfl : Utf8.encode ['v'] = octets := Utf8.encode_of_units single
    rw [← typed]
    exact .single settles (Eq.refl Occurrence.short.render)
  | plain octets =>
    rw [word] at read typed
    obtain rfl : octets = argument := typed
    dsimp only [readPlain] at read
    split at read
    · rename_i option waits
      cases read
      exact .value waits (Word.isPlain_of word)
    · cases read

/-- The end of the options: what is open is settled, and nothing follows. -/
theorem readAll_escape (progress : Progress) (rest : List Octets) :
    readAll progress ([hyphen, hyphen] :: rest) =
      match rest with
      | [] => progress.settle.mapError .usage
      | next :: _ => .error (.usage (strayArgument (Utf8.decodeLossy next))) := by
  rw [readAll.eq_def]
  rfl

/-- What comes of the first of several arguments. -/
theorem readAll_cons_eq_ok {progress : Progress} {argument : Octets} {rest : List Octets}
    {final : List Setting} (read : readAll progress (argument :: rest) = .ok final) :
    (argument = [hyphen, hyphen] ∧ rest = [] ∧ progress.settle = .ok final) ∨
      ∃ next, Step progress argument next ∧ readAll next rest = .ok final := by
  by_cases ends : Word.of argument = .escape
  · have typed := Word.render_of argument
    rw [ends] at typed
    obtain rfl : [hyphen, hyphen] = argument := typed
    rw [readAll_escape] at read
    cases rest with
    | nil => exact .inl ⟨rfl, rfl, mapError_eq_ok_iff.mp read⟩
    | cons => cases read
  · rw [readAll_cons rest ends] at read
    cases one : readOne progress argument with
    | error stop =>
      rw [one] at read
      cases read
    | ok next =>
      rw [one] at read
      exact .inr ⟨next, step_of_readOne one, read⟩

/-! ## All arguments -/

/-- The arguments of the option that is open. -/
def Progress.typed (progress : Progress) : List Octets :=
  match progress.open? with
  | none => []
  | some (.waiting option) => [(Opt.value option).typed]
  | some (.given option value) => [(Opt.value option).typed, value]

/-- A value that the open option was given in an argument of its own does not look like an option. -/
def Progress.IsApart (progress : Progress) : Prop :=
  ∀ option value, progress.open? = some (.given option value) → IsPlain value

/-- What is open and can be settled is at most one occurrence. -/
theorem Progress.typed_of_settle {progress : Progress} {settings : List Setting}
    (apart : progress.IsApart) (settles : progress.settle = .ok settings) :
    ∃ occurrences : List Occurrence, progress.typed = occurrences.flatMap Occurrence.render ∧
      ∀ occurrence ∈ occurrences, occurrence.IsApart := by
  unfold Progress.settle at settles
  unfold Progress.typed
  cases opened : progress.open? with
  | none => exact ⟨[], rfl, by simp⟩
  | some state =>
    cases state with
    | waiting option =>
      rw [opened] at settles
      cases settles
    | given option value =>
      refine ⟨[.spaced option value], rfl, ?_⟩
      intro occurrence member
      rw [List.mem_singleton.mp member]
      exact apart option value opened

/-- Arguments that are read to the end are those of occurrences, the open one included. -/
theorem commandLine_of_readAll {progress : Progress} {arguments : List Octets} {final : List Setting}
    (apart : progress.IsApart) (read : readAll progress arguments = .ok final) :
    ∃ occurrences isEnded, progress.typed ++ arguments = commandLine occurrences isEnded ∧
      ∀ occurrence ∈ occurrences, occurrence.IsApart := by
  induction arguments generalizing progress with
  | nil =>
    rw [readAll] at read
    obtain ⟨occurrences, typed, all⟩ := progress.typed_of_settle apart (mapError_eq_ok_iff.mp read)
    exact ⟨occurrences, false, by simp [commandLine, typed], all⟩
  | cons argument rest ih =>
    obtain ⟨rfl, rfl, settles⟩ | ⟨next, step, others⟩ := readAll_cons_eq_ok read
    · obtain ⟨occurrences, typed, all⟩ := progress.typed_of_settle apart settles
      exact ⟨occurrences, true, by simp [commandLine, typed], all⟩
    · cases step with
      | @value option _ waits plain =>
        have nextApart : Progress.IsApart ⟨progress.accepted, some (.given option argument)⟩ := by
          rintro _ _ ⟨⟩
          exact plain
        obtain ⟨occurrences, isEnded, typed, all⟩ := ih nextApart others
        refine ⟨occurrences, isEnded, ?_, all⟩
        rw [← typed]
        simp [Progress.typed, waits]
      | opens settles =>
        obtain ⟨before, typed, all⟩ := progress.typed_of_settle apart settles
        obtain ⟨after, isEnded, typed', all'⟩ := ih (by rintro _ _ ⟨⟩) others
        refine ⟨before ++ after, isEnded, ?_, List.forall_mem_append.mpr ⟨all, all'⟩⟩
        rw [commandLine_append, ← typed, ← typed']
        rfl
      | @single occurrence _ _ _ settles single =>
        obtain ⟨before, typed, all⟩ := progress.typed_of_settle apart settles
        obtain ⟨after, isEnded, typed', all'⟩ := ih (by rintro _ _ ⟨⟩) others
        refine ⟨before ++ occurrence :: after, isEnded, ?_, List.forall_mem_append.mpr
          ⟨all, List.forall_mem_cons.mpr ⟨Occurrence.isApart_of_single single, all'⟩⟩⟩
        rw [commandLine_append, commandLine_cons, single, ← typed, ← typed']
        rfl

/-- What is open can be settled, unless it waits for its value. -/
theorem settles_of_readAll {progress : Progress} {arguments : List Octets} {final : List Setting}
    (read : readAll progress arguments = .ok final)
    (busy : ∀ option, progress.open? ≠ some (.waiting option)) :
    ∃ settings, progress.settle = .ok settings := by
  cases arguments with
  | nil =>
    rw [readAll] at read
    exact ⟨final, mapError_eq_ok_iff.mp read⟩
  | cons argument rest =>
    obtain ⟨-, -, settles⟩ | ⟨next, step, -⟩ := readAll_cons_eq_ok read
    · exact ⟨final, settles⟩
    · cases step with
      | value waits _ => exact (busy _ waits).elim
      | opens settles | single settles _ => exact ⟨_, settles⟩

/-- The arguments of occurrences are read as the occurrences are accepted, one after the other. -/
theorem readAll_commandLine {occurrences : List Occurrence}
    (apart : ∀ occurrence ∈ occurrences, occurrence.IsApart) {progress : Progress}
    {settings final : List Setting} (settles : progress.settle = .ok settings) (isEnded : Bool) :
    readAll progress (commandLine occurrences isEnded) = .ok final ↔
      occurrences.foldlM Occurrence.acceptInto settings = .ok final := by
  induction occurrences generalizing progress settings with
  | nil =>
    have same : readAll progress (commandLine [] isEnded) = progress.settle.mapError .usage := by
      cases isEnded with
      | false => rfl
      | true => exact readAll_escape progress []
    rw [same, mapError_eq_ok_iff, settles]
    rfl
  | cons occurrence others ih =>
    obtain ⟨here, there⟩ := List.forall_mem_cons.mp apart
    rw [commandLine_cons, List.foldlM_cons]
    by_cases single : ∃ argument, occurrence.render = [argument]
    · obtain ⟨argument, single⟩ := single
      rw [single, List.singleton_append, readAll_cons _ (Occurrence.word_ne_escape single),
        readOne_single settles single]
      cases accepted : occurrence.acceptInto settings with
      | error error => exact ⟨nofun, nofun⟩
      | ok more => exact ih there rfl
    · cases occurrence with
      | joined | short | long => exact (single ⟨_, rfl⟩).elim
      | spaced option value =>
        -- The option stays open, so a fault of its value shows only when reading goes on.
        have read : readAll progress ((Opt.value option).typed :: value :: commandLine others isEnded) =
            readAll ⟨settings, some (.given option value)⟩ (commandLine others isEnded) := by
          rw [readAll_cons _ (by simp [Opt.of_typed]), readOne_typed settles]
          dsimp only
          rw [readAll_cons _ (by simp [Word.of_plain here]), readOne_plain rfl here]
        have given : Progress.settle ⟨settings, some (.given option value)⟩ =
            Occurrence.acceptInto settings (.spaced option value) := rfl
        refine Iff.trans (iff_of_eq (congrArg (· = _) read)) ?_
        cases accepted : Occurrence.acceptInto settings (.spaced option value) with
        | error error =>
          refine ⟨?_, nofun⟩
          intro final
          obtain ⟨more, settled⟩ := settles_of_readAll final (by rintro _ ⟨⟩)
          rw [given, accepted] at settled
          cases settled
        | ok more => exact ih there (given.trans accepted)

/-! ## Settings -/

theorem Setting.ofOctets_eq_ok_iff {option : ValueOption} {value : Octets} {setting : Setting} :
    Setting.ofOctets option value = .ok setting ↔
      ∃ text, value = Utf8.encode text ∧ Setting.ofText option text = .ok setting := by
  unfold Setting.ofOctets
  cases decoded : Utf8.decode? value with
  | none =>
    refine ⟨nofun, ?_⟩
    rintro ⟨text, encoded, -⟩
    rw [Utf8.decode?_eq_some_iff.mpr encoded] at decoded
    cases decoded
  | some text =>
    obtain rfl := Utf8.decode?_eq_some_iff.mp decoded
    constructor
    · intro read
      exact ⟨text, rfl, read⟩
    · rintro ⟨other, encoded, read⟩
      rw [Utf8.decode?_eq_some_iff.mpr encoded, Option.some.injEq] at decoded
      rwa [← decoded]

theorem Setting.option_of_ofText {option : ValueOption} {text : Text} {setting : Setting}
    (read : Setting.ofText option text = .ok setting) : setting.option = .value option := by
  unfold Setting.ofText at read
  split at read
  · cases read
    rfl
  · cases read
    rfl
  · cases read
    rfl
  · split at read
    · cases read
      rfl
    · cases read
  · split at read
    · cases read
      rfl
    · cases read

theorem Setting.option_of_ofOctets {option : ValueOption} {value : Octets} {setting : Setting}
    (read : Setting.ofOctets option value = .ok setting) : setting.option = .value option := by
  obtain ⟨text, -, read⟩ := Setting.ofOctets_eq_ok_iff.mp read
  exact Setting.option_of_ofText read

/-- The setting of an occurrence has its option. -/
theorem Occurrence.option_of_setting {occurrence : Occurrence} {setting : Setting}
    (read : occurrence.setting = .ok setting) : setting.option = occurrence.option := by
  cases occurrence with
  | spaced option value | joined option value => exact Setting.option_of_ofOctets read
  | short | long =>
    cases read
    rfl

/-- Occurrences are accepted exactly if every one of them has a setting, and none of them has an option
that was there before. -/
theorem foldlM_acceptInto_eq_ok_iff {occurrences : List Occurrence} {settings final : List Setting} :
    occurrences.foldlM Occurrence.acceptInto settings = .ok final ↔
      ∃ more, final = settings ++ more ∧
        List.Forall₂ (fun occurrence setting => occurrence.setting = .ok setting) occurrences more ∧
        (∀ occurrence ∈ occurrences, hasOption settings occurrence.option = false) ∧
        (occurrences.map Occurrence.option).Nodup := by
  induction occurrences generalizing settings with
  | nil =>
    constructor
    · intro done
      obtain rfl : settings = final := Except.ok.inj done
      exact ⟨[], (List.append_nil _).symm, .nil, by simp, List.nodup_nil⟩
    · rintro ⟨more, rfl, all, -, -⟩
      cases all
      rw [List.append_nil]
      rfl
  | cons occurrence others ih =>
    rw [List.foldlM_cons]
    cases known : hasOption settings occurrence.option with
    | true =>
      have refused : occurrence.acceptInto settings = .error (.repeated occurrence.option) := by
        simp [Occurrence.acceptInto, known]
      rw [refused]
      refine ⟨nofun, ?_⟩
      rintro ⟨more, -, -, fresh, -⟩
      rw [fresh occurrence (List.mem_cons_self ..)] at known
      cases known
    | false =>
      have accepted : occurrence.acceptInto settings =
          occurrence.setting.map fun setting => settings ++ [setting] := by
        simp [Occurrence.acceptInto, known]
      rw [accepted]
      cases read : occurrence.setting with
      | error error =>
        refine ⟨nofun, ?_⟩
        rintro ⟨more, -, all, -⟩
        obtain ⟨setting, _, read', -⟩ := List.forall₂_cons_left_iff.mp all
        rw [read] at read'
        cases read'
      | ok setting =>
        have same := Occurrence.option_of_setting read
        have fresh (other : Occurrence) : hasOption (settings ++ [setting]) other.option = false ↔
            hasOption settings other.option = false ∧ occurrence.option ≠ other.option := by
          simp [hasOption, same]
        refine ih.trans ?_
        constructor
        · rintro ⟨more, rfl, all, others, nodup⟩
          refine ⟨setting :: more, by simp, .cons read all, ?_, ?_⟩
          · refine List.forall_mem_cons.mpr ⟨known, ?_⟩
            intro other member
            exact ((fresh other).mp (others other member)).1
          · refine List.nodup_cons.mpr ⟨?_, nodup⟩
            rw [List.mem_map]
            rintro ⟨other, member, equal⟩
            exact ((fresh other).mp (others other member)).2 equal.symm
        · rintro ⟨whole, rfl, all, known, nodup⟩
          obtain ⟨setting', more, read', rest, rfl⟩ := List.forall₂_cons_left_iff.mp all
          rw [read, Except.ok.injEq] at read'
          subst read'
          obtain ⟨absent, nodup⟩ := List.nodup_cons.mp nodup
          refine ⟨more, by simp, rest, ?_, nodup⟩
          intro other member
          refine (fresh other).mpr ⟨known other (List.mem_cons_of_mem _ member), ?_⟩
          intro equal
          exact absent (List.mem_map.mpr ⟨other, member, equal.symm⟩)

/-- The settings of the arguments of occurrences are the settings of the occurrences, which have
different options. -/
theorem readAll_start_commandLine {occurrences : List Occurrence}
    (apart : ∀ occurrence ∈ occurrences, occurrence.IsApart) {isEnded : Bool}
    {settings : List Setting} :
    readAll .start (commandLine occurrences isEnded) = .ok settings ↔
      List.Forall₂ (fun occurrence setting => occurrence.setting = .ok setting) occurrences settings ∧
        (occurrences.map Occurrence.option).Nodup := by
  have settles : Progress.start.settle = .ok [] := rfl
  rw [readAll_commandLine apart settles, foldlM_acceptInto_eq_ok_iff]
  constructor
  · rintro ⟨more, rfl, all, -, nodup⟩
    exact ⟨all, nodup⟩
  · rintro ⟨all, nodup⟩
    exact ⟨settings, rfl, all, fun _ _ => rfl, nodup⟩

end ReleaseTrigger.CommandLine
