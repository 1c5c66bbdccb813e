import ReleaseTrigger.CommandLine.Help
import ReleaseTrigger.Proofs.CommandLine.Occurrence

/-! # The command line before the environment

A variable is looked at only for an option that is not among the settings of the command line. An
argument that names an option cannot be the value of another one, so a command line that is read to the
end has a setting for every option that it names; a command line that is not read to the end is answered
without regard to the environment. Either way the variable of an option that is named has no influence.
-/

namespace ReleaseTrigger.CommandLine

/-! ## Named options -/

theorem Opt.encode_long_injective {first second : Opt}
    (same : Utf8.encode first.long = Utf8.encode second.long) : first = second := by
  have found := decodedOption_eq_some_iff.mpr (Eq.refl (Utf8.encode first.long))
  rw [decodedOption_eq_some_iff.mpr same] at found
  exact (Option.some.inj found).symm

/-- The only argument of an occurrence that names an option is the one that names its own. -/
theorem Occurrence.name_of_mem_render {occurrence : Occurrence} (apart : occurrence.IsApart)
    {argument name : Octets} {value : Option Octets} (member : argument ∈ occurrence.render)
    (word : Word.of argument = .long name value) : name = Utf8.encode occurrence.option.long := by
  cases occurrence with
  | spaced option given =>
    obtain rfl | rfl : argument = (Opt.value option).typed ∨ argument = given := by
      simpa [render] using member
    · rw [Opt.of_typed, Word.long.injEq] at word
      exact word.1.symm
    · rw [Word.of_plain apart] at word
      cases word
  | joined option given =>
    obtain rfl := List.mem_singleton.mp member
    rw [Opt.of_typed_append, Word.long.injEq] at word
    exact word.1.symm
  | short =>
    obtain rfl := List.mem_singleton.mp member
    rw [show Word.of (Utf8.encode (Text.of "-v")) = .letters (Utf8.encode (Text.of "v")) by decide]
      at word
    cases word
  | long =>
    obtain rfl := List.mem_singleton.mp member
    rw [Opt.of_typed, Word.long.injEq] at word
    exact word.1.symm

theorem option_mem_of_mem_commandLine {occurrences : List Occurrence}
    (apart : ∀ occurrence ∈ occurrences, occurrence.IsApart) {isEnded : Bool} {argument : Octets}
    (member : argument ∈ commandLine occurrences isEnded) {option : Opt} {value : Option Octets}
    (word : Word.of argument = .long (Utf8.encode option.long) value) :
    option ∈ occurrences.map Occurrence.option := by
  obtain inside | ends := List.mem_append.mp member
  · obtain ⟨occurrence, present, inside⟩ := List.mem_flatMap.mp inside
    have name := occurrence.name_of_mem_render (apart occurrence present) inside word
    rw [Opt.encode_long_injective name]
    exact List.mem_map_of_mem present
  · cases isEnded with
    | false => cases ends
    | true =>
      obtain rfl := List.mem_singleton.mp ends
      cases word

theorem options_of_settings {occurrences : List Occurrence} {settings : List Setting}
    (read : List.Forall₂ (fun occurrence setting => occurrence.setting = .ok setting) occurrences
      settings) : settings.map Setting.option = occurrences.map Occurrence.option := by
  induction read with
  | nil => rfl
  | cons read _ ih => rw [List.map_cons, List.map_cons, Occurrence.option_of_setting read, ih]

/-- The settings of a command line have every option that one of its arguments names. -/
theorem hasOption_of_readAll {arguments : List Octets} {settings : List Setting}
    (read : readAll .start arguments = .ok settings) {argument : Octets}
    (member : argument ∈ arguments) {option : Opt} {value : Option Octets}
    (word : Word.of argument = .long (Utf8.encode option.long) value) :
    hasOption settings option = true := by
  obtain ⟨occurrences, isEnded, typed, apart⟩ := commandLine_of_readAll (by rintro _ _ ⟨⟩) read
  obtain rfl : arguments = commandLine occurrences isEnded := typed
  obtain ⟨all, -⟩ := (readAll_start_commandLine apart).mp read
  have known := option_mem_of_mem_commandLine apart member word
  rw [← options_of_settings all, List.mem_map] at known
  obtain ⟨setting, present, rfl⟩ := known
  exact List.any_eq_true.mpr ⟨setting, present, beq_self_eq_true _⟩

/-- An occurrence of an option with a value starts with an argument that names the option. -/
theorem Occurrence.exists_word_of_option {occurrence : Occurrence} {option : ValueOption}
    (names : occurrence.option = .value option) :
    ∃ argument ∈ occurrence.render, ∃ value,
      Word.of argument = .long (Utf8.encode (Opt.value option).long) value := by
  cases occurrence with
  | spaced own value =>
    cases names
    exact ⟨_, List.mem_cons_self .., none, Opt.of_typed _⟩
  | joined own value =>
    cases names
    exact ⟨_, List.mem_singleton_self _, some value, Opt.of_typed_append _ _⟩
  | short | long => cases names

/-! ## The environment -/

/-- Of an option that is there already the variable is not looked at. -/
theorem addVariables_congr {first second : Environment} {option : ValueOption}
    (same : ∀ other, other ≠ option → other.fallback? first = other.fallback? second)
    (options : List ValueOption) {settings : List Setting}
    (present : hasOption settings (.value option) = true) :
    addVariables first settings options = addVariables second settings options := by
  induction options generalizing settings with
  | nil => rfl
  | cons head others ih =>
    have stays (setting : Setting) : hasOption (settings ++ [setting]) (.value option) = true := by
      rw [hasOption, List.any_append]
      exact Bool.or_eq_true_iff.mpr (.inl present)
    by_cases known : hasOption settings (.value head) = true
    · rw [addVariables, addVariables, if_pos known, if_pos known, ih present]
    · have differs : head ≠ option := by
        rintro rfl
        exact known present
      rw [addVariables, addVariables, if_neg known, if_neg known, same head differs]
      simp only [ih present, fun setting => ih (stays setting)]

/-- The message of a usage error or of the version does not depend on the environment. -/
theorem Stop.styled_congr {stop : Stop} (other : stop ≠ .help) (first second : Environment) :
    stop.styled first = stop.styled second := by
  cases stop with
  | usage | version => rfl
  | help => exact (other rfl).elim

/-- The variable of an option that occurs on the command line is hidden by it: environments that differ
in nothing else lead to the same arguments or to the same stop, whose message is the same unless it is
help. This holds wherever the occurrence stands, and whether or not reading comes that far. -/
theorem parse_hidesVariable {occurrence : Occurrence} {option : ValueOption}
    (names : occurrence.option = .value option) {arguments : List Octets}
    (occurs : occurrence.render <:+: arguments) {first second : Environment}
    (same : ∀ other, other ≠ option → other.fallback? first = other.fallback? second) :
    parse first arguments = parse second arguments ∧
      ∀ stop, parse first arguments = .error stop → stop ≠ .help →
        stop.styled first = stop.styled second := by
  refine ⟨?_, fun stop _ other => Stop.styled_congr other first second⟩
  obtain ⟨argument, member, value, word⟩ := Occurrence.exists_word_of_option names
  rw [parse, parse]
  cases read : readAll .start arguments with
  | error stop => rfl
  | ok settings =>
    have present := hasOption_of_readAll read (occurs.subset member) word
    dsimp only
    rw [addVariables_congr same _ present]

/-- A limit on the command line hides a variable that is no number and not even text, also where an
option is missing and the usage line names the limit. -/
theorem parse_hidesVariable_missing :
    let arguments := [Utf8.encode (Text.of "--timeout"), Utf8.encode ['5']]
    let first : Environment := ⟨some [0x74], none, some [0xFF], none, none, none⟩
    let second : Environment := ⟨some [0x74], none, none, none, none, none⟩
    let stop : Stop := .usage (.missingOptions [.buildRef] (.naming [.value .timeout]))
    parse first arguments = .error stop ∧ parse second arguments = .error stop ∧
      stop.styled first = stop.styled second := by
  intro arguments first second stop
  have parsed : parse first arguments = .error stop := by decide +kernel
  have same : ∀ other, other ≠ ValueOption.timeout → other.fallback? first = other.fallback? second := by
    intro other differs
    cases other with
    | timeout => exact (differs rfl).elim
    | token | buildRef | imageTag | jobUrl => rfl
  have names : (Occurrence.spaced .timeout (Utf8.encode ['5'])).option = .value .timeout := rfl
  obtain ⟨answer, message⟩ := parse_hidesVariable names (List.infix_refl arguments) same
  exact ⟨parsed, answer ▸ parsed, message stop parsed nofun⟩

end ReleaseTrigger.CommandLine
