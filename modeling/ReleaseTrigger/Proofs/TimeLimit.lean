import ReleaseTrigger.Proofs.Run
import ReleaseTrigger.Proofs.Text.Numeral

/-! # The time limit

`IsSeconds` says which texts are numbers of seconds, apart from how they are read, and the first run of digits
says why any other text is none. Where all else is accepted, a text for the limit decides the answer alone,
whether it is given in an argument or by the variable.
-/

namespace ReleaseTrigger.CommandLine

/-! ## Numbers of seconds -/

/-- A text is a number of seconds: decimal digits, at least one, after a plus sign or without one, that denote
a number of no more than 64 bits. -/
def IsSeconds (text : Text) (seconds : Nat) : Prop :=
  ∃ digits, (text = digits ∨ text = '+' :: digits) ∧ digits ≠ [] ∧ (∀ c ∈ digits, c.isDigit = true) ∧
    Text.positional 10 digits = seconds ∧ seconds < 2 ^ 64

/-- A text without the plus sign at its start, if there is one. -/
def unsigned (text : Text) : Text := if text.head? = some '+' then text.tail else text

/-- The longest run of digits at the start of a text, after a plus sign or without one. -/
def leadingDigits (text : Text) : Text := (unsigned text).takeWhile Char.isDigit

theorem isSeconds_iff {text : Text} {seconds : Nat} :
    IsSeconds text seconds ↔ unsigned text ≠ [] ∧ (∀ c ∈ unsigned text, c.isDigit = true) ∧
      Text.positional 10 (unsigned text) = seconds ∧ seconds < 2 ^ 64 := by
  constructor
  · rintro ⟨digits, spelled, some, isDigit, value, bound⟩
    have same : unsigned text = digits := by
      rcases spelled with rfl | rfl
      · refine if_neg fun signed => ?_
        cases isDigit '+' (List.mem_of_mem_head? signed)
      · exact if_pos rfl
    rw [same]
    exact ⟨some, isDigit, value, bound⟩
  · rintro ⟨some, isDigit, value, bound⟩
    refine ⟨unsigned text, ?_, some, isDigit, value, bound⟩
    unfold unsigned
    split_ifs with signed
    · obtain ⟨rest, rfl⟩ := List.head?_eq_some_iff.mp signed
      exact .inr rfl
    · exact .inl rfl

/-- What digits denote, none of them zero. -/
theorem getD_number?_of_isDigit {digits : Text} (isDigit : ∀ c ∈ digits, c.isDigit = true) :
    (Text.number? 10 digits).getD 0 = Text.positional 10 digits := by
  by_cases empty : digits = []
  · rw [empty]
    rfl
  · rw [Text.number?_eq_some_iff_positional.mpr ⟨empty, Text.isInBase_ten_iff.mpr isDigit, rfl⟩]
    rfl

theorem isDigit_of_mem_leadingDigits {text : Text} : ∀ c ∈ leadingDigits text, c.isDigit = true :=
  fun _ => List.mem_takeWhile_imp

theorem secondsBound_eq : secondsBound = 2 ^ 64 := rfl

/-- A number that is too large is a fault before any other. -/
theorem parseSeconds_eq {text : Text} (some : text ≠ []) :
    parseSeconds text =
      if 2 ^ 64 ≤ Text.positional 10 (leadingDigits text) then .error .tooLarge
      else if unsigned text ≠ [] ∧ (unsigned text).all Char.isDigit = true then
        .ok (Text.positional 10 (unsigned text))
      else .error .digit := by
  obtain ⟨first, rest, rfl⟩ := List.exists_cons_of_ne_nil some
  have numeral : (if first = '+' then rest else first :: rest) = unsigned (first :: rest) := by
    simp [unsigned]
  have leading := getD_number?_of_isDigit (@isDigit_of_mem_leadingDigits (first :: rest))
  rw [leadingDigits] at leading
  simp only [parseSeconds, numeral, leading, leadingDigits, secondsBound_eq]
  refine if_congr Iff.rfl rfl ?_
  by_cases isDigit : (unsigned (first :: rest)).all Char.isDigit = true
  · rw [if_pos isDigit]
    by_cases empty : unsigned (first :: rest) = []
    · rw [empty]
      rfl
    · have inside := Text.isInBase_ten_iff.mpr (List.all_eq_true.mp isDigit)
      rw [Text.number?_eq_some_iff_positional.mpr ⟨empty, inside, rfl⟩, if_pos ⟨empty, isDigit⟩]
  · rw [if_neg isDigit, if_neg fun both => isDigit both.2]

theorem parseSeconds_eq_ok_iff {text : Text} {seconds : Nat} :
    parseSeconds text = .ok seconds ↔ IsSeconds text seconds := by
  rw [isSeconds_iff]
  by_cases empty : text = []
  · rw [empty]
    exact iff_of_false nofun fun isSeconds => isSeconds.1 rfl
  by_cases isDigit : unsigned text ≠ [] ∧ (unsigned text).all Char.isDigit = true
  · have inside := List.all_eq_true.mp isDigit.2
    have whole : leadingDigits text = unsigned text := List.takeWhile_eq_self_iff.mpr inside
    rw [parseSeconds_eq empty, whole, if_pos isDigit]
    constructor
    · intro read
      split_ifs at read with large
      obtain rfl := Except.ok.inj read
      exact ⟨isDigit.1, inside, rfl, Nat.not_le.mp large⟩
    · rintro ⟨-, -, rfl, bound⟩
      exact if_neg (Nat.not_le.mpr bound)
  · rw [parseSeconds_eq empty, if_neg isDigit]
    refine iff_of_false ?_ fun isSeconds => isDigit ⟨isSeconds.1, List.all_eq_true.mpr isSeconds.2.1⟩
    intro read
    split_ifs at read

theorem parseSeconds_eq_empty_iff {text : Text} : parseSeconds text = .error .empty ↔ text = [] := by
  constructor
  · intro refused
    by_contra some
    rw [parseSeconds_eq some] at refused
    split_ifs at refused <;> cases refused
  · rintro rfl
    rfl

theorem parseSeconds_eq_tooLarge_iff {text : Text} :
    parseSeconds text = .error .tooLarge ↔ 2 ^ 64 ≤ Text.positional 10 (leadingDigits text) := by
  by_cases empty : text = []
  · rw [empty]
    decide
  · rw [parseSeconds_eq empty]
    split_ifs with large
    · exact iff_of_true rfl large
    · exact iff_of_false nofun large
    · exact iff_of_false nofun large

/-! ## Answers -/

/-- The answer to a text for the limit where everything else is accepted. -/
def limitAnswer (accepted : Arguments) (text : Text) : Except Stop Arguments :=
  match parseSeconds text with
  | .ok seconds => .ok { accepted with timeout := some seconds }
  | .error reason => .error (.usage (.invalidValue .timeout text (.number reason)))

/-- A number of seconds is accepted as the limit, and any other text is refused for the one reason that
fits. -/
structure AnswersLimit (accepted : Arguments) (text : Text) (answer : Except Stop Arguments) : Prop where
  accepts : ∀ found, answer = .ok found ↔
    ∃ seconds, IsSeconds text seconds ∧ found = { accepted with timeout := some seconds }
  refuses : (∀ seconds, ¬IsSeconds text seconds) → ∃ reason,
    answer = .error (.usage (.invalidValue .timeout text (.number reason))) ∧
      (reason = .empty ↔ text = []) ∧
      (reason = .tooLarge ↔ 2 ^ 64 ≤ Text.positional 10 (leadingDigits text)) ∧
      (reason = .digit ↔ text ≠ [] ∧ Text.positional 10 (leadingDigits text) < 2 ^ 64)

theorem answersLimit_limitAnswer (accepted : Arguments) (text : Text) :
    AnswersLimit accepted text (limitAnswer accepted text) := by
  have empty := @parseSeconds_eq_empty_iff text
  have tooLarge := @parseSeconds_eq_tooLarge_iff text
  rw [limitAnswer]
  constructor
  · simp only [← parseSeconds_eq_ok_iff]
    intro found
    cases parseSeconds text with
    | ok seconds => simp [eq_comm]
    | error reason => simp
  · intro isNone
    cases read : parseSeconds text with
    | ok seconds => exact absurd (parseSeconds_eq_ok_iff.mp read) (isNone seconds)
    | error reason =>
      rw [read, Except.error.injEq] at empty tooLarge
      refine ⟨reason, rfl, empty, tooLarge, ?_⟩
      rw [ne_eq, ← empty, ← Nat.not_le, ← tooLarge]
      cases reason <;> simp

/-- The reason is the one for which the text is no number of seconds. -/
theorem AnswersLimit.eq_error {accepted : Arguments} {text : Text} {answer : Except Stop Arguments}
    (limits : AnswersLimit accepted text answer) {reason : NumberError}
    (refused : parseSeconds text = .error reason) :
    answer = .error (.usage (.invalidValue .timeout text (.number reason))) := by
  have isNone : ∀ seconds, ¬IsSeconds text seconds := by
    intro seconds isSeconds
    cases (parseSeconds_eq_ok_iff.mpr isSeconds).symm.trans refused
  obtain ⟨found, answer, empty, tooLarge, digit⟩ := limits.refuses isNone
  have same : found = reason := by
    cases reason with
    | empty => exact empty.mpr (parseSeconds_eq_empty_iff.mp refused)
    | tooLarge => exact tooLarge.mpr (parseSeconds_eq_tooLarge_iff.mp refused)
    | digit =>
      refine digit.mpr ⟨fun none => ?_, Nat.not_le.mp fun large => ?_⟩
      · cases (parseSeconds_eq_empty_iff.mpr none).symm.trans refused
      · cases (parseSeconds_eq_tooLarge_iff.mpr large).symm.trans refused
  rw [answer, same]

/-! ## The limit in an argument -/

/-- The argument `--timeout=…` that gives the limit. -/
def limitArgument (text : Text) : Octets := (Opt.value .timeout).typed ++ equalsSign :: Utf8.encode text

theorem render_joined_timeout (text : Text) :
    (Occurrence.joined .timeout (Utf8.encode text)).render = [limitArgument text] := rfl

/-- What comes before some argument is read in the same way whatever comes then. -/
theorem exists_progress_of_readAll {progress : Progress} {before rest : List Octets} {final : List Setting}
    (some : rest ≠ []) (read : readAll progress (before ++ rest) = .ok final) :
    [hyphen, hyphen] ∉ before ∧ ∃ next, ∀ rest, readAll progress (before ++ rest) = readAll next rest := by
  induction before generalizing progress with
  | nil => exact ⟨List.not_mem_nil, progress, fun _ => rfl⟩
  | cons argument before ih =>
    -- After the escape all arguments are plain, and one is enough for the reading to fail.
    have continues : [hyphen, hyphen] ≠ argument := by
      rintro rfl
      have further := List.append_ne_nil_of_right_ne_nil before some
      obtain ⟨next, others, same⟩ := List.exists_cons_of_ne_nil further
      rw [List.cons_append, same, readAll_escape] at read
      cases read
    have word : Word.of argument ≠ .escape := by
      intro ends
      have typed := Word.render_of argument
      rw [ends] at typed
      exact continues typed
    rw [List.cons_append, readAll_cons _ word] at read
    cases one : readOne progress argument with
    | error stop =>
      rw [one] at read
      cases read
    | ok after =>
      rw [one] at read
      obtain ⟨endless, next, same⟩ := ih read
      refine ⟨List.not_mem_cons_of_ne_of_not_mem continues endless, next, fun rest => ?_⟩
      rw [List.cons_append, readAll_cons _ word, one]
      exact same rest

theorem Setting.ofOctets_timeout (text : Text) :
    Setting.ofOctets .timeout (Utf8.encode text) = match parseSeconds text with
      | .ok seconds => .ok (.timeout seconds)
      | .error reason => .error (.invalidValue .timeout text (.number reason)) := by
  rw [Setting.ofOctets, Utf8.decode?_eq_some_iff.mpr rfl]
  rfl

/-- An option that is read with its value in the same argument settles the option before it. -/
theorem exists_settle_of_readOne {progress next : Progress} {text : Text}
    (read : readOne progress (limitArgument text) = .ok next) :
    ∃ settings, progress.settle = .ok settings ∧ hasOption settings (.value .timeout) = false := by
  have named := decodedOption_eq_some_iff.mpr (Eq.refl (Utf8.encode (Opt.value .timeout).long))
  cases settles : progress.settle with
  | error error =>
    simp only [readOne, limitArgument, Opt.of_typed_append, readLong, named, settles] at read
    cases read
  | ok settings =>
    refine ⟨settings, rfl, ?_⟩
    by_contra known
    have repeated : hasOption settings (.value .timeout) = true := by simpa using known
    have refused : (Occurrence.joined .timeout (Utf8.encode text)).acceptInto settings =
        .error (.repeated (.value .timeout)) := if_pos repeated
    rw [readOne_single settles (render_joined_timeout text), refused] at read
    cases read

/-- The argument of the limit is accepted or refused where it stands. -/
theorem exists_readAll_limitArgument {before after : List Octets} {given : Text} {final : List Setting}
    (read : readAll .start (before ++ limitArgument given :: after) = .ok final) :
    ∃ settings, readAll .start before = .ok settings ∧
      ∀ text, readAll .start (before ++ limitArgument text :: after) = match parseSeconds text with
        | .ok seconds => readAll ⟨settings ++ [.timeout seconds], none⟩ after
        | .error reason => .error (.usage (.invalidValue .timeout text (.number reason))) := by
  have word (text : Text) : Word.of (limitArgument text) ≠ .escape := by
    simp [limitArgument, Opt.of_typed_append]
  obtain ⟨-, next, same⟩ := exists_progress_of_readAll (List.cons_ne_nil _ _) read
  rw [same, readAll_cons after (word given)] at read
  cases one : readOne next (limitArgument given) with
  | error stop =>
    rw [one] at read
    cases read
  | ok following =>
    obtain ⟨settings, settles, fresh⟩ := exists_settle_of_readOne one
    -- What comes before ends where the limit stands, so its option is settled there either way.
    refine ⟨settings, ?_, fun text => ?_⟩
    · have alone := same []
      rw [List.append_nil] at alone
      rw [alone, readAll, settles]
      rfl
    · have accepts : (Occurrence.joined .timeout (Utf8.encode text)).acceptInto settings =
          (Setting.ofOctets .timeout (Utf8.encode text)).map fun setting => settings ++ [setting] :=
        if_neg (by rw [Occurrence.option, fresh]; decide)
      rw [same, readAll_cons after (word text), readOne_single settles (render_joined_timeout text), accepts,
        Setting.ofOctets_timeout]
      cases parseSeconds text <;> rfl

/-- A command line with a limit in an argument is made of occurrences before it and after it. -/
theorem exists_commandLine_of_readAll {before after : List Octets} {given : Text} {final : List Setting}
    (read : readAll .start (before ++ limitArgument given :: after) = .ok final) :
    ∃ first second isEnded, (∀ occurrence ∈ first ++ second, occurrence.IsApart) ∧
      ∀ text, before ++ limitArgument text :: after =
        commandLine (first ++ .joined .timeout (Utf8.encode text) :: second) isEnded := by
  obtain ⟨endless, -⟩ := exists_progress_of_readAll (List.cons_ne_nil _ _) read
  obtain ⟨settings, start, rest⟩ := exists_readAll_limitArgument read
  rw [rest] at read
  cases number : parseSeconds given with
  | error reason =>
    rw [number] at read
    cases read
  | ok seconds =>
    rw [number] at read
    obtain ⟨first, isEnded, typed, apart⟩ := commandLine_of_readAll (by rintro _ _ ⟨⟩) start
    obtain ⟨second, isEnded', typed', apart'⟩ := commandLine_of_readAll (by rintro _ _ ⟨⟩) read
    obtain rfl : before = commandLine first isEnded := typed
    obtain rfl : after = commandLine second isEnded' := typed'
    have isEnded : isEnded = false := by
      cases isEnded with
      | false => rfl
      | true => exact absurd (List.mem_append_right _ (List.mem_singleton_self _)) endless
    refine ⟨first, second, isEnded', List.forall_mem_append.mpr ⟨apart, apart'⟩, fun text => ?_⟩
    rw [commandLine_append, commandLine_cons, render_joined_timeout, commandLine, isEnded]
    simp

/-- Values that differ in the limit alone denote arguments that differ in it alone. -/
theorem Denotes.withLimit {source source' : ValueOption → Option Octets} {isVerbose : Bool}
    {accepted : Arguments} (denotes : Denotes source isVerbose accepted)
    (same : ∀ option, option ≠ .timeout → source' option = source option) {limit : Option Nat}
    (parsed : IsParsed parseSeconds (source' .timeout) limit) :
    Denotes source' isVerbose { accepted with timeout := limit } where
  token := (same .token nofun).trans denotes.token
  buildRef := (same .buildRef nofun).trans denotes.buildRef
  imageTag := (same .imageTag nofun).trans denotes.imageTag
  jobUrl := by
    rw [same .jobUrl nofun]
    exact denotes.jobUrl
  timeout := parsed
  verbose := denotes.verbose

theorem isParsed_encode {text : Text} {seconds : Nat} (read : parseSeconds text = .ok seconds) :
    IsParsed parseSeconds (some (Utf8.encode text)) (some seconds) :=
  .inr ⟨text, seconds, rfl, read, rfl⟩

/-- Whatever number is given for the limit in an argument, all else is accepted as before. -/
theorem parse_limitArgument_of_ok {environment : Environment} {before after : List Octets} {given : Text}
    {accepted : Arguments} (valid : parse environment (before ++ limitArgument given :: after) = .ok accepted)
    {final : List Setting} (whole : readAll .start (before ++ limitArgument given :: after) = .ok final)
    {text : Text} {seconds : Nat} (read : parseSeconds text = .ok seconds) :
    parse environment (before ++ limitArgument text :: after) =
      .ok { accepted with timeout := some seconds } := by
  obtain ⟨first, second, isEnded, apart, typed⟩ := exists_commandLine_of_readAll whole
  have apart' (text : Text) :
      ∀ occurrence ∈ first ++ .joined .timeout (Utf8.encode text) :: second, occurrence.IsApart := by
    simp only [List.forall_mem_append, List.forall_mem_cons] at apart ⊢
    exact ⟨apart.1, trivial, apart.2⟩
  rw [typed] at valid ⊢
  obtain ⟨distinct, denotes⟩ := (parse_commandLine_eq_ok_iff (apart' given)).mp valid
  have distinct' :
      ((first ++ .joined .timeout (Utf8.encode text) :: second).map Occurrence.option).Nodup := by
    simpa [Occurrence.option] using distinct
  have verbose : isVerbose (first ++ .joined .timeout (Utf8.encode text) :: second) =
      isVerbose (first ++ .joined .timeout (Utf8.encode given) :: second) := by
    simp [isVerbose, Occurrence.option]
  refine (parse_commandLine_eq_ok_iff (apart' text)).mpr ⟨distinct', ?_⟩
  rw [verbose]
  apply denotes.withLimit
  · intro option differs
    simp [source?, given?, List.findSome?_append, Occurrence.valueFor?, Ne.symm differs]
  · have limit : given? (first ++ .joined .timeout (Utf8.encode text) :: second) .timeout =
        some (Utf8.encode text) :=
      (given?_eq_some_iff distinct').mpr
        (List.mem_map.mpr ⟨.joined .timeout (Utf8.encode text), by simp, rfl⟩)
    rw [source?, limit, Option.some_or]
    exact isParsed_encode read

/-- A text for the limit in an argument decides the answer if all else is accepted. -/
theorem parse_limitArgument {environment : Environment} {before after : List Octets} {given : Text}
    {accepted : Arguments} (valid : parse environment (before ++ limitArgument given :: after) = .ok accepted)
    (text : Text) :
    parse environment (before ++ limitArgument text :: after) = limitAnswer accepted text := by
  cases whole : readAll .start (before ++ limitArgument given :: after) with
  | error stop =>
    rw [parse, whole] at valid
    cases valid
  | ok final =>
    rw [limitAnswer]
    cases read : parseSeconds text with
    | ok seconds => exact parse_limitArgument_of_ok valid whole read
    | error reason =>
      obtain ⟨settings, -, rest⟩ := exists_readAll_limitArgument whole
      rw [parse, rest, read]

/-! ## The limit in the environment -/

theorem addVariables_append (environment : Environment) (settings : List Setting)
    (first second : List ValueOption) :
    addVariables environment settings (first ++ second) =
      match addVariables environment settings first with
      | .error error => .error error
      | .ok more => addVariables environment more second := by
  induction first generalizing settings with
  | nil => rfl
  | cons option others ih =>
    rw [List.cons_append, addVariables, addVariables]
    split_ifs with known
    · exact ih settings
    · cases option.fallback? environment with
      | none => exact ih settings
      | some value =>
        dsimp only
        cases Setting.ofOctets option value with
        | error error => rfl
        | ok setting => exact ih (settings ++ [setting])

/-- Only the variables of the options are looked at. -/
theorem addVariables_congr_of_mem {first second : Environment} {options : List ValueOption}
    (same : ∀ option ∈ options, option.fallback? first = option.fallback? second) (settings : List Setting) :
    addVariables first settings options = addVariables second settings options := by
  induction options generalizing settings with
  | nil => rfl
  | cons option others ih =>
    obtain ⟨here, there⟩ := List.forall_mem_cons.mp same
    rw [addVariables, addVariables, here]
    simp only [ih there]

/-- A value is found in settings if and only if they have its option. -/
theorem isSome_find? {α : Type} {value? : Setting → Option α} {option : ValueOption}
    (reads : ∀ setting : Setting, (value? setting).isSome = (setting.option == .value option))
    (settings : List Setting) :
    (find? settings value?).isSome = hasOption settings (.value option) := by
  rw [find?_eq_bind reads, hasOption_eq_isSome]
  cases found : lookup? settings option with
  | none => rfl
  | some setting =>
    rw [Option.bind_some, reads, List.find?_some found]
    rfl

/-- Arguments have a limit if and only if their settings do. -/
theorem isSome_timeout_of_complete {settings : List Setting} {accepted : Arguments}
    (completed : complete settings = .ok accepted) :
    accepted.timeout.isSome = hasOption settings (.value .timeout) := by
  unfold complete at completed
  dsimp only at completed
  split at completed
  · cases completed
    apply isSome_find?
    rintro (_ | _ | _ | _ | _ | _) <;> rfl
  · cases completed

section

variable {environment : Environment} {arguments : List Octets} {accepted : Arguments}
  (valid : parse { environment with timeout := none } arguments = .ok accepted)
  (absent : accepted.timeout = none)

include valid absent

theorem parse_limitVariable_of_ok {text : Text} {seconds : Nat} (read : parseSeconds text = .ok seconds) :
    parse { environment with timeout := some (Utf8.encode text) } arguments =
      .ok { accepted with timeout := some seconds } := by
  obtain ⟨occurrences, spells⟩ := exists_spells_of_parse valid
  have denotes := spells.parse_eq_ok_iff.mp valid
  have unset : given? occurrences .timeout = none := by
    have limit := denotes.timeout
    rw [absent] at limit
    rcases limit with ⟨nothing, -⟩ | ⟨_, _, -, -, impossible⟩
    · exact (Option.or_eq_none_iff.mp nothing).1
    · cases impossible
  apply spells.parse_eq_ok_iff.mpr
  apply denotes.withLimit
  · intro option differs
    cases option with
    | timeout => exact absurd rfl differs
    | token | buildRef | imageTag | jobUrl => rfl
  · rw [source?, unset, Option.none_or]
    exact isParsed_encode read

/-- A text for the limit in the environment is looked at if there is no limit on the command line. -/
theorem parse_limitVariable_of_error {text : Text} {reason : NumberError}
    (refused : parseSeconds text = .error reason) :
    parse { environment with timeout := some (Utf8.encode text) } arguments =
      .error (.usage (.invalidValue .timeout text (.number reason))) := by
  -- The limit is the last option with a variable, so nothing before it depends on the text.
  have divided : ValueOption.withVariable = [.token, .jobUrl] ++ [.timeout] := rfl
  cases read : readAll .start arguments with
  | error stop =>
    rw [parse, read] at valid
    cases valid
  | ok settings =>
    have same : addVariables { environment with timeout := some (Utf8.encode text) } settings
        [.token, .jobUrl] = addVariables { environment with timeout := none } settings [.token, .jobUrl] := by
      apply addVariables_congr_of_mem
      simp [ValueOption.fallback?]
    simp only [parse, read, divided, addVariables_append, same] at valid ⊢
    cases added : addVariables { environment with timeout := none } settings [.token, .jobUrl] with
    | error error =>
      rw [added] at valid
      cases valid
    | ok more =>
      rw [added] at valid
      have unset : addVariables { environment with timeout := none } more [.timeout] = .ok more := by
        simp [addVariables, ValueOption.fallback?]
      simp only [unset] at valid
      have fresh := (isSome_timeout_of_complete (mapError_eq_ok_iff.mp valid)).symm
      rw [absent] at fresh
      simp [addVariables, fresh, ValueOption.fallback?, Setting.ofOctets_timeout, refused]

/-- A text for the limit in the environment decides the answer if all else is accepted and there is no limit
on the command line. -/
theorem parse_limitVariable (text : Text) :
    parse { environment with timeout := some (Utf8.encode text) } arguments = limitAnswer accepted text := by
  rw [limitAnswer]
  cases read : parseSeconds text with
  | ok seconds => exact parse_limitVariable_of_ok valid absent read
  | error reason => exact parse_limitVariable_of_error valid absent read

end

/-! ## The limit of a run -/

/-- The limit of arguments is the limit of the settings under which their build is triggered, and with a
limit there is an end. -/
theorem execute_of_limit {accepted : Arguments} {seconds : Nat} (limit : accepted.timeout = some seconds)
    {parameters : Parameters} (resolved : accepted.resolve = .ok parameters) (endpoint : Http.Endpoint) :
    let triggered := trigger { jobUrl := accepted.jobUrl, timeout := some seconds } parameters endpoint 0
    accepted.settings = { jobUrl := accepted.jobUrl, timeout := some seconds } ∧
      (execute accepted endpoint).requests = triggered.requests ∧
      (execute accepted endpoint).result ≠ none ∧
      ∀ failure, (execute accepted endpoint).result = some (.error (.request failure)) ↔
        triggered.result = some (.error failure) := by
  intro triggered
  have settings : accepted.settings = ⟨accepted.jobUrl, some seconds⟩ := by rw [Arguments.settings, limit]
  have same : trigger accepted.settings parameters endpoint 0 = triggered := by rw [settings]
  refine ⟨settings, ?_⟩
  rcases result : triggered.result with _ | failure | outcome
  · have waits := (disciplined_of_trigger _ parameters endpoint 0).waits (by simpa using result)
    obtain ⟨-, url, stalls⟩ := waits
    cases stalls.1
  · rw [execute_failed resolved (same ▸ result), same]
    simp
  · rw [execute_answered resolved (same ▸ result), same]
    simp

/-- Limits are exact. If all else is accepted, a text for the limit is accepted, in an argument or, without
one, in the variable, if and only if it is a plus sign or none and then decimal digits, at least one, whose
value takes no more than 64 bits; that value is then the limit of the settings under which the build is
triggered, which ends in any case. The text is otherwise refused for the one reason that fits: there is
none, or the digits at its start are too many for 64 bits, whatever follows them, or else some character is
no digit. -/
theorem parse_limit :
    (∀ environment before after given accepted,
      parse environment (before ++ limitArgument given :: after) = .ok accepted →
      ∀ text, AnswersLimit accepted text (parse environment (before ++ limitArgument text :: after))) ∧
    (∀ (environment : Environment) arguments accepted,
      parse { environment with timeout := none } arguments = .ok accepted → accepted.timeout = none →
      ∀ text, AnswersLimit accepted text
        (parse { environment with timeout := some (Utf8.encode text) } arguments)) ∧
    (∀ (accepted : Arguments) seconds parameters endpoint, accepted.timeout = some seconds →
      accepted.resolve = .ok parameters →
      let triggered := trigger { jobUrl := accepted.jobUrl, timeout := some seconds } parameters endpoint 0
      accepted.settings = { jobUrl := accepted.jobUrl, timeout := some seconds } ∧
        (execute accepted endpoint).requests = triggered.requests ∧
        (execute accepted endpoint).result ≠ none ∧
        ∀ failure, (execute accepted endpoint).result = some (.error (.request failure)) ↔
          triggered.result = some (.error failure)) ∧
    NumberError.empty.message = Text.of "cannot parse integer from empty string" ∧
    NumberError.tooLarge.message = Text.of "number too large to fit in target type" ∧
    NumberError.digit.message = Text.of "invalid digit found in string" := by
  refine ⟨?_, ?_, ?_, rfl, rfl, rfl⟩
  · intro environment before after given accepted valid text
    rw [parse_limitArgument valid]
    exact answersLimit_limitAnswer accepted text
  · intro environment arguments accepted valid absent text
    rw [parse_limitVariable valid absent]
    exact answersLimit_limitAnswer accepted text
  · intro accepted seconds parameters endpoint limit resolved
    exact execute_of_limit limit resolved endpoint

/-- The greatest limit, with a sign and zeros before it; one more, before a character that is no digit; and a
sign alone. -/
theorem parse_limit_greatest :
    let environment : Environment := ⟨none, none, none, none, none, none⟩
    let token := Utf8.encode (Text.of "--token=t")
    let buildRef := Utf8.encode (Text.of "--build-ref=v1")
    let large := Text.of "18446744073709551616x"
    (∃ accepted, parse environment [token, limitArgument (Text.of "+0018446744073709551615"), buildRef] =
        .ok accepted ∧ accepted.timeout = some 18446744073709551615) ∧
      parse environment [token, limitArgument large, buildRef] =
        .error (.usage (.invalidValue .timeout large (.number .tooLarge))) ∧
      parse { environment with timeout := some (Utf8.encode ['+']) } [token, buildRef] =
        .error (.usage (.invalidValue .timeout ['+'] (.number .digit))) := by
  intro environment token buildRef large
  let accepted : Arguments := ⟨Text.of "t", Text.of "v1", none, fallbackJobUrl, none, false⟩
  have valid : parse environment ([token] ++ limitArgument ['0'] :: [buildRef]) =
      .ok { accepted with timeout := some 0 } := by decide +kernel
  have valid' : parse { environment with timeout := none } [token, buildRef] = .ok accepted := by
    decide +kernel
  obtain ⟨argument, variable', -⟩ := parse_limit
  have limits := argument environment [token] [buildRef] ['0'] _ valid
  have limits' := variable' environment [token, buildRef] accepted valid' rfl
  refine ⟨?_, ?_, ?_⟩
  · have isSeconds : IsSeconds (Text.of "+0018446744073709551615") 18446744073709551615 :=
      parseSeconds_eq_ok_iff.mp (by decide +kernel)
    exact ⟨_, ((limits _).accepts _).mpr ⟨_, isSeconds, rfl⟩, rfl⟩
  · exact (limits large).eq_error (by decide +kernel)
  · exact (limits' ['+']).eq_error (by decide)

end ReleaseTrigger.CommandLine
