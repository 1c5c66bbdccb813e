import ReleaseTrigger.CommandLine.Help
import ReleaseTrigger.Proofs.CommandLine.Occurrence

/-! # The secrecy of the token

Reading asks of settings which options they have, never what the value of one of them is. Two runs that
have come equally far with settings that differ in the token alone therefore take the same step and stop
for the same reason, until they end with arguments that differ in the token alone. `readAll_alike` carries
this through the command line; the environment and the completion of the arguments follow.
-/

namespace ReleaseTrigger.CommandLine

/-! ## Results that agree -/

/-- Two results agree: both are the same error, or both are values in a relation. -/
inductive Agree {ε α : Type} (alike : α → α → Prop) : Except ε α → Except ε α → Prop
  /-- The same error. -/
  | error (error : ε) : Agree alike (.error error) (.error error)
  /-- Values in the relation. -/
  | ok {first second : α} (same : alike first second) : Agree alike (.ok first) (.ok second)

theorem Agree.eq_error {ε α : Type} {alike : α → α → Prop} {error : ε} {result : Except ε α}
    (agree : Agree alike (.error error) result) : result = .error error := by
  cases agree
  rfl

theorem Agree.mapError {ε ε' α : Type} {alike : α → α → Prop} {first second : Except ε α}
    (agree : Agree alike first second) (wrap : ε → ε') :
    Agree alike (first.mapError wrap) (second.mapError wrap) := by
  cases agree with
  | error error => exact .error (wrap error)
  | ok same => exact .ok same

/-! ## Settings that differ in the token -/

/-- A setting with the token left out. -/
def Setting.withoutToken : Setting → Setting
  | token _ => token []
  | other => other

@[simp] theorem Setting.option_withoutToken (setting : Setting) :
    setting.withoutToken.option = setting.option := by
  cases setting <;> rfl

/-- Settings that differ in the token at most. -/
def AlikeSettings (first second : List Setting) : Prop :=
  first.map Setting.withoutToken = second.map Setting.withoutToken

/-- Two runs that have come equally far with settings that differ in the token at most. -/
structure AlikeProgress (first second : Progress) : Prop where
  accepted : AlikeSettings first.accepted second.accepted
  open? : first.open? = second.open?

namespace AlikeSettings

variable {first second : List Setting}

theorem options (alike : AlikeSettings first second) :
    first.map Setting.option = second.map Setting.option := by
  have same := congrArg (List.map Setting.option) alike
  simpa only [List.map_map, Function.comp_def, Setting.option_withoutToken] using same

theorem hasOption (alike : AlikeSettings first second) (option : Opt) :
    hasOption first option = hasOption second option := by
  have same := congrArg (List.any · (· == option)) alike.options
  simpa only [CommandLine.hasOption, List.any_map, Function.comp_def] using same

theorem isEmpty (alike : AlikeSettings first second) : first.isEmpty = second.isEmpty := by
  have same := congrArg List.isEmpty alike
  simpa only [List.isEmpty_map] using same

/-- What can be seen of a setting without its token can be seen of the settings. -/
theorem map_find? {α β : Type} (alike : AlikeSettings first second) {value? : Setting → Option α}
    (view : α → β)
    (seen : ∀ setting : Setting, (value? setting.withoutToken).map view = (value? setting).map view) :
    (find? first value?).map view = (find? second value?).map view := by
  have same := congrArg (List.findSome? fun setting => (value? setting).map view) alike
  simp only [List.findSome?_map, Function.comp_def, seen] at same
  simpa only [CommandLine.find?, List.map_findSome?, Function.comp_def] using same

/-- The value of an option other than the token is the same. -/
theorem find? {α : Type} (alike : AlikeSettings first second) {value? : Setting → Option α}
    (seen : ∀ setting : Setting, value? setting.withoutToken = value? setting) :
    find? first value? = find? second value? := by
  simpa using alike.map_find? id fun setting => congrArg _ (seen setting)

end AlikeSettings

/-! ## One step -/

/-- Values that differ only if they are tokens. -/
inductive AlikeValue : ValueOption → Octets → Octets → Prop
  /-- The same value of any option. -/
  | same (option : ValueOption) (value : Octets) : AlikeValue option value value
  /-- Two tokens that are text. -/
  | token (first second : Text) : AlikeValue .token (Utf8.encode first) (Utf8.encode second)

theorem Setting.ofOctets_alike {option : ValueOption} {value other : Octets}
    (values : AlikeValue option value other) :
    Agree (fun first second : Setting => first.withoutToken = second.withoutToken)
      (Setting.ofOctets option value) (Setting.ofOctets option other) := by
  cases values with
  | same =>
    cases Setting.ofOctets option value with
    | error error => exact .error error
    | ok setting => exact .ok rfl
  | token first second =>
    have read (text : Text) : Setting.ofOctets .token (Utf8.encode text) = .ok (.token text) :=
      Setting.ofOctets_eq_ok_iff.mpr ⟨text, rfl, rfl⟩
    rw [read, read]
    exact .ok rfl

theorem AlikeSettings.snoc {first second : List Setting} (alike : AlikeSettings first second)
    {setting other : Setting} (same : setting.withoutToken = other.withoutToken) :
    AlikeSettings (first ++ [setting]) (second ++ [other]) := by
  rw [AlikeSettings, List.map_append, List.map_append, alike, List.map_singleton, List.map_singleton, same]

/-- An option is accepted with its value by both, or refused by both for one reason. -/
theorem accept_alike {first second : List Setting} (alike : AlikeSettings first second)
    {option : ValueOption} {value other : Octets} (values : AlikeValue option value other) :
    Agree AlikeSettings (accept first option value) (accept second option other) := by
  have read := Setting.ofOctets_alike values
  unfold accept
  rw [alike.hasOption]
  split
  · exact .error _
  · generalize Setting.ofOctets option value = setting?, Setting.ofOctets option other = setting'?
      at read ⊢
    cases read with
    | error error => exact .error error
    | ok same => exact .ok (alike.snoc same)

namespace AlikeProgress

variable {first second : Progress} (alike : AlikeProgress first second)

include alike

theorem settle : Agree AlikeSettings first.settle second.settle := by
  unfold Progress.settle
  rw [alike.open?]
  cases second.open? with
  | none => exact .ok alike.accepted
  | some opened =>
    cases opened with
    | waiting option => exact .error _
    | given option value => exact accept_alike alike.accepted (.same option value)

theorem used : first.used = second.used := by
  rw [Progress.used, Progress.used, alike.open?, alike.accepted.options]

theorem switchOn (flag : Flag) : Agree AlikeProgress (switchOn first flag) (switchOn second flag) := by
  have settled := alike.settle
  unfold CommandLine.switchOn
  generalize first.settle = settled?, second.settle = settled'? at settled ⊢
  cases settled with
  | error error => exact .error _
  | ok same =>
    cases flag with
    | help | version => exact .error _
    | verbose =>
      dsimp only
      rw [same.hasOption]
      split
      · exact .error _
      · exact .ok ⟨same.snoc rfl, rfl⟩

theorem readLetters (units : List Utf8.Unit) :
    Agree AlikeProgress (readLetters first units) (readLetters second units) := by
  induction units generalizing first second with
  | nil => exact .ok alike
  | cons unit rest ih =>
    cases unit with
    | none => exact .error _
    | some c =>
      rw [CommandLine.readLetters, CommandLine.readLetters]
      cases Flag.ofLetter? c with
      | none => exact .error _
      | some flag =>
        have switched := alike.switchOn flag
        dsimp only
        generalize CommandLine.switchOn first flag = next?, CommandLine.switchOn second flag = next'?
          at switched ⊢
        cases switched with
        | error stop => exact .error stop
        | ok same => exact ih same

theorem readLong (name : Octets) (value : Option Octets) :
    Agree AlikeProgress (readLong first name value) (readLong second name value) := by
  unfold CommandLine.readLong
  cases (Utf8.decode? name).bind Opt.ofLong? with
  | none =>
    simp only [unknownLong, alike.used]
    exact .error _
  | some option =>
    cases option with
    | flag flag =>
      cases value with
      | none => exact alike.switchOn flag
      | some octets =>
        simp only [unneededValue, alike.accepted.isEmpty]
        exact .error _
    | value option =>
      have settled := alike.settle
      dsimp only
      generalize first.settle = settled?, second.settle = settled'? at settled ⊢
      cases settled with
      | error error => exact .error _
      | @ok settings others same =>
        cases value with
        | none => exact .ok ⟨same, rfl⟩
        | some octets =>
          have accepts := accept_alike same (.same option octets)
          dsimp only
          generalize accept settings option octets = more?, accept others option octets = more'?
            at accepts ⊢
          cases accepts with
          | error error => exact .error _
          | ok same => exact .ok ⟨same, rfl⟩

theorem readPlain (octets : Octets) :
    Agree AlikeProgress (readPlain first octets) (readPlain second octets) := by
  unfold CommandLine.readPlain
  rw [alike.open?]
  split
  · exact .ok ⟨alike.accepted, rfl⟩
  · exact .error _

theorem readOne (argument : Octets) :
    Agree AlikeProgress (readOne first argument) (readOne second argument) := by
  unfold CommandLine.readOne
  cases Word.of argument with
  | escape => exact .error _
  | long name value => exact alike.readLong name value
  | letters octets => exact alike.readLetters _
  | plain octets => exact alike.readPlain octets

/-- Arguments are read alike to the end. -/
theorem readAll (arguments : List Octets) :
    Agree AlikeSettings (readAll first arguments) (readAll second arguments) := by
  induction arguments generalizing first second with
  | nil => exact alike.settle.mapError _
  | cons argument rest ih =>
    by_cases ends : Word.of argument = .escape
    · have typed := Word.render_of argument
      rw [ends] at typed
      obtain rfl : [hyphen, hyphen] = argument := typed
      rw [readAll_escape, readAll_escape]
      cases rest with
      | nil => exact alike.settle.mapError _
      | cons => exact .error _
    · have one := alike.readOne argument
      rw [readAll_cons rest ends, readAll_cons rest ends]
      generalize CommandLine.readOne first argument = next?,
        CommandLine.readOne second argument = next'? at one ⊢
      cases one with
      | error stop => exact .error stop
      | ok same => exact ih same

end AlikeProgress

/-! ## Two tokens on the command line -/

/-- The argument `--token=…` that gives the token. -/
def tokenArgument (token : Text) : Octets :=
  (Opt.value .token).typed ++ equalsSign :: Utf8.encode token

theorem readOne_token_alike (progress : Progress) (token other : Text) :
    Agree AlikeProgress (readOne progress (tokenArgument token))
      (readOne progress (tokenArgument other)) := by
  have named := decodedOption_eq_some_iff.mpr (Eq.refl (Utf8.encode (Opt.value .token).long))
  simp only [readOne, tokenArgument, Opt.of_typed_append, readLong, named]
  cases progress.settle with
  | error error => exact .error _
  | ok settings =>
    have accepts := accept_alike (Eq.refl (settings.map Setting.withoutToken)) (.token token other)
    dsimp only
    generalize accept settings .token (Utf8.encode token) = more?,
      accept settings .token (Utf8.encode other) = more'? at accepts ⊢
    cases accepts with
    | error error => exact .error _
    | ok same => exact .ok ⟨same, rfl⟩

/-- As long as the options have not ended, one token is read like another. -/
theorem readAll_token_alike {before : List Octets} (open' : [hyphen, hyphen] ∉ before)
    (progress : Progress) (token other : Text) (after : List Octets) :
    Agree AlikeSettings (readAll progress (before ++ tokenArgument token :: after))
      (readAll progress (before ++ tokenArgument other :: after)) := by
  induction before generalizing progress with
  | nil =>
    have word (text : Text) : Word.of (tokenArgument text) ≠ .escape := by
      simp [tokenArgument, Opt.of_typed_append]
    have one := readOne_token_alike progress token other
    rw [List.nil_append, List.nil_append, readAll_cons after (word token),
      readAll_cons after (word other)]
    generalize readOne progress (tokenArgument token) = next?,
      readOne progress (tokenArgument other) = next'? at one ⊢
    cases one with
    | error stop => exact .error stop
    | ok same => exact same.readAll after
  | cons argument before ih =>
    obtain ⟨here, there⟩ := List.ne_and_not_mem_of_not_mem_cons open'
    have word : Word.of argument ≠ .escape := by
      intro ends
      have typed := Word.render_of argument
      rw [ends] at typed
      exact here typed
    rw [List.cons_append, List.cons_append, readAll_cons _ word, readAll_cons _ word]
    cases readOne progress argument with
    | error stop => exact .error stop
    | ok next => exact ih there next

/-! ## Two tokens in the environment -/

/-- Environments whose variables differ only in that both have a token. -/
def AlikeEnvironment (first second : Environment) : Prop :=
  ∀ option, Option.Rel (AlikeValue option) (option.fallback? first) (option.fallback? second)

theorem AlikeEnvironment.refl (environment : Environment) :
    AlikeEnvironment environment environment := by
  intro option
  cases option.fallback? environment with
  | none => exact .none
  | some value => exact .some (.same option value)

/-- The environment with the variable of the token set. -/
def withToken (environment : Environment) (token : Text) : Environment :=
  { environment with token := some (Utf8.encode token) }

theorem alikeEnvironment_withToken (environment : Environment) (token other : Text) :
    AlikeEnvironment (withToken environment token) (withToken environment other) := by
  intro option
  cases option with
  | token => exact .some (.token token other)
  | buildRef | imageTag | jobUrl | timeout => exact AlikeEnvironment.refl environment _

theorem addVariables_alike {environment environment' : Environment}
    (environments : AlikeEnvironment environment environment') (options : List ValueOption)
    {first second : List Setting} (alike : AlikeSettings first second) :
    Agree AlikeSettings (addVariables environment first options)
      (addVariables environment' second options) := by
  induction options generalizing first second with
  | nil => exact .ok alike
  | cons option others ih =>
    have values := environments option
    rw [addVariables, addVariables, alike.hasOption]
    split
    · exact ih alike
    · generalize option.fallback? environment = value?, option.fallback? environment' = value'?
        at values ⊢
      cases values with
      | none => exact ih alike
      | @some value other values =>
        have read := Setting.ofOctets_alike values
        dsimp only
        generalize Setting.ofOctets option value = setting?, Setting.ofOctets option other = setting'?
          at read ⊢
        cases read with
        | error error => exact .error error
        | ok same => exact ih (alike.snoc same)

/-! ## Arguments -/

/-- The arguments with the token left out. -/
def Arguments.withoutToken (arguments : Arguments) : Arguments := { arguments with token := [] }

/-- Arguments that differ in the token at most. -/
def AlikeArguments (first second : Arguments) : Prop := first.withoutToken = second.withoutToken

theorem find?_token_alike {first second : List Setting} (alike : AlikeSettings first second) :
    (find? first fun | .token value => some value | _ => none).map (fun _ => ()) =
      (find? second fun | .token value => some value | _ => none).map (fun _ => ()) :=
  alike.map_find? _ (by rintro ⟨⟩ <;> rfl)

theorem find?_buildRef_alike {first second : List Setting} (alike : AlikeSettings first second) :
    (find? first fun | .buildRef value => some value | _ => none) =
      find? second fun | .buildRef value => some value | _ => none :=
  alike.find? (by rintro ⟨⟩ <;> rfl)

theorem complete_alike {first second : List Setting} (alike : AlikeSettings first second) :
    Agree AlikeArguments (complete first) (complete second) := by
  have token := find?_token_alike alike
  have buildRef := find?_buildRef_alike alike
  simp only [complete, alike.options, alike.hasOption]
  generalize (find? first fun | .token value => some value | _ => none) = token?,
    (find? second fun | .token value => some value | _ => none) = token'? at token ⊢
  generalize (find? first fun | .buildRef value => some value | _ => none) = buildRef? at buildRef ⊢
  subst buildRef
  cases token? with
  | none =>
    obtain rfl : token'? = none := by simpa using token.symm
    exact .error _
  | some value =>
    obtain ⟨value', rfl⟩ : ∃ value', token'? = some value' := by
      cases token'? with
      | none => cases token
      | some value' => exact ⟨value', rfl⟩
    cases find? second fun | .buildRef value => some value | _ => none with
    | none => exact .error _
    | some value =>
      refine .ok ?_
      rw [AlikeArguments, Arguments.withoutToken, Arguments.withoutToken, Arguments.mk.injEq]
      refine ⟨rfl, rfl, alike.find? ?_, congrArg (·.getD fallbackJobUrl) (alike.find? ?_), alike.find? ?_,
        rfl⟩ <;> (rintro ⟨⟩ <;> rfl)

/-- What is read alike is answered alike. -/
theorem parse_alike {environment environment' : Environment}
    (environments : AlikeEnvironment environment environment') {arguments arguments' : List Octets}
    (read : Agree AlikeSettings (readAll .start arguments) (readAll .start arguments')) :
    Agree AlikeArguments (parse environment arguments) (parse environment' arguments') := by
  unfold parse
  generalize readAll .start arguments = read?, readAll .start arguments' = read'? at read ⊢
  cases read with
  | error stop => exact .error stop
  | @ok first second same =>
    have all := addVariables_alike environments ValueOption.withVariable same
    dsimp only
    generalize addVariables environment first ValueOption.withVariable = all?,
      addVariables environment' second ValueOption.withVariable = all'? at all ⊢
    cases all with
    | error error => exact .error _
    | ok same => exact (complete_alike same).mapError _

/-- Nothing but the token of accepted arguments shows which token was given. With one token or another
in the environment, and with one or another in an argument before the options end, a command line leads
to arguments that differ in the token at most, or to the same stop, shown by the same message. -/
theorem parse_hidesToken (environment : Environment) (token other : Text) :
    (∀ arguments, Agree AlikeArguments (parse (withToken environment token) arguments)
        (parse (withToken environment other) arguments)) ∧
      (∀ stop : Stop, stop.styled (withToken environment token) =
        stop.styled (withToken environment other)) ∧
      ∀ before after, [hyphen, hyphen] ∉ before →
        Agree AlikeArguments (parse environment (before ++ tokenArgument token :: after))
          (parse environment (before ++ tokenArgument other :: after)) := by
  refine ⟨?_, ?_, ?_⟩
  · intro arguments
    have start : AlikeProgress .start .start := ⟨rfl, rfl⟩
    exact parse_alike (alikeEnvironment_withToken environment token other) (start.readAll arguments)
  · rintro ⟨⟩ <;> rfl
  · intro before after open'
    exact parse_alike (.refl environment) (readAll_token_alike open' _ token other after)

/-- A name that is almost right is answered with a hint and the options used so far, but not with the
token that was given before it. -/
theorem parse_hidesToken_unknown :
    let environment : Environment := ⟨none, none, none, none, none, none⟩
    let misspelled := Utf8.encode (Text.of "--time-out=5")
    let stop : Stop :=
      .usage (.unknown (Text.of "--time-out") (some (.value .timeout)) (.naming [.value .timeout]))
    [hyphen, hyphen] ∉ ([] : List Octets) ∧
      parse environment [tokenArgument (Text.of "s3cret"), misspelled] = .error stop ∧
      parse environment [tokenArgument (Text.of "?"), misspelled] = .error stop := by
  intro environment misspelled stop
  have parsed : parse environment [tokenArgument (Text.of "s3cret"), misspelled] = .error stop := by
    decide +kernel
  have agree := (parse_hidesToken environment (Text.of "s3cret") (Text.of "?")).2.2 []
    [misspelled] List.not_mem_nil
  rw [List.nil_append, List.nil_append, parsed] at agree
  exact ⟨List.not_mem_nil, parsed, agree.eq_error⟩

end ReleaseTrigger.CommandLine
