import Mathlib.Control.Monad.Basic
import ReleaseTrigger.Proofs.CommandLine.Occurrence

/-! # Sources of values

The value of an option is the one that an occurrence gives it, or else that of its variable. Settings
that are read from such values are complete exactly if the values denote arguments, and the arguments
are then the ones that are denoted.
-/

namespace ReleaseTrigger.CommandLine

/-! ## Values -/

/-- The value that an occurrence gives to an option. -/
def Occurrence.valueFor? (option : ValueOption) : Occurrence → Option Octets
  | spaced own value | joined own value => if own = option then some value else none
  | short | long => none

/-- The value that an option is given by occurrences. -/
def given? (occurrences : List Occurrence) (option : ValueOption) : Option Octets :=
  occurrences.findSome? (·.valueFor? option)

/-- The value of an option: the one that it is given, or else that of its variable. -/
def source? (environment : Environment) (occurrences : List Occurrence) (option : ValueOption) :
    Option Octets :=
  (given? occurrences option).or (option.fallback? environment)

/-- Whether the flag is among occurrences. -/
def isVerbose (occurrences : List Occurrence) : Bool :=
  occurrences.any (·.option == .flag .verbose)

/-- A value is parsed to a result, or there is neither. -/
def IsParsed {ε α : Type} (parse : Text → Except ε α) (value : Option Octets) (result : Option α) :
    Prop :=
  (value = none ∧ result = none) ∨ ∃ text found, value = some (Utf8.encode text) ∧
    parse text = .ok found ∧ result = some found

/-- The arguments that the values of options denote. Texts are taken as they are, and there is a
default for the job URL. -/
structure Denotes (source : ValueOption → Option Octets) (isVerbose : Bool) (accepted : Arguments) :
    Prop where
  token : source .token = some (Utf8.encode accepted.token)
  buildRef : source .buildRef = some (Utf8.encode accepted.buildRef)
  imageTag : source .imageTag = accepted.imageTag.map Utf8.encode
  jobUrl : IsParsed parseJobUrl ((source .jobUrl).or (some (Utf8.encode defaultJobUrl)))
    (some accepted.jobUrl)
  timeout : IsParsed parseSeconds (source .timeout) accepted.timeout
  verbose : accepted.verbose = isVerbose

namespace IsParsed

variable {ε α : Type} {parse : Text → Except ε α} {value : Option Octets} {result other : Option α}

theorem unique (isParsed : IsParsed parse value result) (others : IsParsed parse value other) :
    result = other := by
  obtain ⟨absent, rfl⟩ | ⟨text, found, given, parsed, rfl⟩ := isParsed
  · obtain ⟨-, rfl⟩ | ⟨text', found', given', -⟩ := others
    · rfl
    · rw [absent] at given'
      cases given'
  · obtain ⟨absent, -⟩ | ⟨text', found', given', parsed', rfl⟩ := others
    · rw [absent] at given
      cases given
    · rw [given, Option.some.injEq] at given'
      rw [Utf8.encode_injective given', parsed', Except.ok.injEq] at parsed
      rw [parsed]

/-- A default takes the place of a value that is not there. -/
theorem orDefault (isParsed : IsParsed parse value result) {text : Text} {default : α}
    (parsed : parse text = .ok default) :
    IsParsed parse (value.or (some (Utf8.encode text))) (some (result.getD default)) := by
  obtain ⟨rfl, rfl⟩ | ⟨text', found, rfl, parsed', rfl⟩ := isParsed
  · exact .inr ⟨text, default, rfl, parsed, rfl⟩
  · exact .inr ⟨text', found, rfl, parsed', rfl⟩

theorem of_some {octets : Octets} (isParsed : IsParsed parse (some octets) result) :
    ∃ text, octets = Utf8.encode text ∧ ∃ found, parse text = .ok found := by
  obtain ⟨absent, -⟩ | ⟨text, found, given, parsed, -⟩ := isParsed
  · cases absent
  · exact ⟨text, Option.some.inj given, found, parsed⟩

theorem exists_of (each : ∀ octets, value = some octets →
    ∃ text, octets = Utf8.encode text ∧ ∃ found, parse text = .ok found) :
    ∃ result, IsParsed parse value result := by
  cases value with
  | none => exact ⟨none, .inl ⟨rfl, rfl⟩⟩
  | some octets =>
    obtain ⟨text, rfl, found, parsed⟩ := each octets rfl
    exact ⟨some found, .inr ⟨text, found, rfl, parsed, rfl⟩⟩

end IsParsed

/-! ## Settings and sources -/

/-- The setting of an option among settings. -/
def lookup? (settings : List Setting) (option : ValueOption) : Option Setting :=
  settings.find? (·.option == .value option)

/-- Settings are what the values of options are read as. -/
def Agrees (settings : List Setting) (source : ValueOption → Option Octets) : Prop :=
  ∀ option, (lookup? settings option).map Except.ok = (source option).map (Setting.ofOctets option)

theorem hasOption_eq_isSome (settings : List Setting) (option : ValueOption) :
    hasOption settings (.value option) = (lookup? settings option).isSome :=
  List.isSome_find?.symm

theorem lookup?_append (settings : List Setting) (setting : Setting) (option : ValueOption) :
    lookup? (settings ++ [setting]) option =
      (lookup? settings option).or (if setting.option = .value option then some setting else none) := by
  simp [lookup?, List.find?_append, List.find?_singleton]

theorem lookup?_cons (setting : Setting) (settings : List Setting) (option : ValueOption) :
    lookup? (setting :: settings) option =
      if setting.option = .value option then some setting else lookup? settings option := by
  by_cases same : setting.option = .value option
  · simp [lookup?, same]
  · simp [lookup?, same]

theorem given?_cons (occurrence : Occurrence) (occurrences : List Occurrence) (option : ValueOption) :
    given? (occurrence :: occurrences) option =
      (occurrence.valueFor? option).or (given? occurrences option) := by
  rw [given?, given?, List.findSome?_cons]
  cases occurrence.valueFor? option <;> rfl

namespace Agrees

variable {settings : List Setting} {source : ValueOption → Option Octets} {option : ValueOption}

theorem eq_some_iff (agrees : Agrees settings source) {setting : Setting} :
    lookup? settings option = some setting ↔
      ∃ value, source option = some value ∧ Setting.ofOctets option value = .ok setting := by
  have same := agrees option
  cases found : lookup? settings option with
  | none =>
    rw [found, Option.map_none, eq_comm, Option.map_eq_none_iff] at same
    simp [same]
  | some own =>
    rw [found, Option.map_some, eq_comm, Option.map_eq_some_iff] at same
    obtain ⟨value, given, read⟩ := same
    simp only [given, Option.some.injEq, exists_eq_left', read, Except.ok.injEq]

theorem eq_none_iff (agrees : Agrees settings source) :
    lookup? settings option = none ↔ source option = none := by
  have same := agrees option
  constructor
  · intro absent
    rwa [absent, Option.map_none, eq_comm, Option.map_eq_none_iff] at same
  · intro absent
    rwa [absent, Option.map_none, Option.map_eq_none_iff] at same

end Agrees

/-- The settings of occurrences are what the occurrences give. -/
theorem agrees_of_settings {occurrences : List Occurrence} {settings : List Setting}
    (read : List.Forall₂ (fun occurrence setting => occurrence.setting = .ok setting) occurrences
      settings) : Agrees settings (given? occurrences) := by
  intro option
  induction read with
  | nil => rfl
  | @cons occurrence setting occurrences settings read _ ih =>
    rw [lookup?_cons, given?_cons, Occurrence.option_of_setting read]
    cases occurrence with
    | spaced own value | joined own value =>
      simp only [Occurrence.option, Opt.value.injEq, Occurrence.valueFor?]
      by_cases here : own = option
      · subst here
        simp only [↓reduceIte, Option.some_or, Option.map_some]
        exact congrArg some read.symm
      · simp only [here, ↓reduceIte, Option.none_or]
        exact ih
    | short | long => exact ih

theorem isVerbose_of_settings {occurrences : List Occurrence} {settings : List Setting}
    (read : List.Forall₂ (fun occurrence setting => occurrence.setting = .ok setting) occurrences
      settings) : hasOption settings (.flag .verbose) = isVerbose occurrences := by
  induction read with
  | nil => rfl
  | cons read _ ih =>
    have same := Occurrence.option_of_setting read
    simp only [hasOption, isVerbose, List.any_cons, same] at ih ⊢
    rw [ih]

/-! ## The environment -/

/-- Where options take their values from when some of them may fall back on the environment. -/
def orVariable (environment : Environment) (source : ValueOption → Option Octets)
    (options : List ValueOption) (option : ValueOption) : Option Octets :=
  (source option).or (if option ∈ options then option.fallback? environment else none)

section

variable {environment : Environment} {source : ValueOption → Option Octets} {first : ValueOption}
  {others : List ValueOption}

theorem orVariable_cons_of_none (needless : source first ≠ none ∨ first.fallback? environment = none) :
    orVariable environment source (first :: others) = orVariable environment source others := by
  funext option
  by_cases here : option = first
  · subst here
    cases given : source option with
    | some value => simp [orVariable, given]
    | none =>
      have absent := needless.resolve_left (· given)
      simp [orVariable, absent]
  · simp [orVariable, here]

theorem orVariable_cons_of_some {value : Octets} (absent : source first = none)
    (variable' : first.fallback? environment = some value) :
    orVariable environment source (first :: others) =
      orVariable environment (Function.update source first (some value)) others := by
  funext option
  by_cases here : option = first
  · subst here
    simp [orVariable, absent, variable']
  · simp [orVariable, here]

end

theorem Agrees.append {settings : List Setting} {source : ValueOption → Option Octets}
    (agrees : Agrees settings source) {option : ValueOption} {value : Octets} {setting : Setting}
    (absent : source option = none) (read : Setting.ofOctets option value = .ok setting) :
    Agrees (settings ++ [setting]) (Function.update source option (some value)) := by
  intro other
  rw [lookup?_append, Setting.option_of_ofOctets read]
  by_cases here : other = option
  · subst here
    simp [agrees.eq_none_iff.mpr absent, read]
  · simpa [here, Ne.symm here] using agrees other

/-- Options take their values from the environment unless they have one, or else one of the values
that is taken cannot be read. -/
theorem addVariables_cases (environment : Environment) (options : List ValueOption)
    {settings : List Setting} {source : ValueOption → Option Octets} (agrees : Agrees settings source) :
    (∃ all, addVariables environment settings options = .ok all ∧
      Agrees all (orVariable environment source options) ∧
        hasOption all (.flag .verbose) = hasOption settings (.flag .verbose)) ∨
    (∃ error, addVariables environment settings options = .error error) ∧
      ∃ option value error, orVariable environment source options option = some value ∧
        Setting.ofOctets option value = .error error := by
  induction options generalizing settings source with
  | nil =>
    refine .inl ⟨settings, rfl, ?_, rfl⟩
    intro option
    simpa [orVariable] using agrees option
  | cons first others ih =>
    cases found : lookup? settings first with
    | some setting =>
      have given : source first ≠ none := by
        intro absent
        rw [agrees.eq_none_iff.mpr absent] at found
        cases found
      have same : addVariables environment settings (first :: others) =
          addVariables environment settings others := by
        simp [addVariables, hasOption_eq_isSome, found]
      rw [same, orVariable_cons_of_none (.inl given)]
      exact ih agrees
    | none =>
      have absent := agrees.eq_none_iff.mp found
      cases variable' : first.fallback? environment with
      | none =>
        have same : addVariables environment settings (first :: others) =
            addVariables environment settings others := by
          simp [addVariables, hasOption_eq_isSome, found, variable']
        rw [same, orVariable_cons_of_none (.inr variable')]
        exact ih agrees
      | some value =>
        cases read : Setting.ofOctets first value with
        | error error =>
          have fails : addVariables environment settings (first :: others) = .error error := by
            simp [addVariables, hasOption_eq_isSome, found, variable', read]
          refine .inr ⟨⟨error, fails⟩, first, value, error, ?_, read⟩
          simp [orVariable, absent, variable']
        | ok setting =>
          have adds : addVariables environment settings (first :: others) =
              addVariables environment (settings ++ [setting]) others := by
            simp [addVariables, hasOption_eq_isSome, found, variable', read]
          have flag : hasOption (settings ++ [setting]) (.flag .verbose) =
              hasOption settings (.flag .verbose) := by
            simp [hasOption, Setting.option_of_ofOctets read]
          rw [adds, orVariable_cons_of_some absent variable', ← flag]
          exact ih (agrees.append absent read)

/-- The options that fall back on the environment are all that have a variable. -/
theorem orVariable_withVariable (environment : Environment) (occurrences : List Occurrence) :
    orVariable environment (given? occurrences) ValueOption.withVariable =
      source? environment occurrences := by
  funext option
  cases option <;> rfl

/-! ## Completion -/

/-- The first value that is read from settings is read from the setting of its option. -/
theorem find?_eq_bind {α : Type} {value? : Setting → Option α} {option : ValueOption}
    (reads : ∀ setting : Setting, (value? setting).isSome = (setting.option == .value option))
    (settings : List Setting) : find? settings value? = (lookup? settings option).bind value? := by
  induction settings with
  | nil => rfl
  | cons setting settings ih =>
    rw [find?] at ih ⊢
    rw [List.findSome?_cons, lookup?_cons]
    have isRead := reads setting
    by_cases same : setting.option = .value option
    · rw [same, beq_self_eq_true, Option.isSome_iff_exists] at isRead
      obtain ⟨value, read⟩ := isRead
      simp only [same, read, ↓reduceIte, Option.bind_some]
    · rw [beq_false_of_ne same, Option.isSome_eq_false_iff, Option.isNone_iff_eq_none] at isRead
      simp only [same, isRead, ↓reduceIte, ih]

/-- The value of an option that takes any text. -/
private theorem find?_text {settings : List Setting} {source : ValueOption → Option Octets}
    (agrees : Agrees settings source) {option : ValueOption} {make : Text → Setting}
    {value? : Setting → Option Text}
    (made : ∀ text setting, Setting.ofText option text = .ok setting → setting = make text)
    (read : ∀ text, value? (make text) = some text)
    (reads : ∀ setting : Setting, (value? setting).isSome = (setting.option == .value option)) :
    (find? settings value?).map Utf8.encode = source option := by
  rw [find?_eq_bind reads]
  cases found : lookup? settings option with
  | none => rw [agrees.eq_none_iff.mp found, Option.bind_none, Option.map_none]
  | some setting =>
    obtain ⟨value, given, valid⟩ := agrees.eq_some_iff.mp found
    obtain ⟨text, rfl, formed⟩ := Setting.ofOctets_eq_ok_iff.mp valid
    rw [made text setting formed, given, Option.bind_some, read, Option.map_some]

/-- The value of an option whose text is parsed. -/
private theorem find?_parsed {α ε : Type} {settings : List Setting}
    {source : ValueOption → Option Octets} (agrees : Agrees settings source) {option : ValueOption}
    {parse : Text → Except ε α} {value? : Setting → Option α}
    (made : ∀ text setting, Setting.ofText option text = .ok setting →
      ∃ found, parse text = .ok found ∧ value? setting = some found)
    (reads : ∀ setting : Setting, (value? setting).isSome = (setting.option == .value option)) :
    IsParsed parse (source option) (find? settings value?) := by
  rw [find?_eq_bind reads]
  cases found : lookup? settings option with
  | none => exact .inl ⟨agrees.eq_none_iff.mp found, rfl⟩
  | some setting =>
    obtain ⟨value, given, valid⟩ := agrees.eq_some_iff.mp found
    obtain ⟨text, rfl, formed⟩ := Setting.ofOctets_eq_ok_iff.mp valid
    obtain ⟨result, parsed, read⟩ := made text setting formed
    exact .inr ⟨text, result, given, parsed, read⟩

section

variable {settings : List Setting} {source : ValueOption → Option Octets}

theorem find?_token (agrees : Agrees settings source) :
    (find? settings fun | .token value => some value | _ => none).map Utf8.encode =
      source .token := by
  apply @find?_text _ _ agrees .token .token
  · rintro text setting ⟨⟩
    rfl
  · exact fun _ => rfl
  · rintro (_ | _ | _ | _ | _ | _) <;> rfl

theorem find?_buildRef (agrees : Agrees settings source) :
    (find? settings fun | .buildRef value => some value | _ => none).map Utf8.encode =
      source .buildRef := by
  apply @find?_text _ _ agrees .buildRef .buildRef
  · rintro text setting ⟨⟩
    rfl
  · exact fun _ => rfl
  · rintro (_ | _ | _ | _ | _ | _) <;> rfl

theorem find?_imageTag (agrees : Agrees settings source) :
    (find? settings fun | .imageTag value => some value | _ => none).map Utf8.encode =
      source .imageTag := by
  apply @find?_text _ _ agrees .imageTag .imageTag
  · rintro text setting ⟨⟩
    rfl
  · exact fun _ => rfl
  · rintro (_ | _ | _ | _ | _ | _) <;> rfl

theorem find?_jobUrl (agrees : Agrees settings source) :
    IsParsed parseJobUrl (source .jobUrl)
      (find? settings fun | .jobUrl url => some url | _ => none) := by
  apply find?_parsed agrees
  · intro text setting read
    rw [Setting.ofText] at read
    split at read
    · rename_i url parsed
      cases read
      exact ⟨url, parsed, rfl⟩
    · cases read
  · rintro (_ | _ | _ | _ | _ | _) <;> rfl

theorem find?_timeout (agrees : Agrees settings source) :
    IsParsed parseSeconds (source .timeout)
      (find? settings fun | .timeout seconds => some seconds | _ => none) := by
  apply find?_parsed agrees
  · intro text setting read
    rw [Setting.ofText] at read
    split at read
    · rename_i seconds parsed
      cases read
      exact ⟨seconds, parsed, rfl⟩
    · cases read
  · rintro (_ | _ | _ | _ | _ | _) <;> rfl

/-- The default job URL is a URL of the web. -/
theorem parseJobUrl_default : parseJobUrl defaultJobUrl = .ok fallbackJobUrl := by
  decide +kernel

/-- Settings are complete exactly if the values that they were read from denote arguments. -/
theorem complete_eq_ok_iff (agrees : Agrees settings source) {accepted : Arguments} :
    complete settings = .ok accepted ↔
      Denotes source (hasOption settings (.flag .verbose)) accepted := by
  have token := find?_token agrees
  have buildRef := find?_buildRef agrees
  have imageTag := find?_imageTag agrees
  have jobUrl := (find?_jobUrl agrees).orDefault parseJobUrl_default
  have timeout := find?_timeout agrees
  simp only [complete]
  generalize (find? settings fun | .token value => some value | _ => none) = token? at token ⊢
  generalize (find? settings fun | .buildRef value => some value | _ => none) = buildRef? at buildRef ⊢
  constructor
  · intro completed
    split at completed
    · cases completed
      exact ⟨token.symm, buildRef.symm, imageTag.symm, jobUrl, timeout, rfl⟩
    · cases completed
  · intro denotes
    have injective := Option.map_injective Utf8.encode_injective
    obtain rfl : token? = some accepted.token := injective (token.trans denotes.token)
    obtain rfl : buildRef? = some accepted.buildRef := injective (buildRef.trans denotes.buildRef)
    have tag := injective (imageTag.trans denotes.imageTag)
    have url := Option.some.inj (jobUrl.unique denotes.jobUrl)
    have seconds := timeout.unique denotes.timeout
    have verbose := denotes.verbose
    cases accepted
    subst tag url seconds verbose
    rfl

end

end ReleaseTrigger.CommandLine
