import Mathlib.Data.List.Nodup
import ReleaseTrigger.Proofs.CommandLine.Source

/-! # The grammar of the command line

A command line is accepted exactly if it spells occurrences of different options, among them or in the
environment what is required, with values that have the form their options ask for. What is accepted
then depends on nothing but the values: not on the order of the occurrences, nor on their spelling.
-/

namespace ReleaseTrigger.CommandLine

/-! ## The grammar -/

/-- Values are text, and one in an argument of its own does not look like an option. -/
def Occurrence.WellFormed : Occurrence → Prop
  | spaced _ value => IsPlain value ∧ ∃ text, value = Utf8.encode text
  | joined _ value => ∃ text, value = Utf8.encode text
  | short | long => True

/-- Arguments spell occurrences of different options. Two hyphens may stand at their end. -/
structure Spells (arguments : List Octets) (occurrences : List Occurrence) : Prop where
  typed : ∃ isEnded, arguments = commandLine occurrences isEnded
  wellFormed : ∀ occurrence ∈ occurrences, occurrence.WellFormed
  distinct : (occurrences.map Occurrence.option).Nodup

/-- A text has the form that an option asks for. -/
def ValueOption.Permits : ValueOption → Text → Prop
  | token, _ | buildRef, _ | imageTag, _ => True
  | jobUrl, text => ∃ url, parseJobUrl text = .ok url
  | timeout, text => ∃ seconds, parseSeconds text = .ok seconds

/-- Options have the values that are required, and every value has the form that is asked for. -/
structure Suffices (source : ValueOption → Option Octets) : Prop where
  buildRef : source .buildRef ≠ none
  token : source .token ≠ none
  permitted : ∀ option value, source option = some value →
    ∃ text, value = Utf8.encode text ∧ option.Permits text

theorem Occurrence.WellFormed.isApart {occurrence : Occurrence} (formed : occurrence.WellFormed) :
    occurrence.IsApart := by
  cases occurrence with
  | spaced => exact formed.1
  | joined | short | long => trivial

theorem Setting.exists_ofText_iff {option : ValueOption} {text : Text} :
    (∃ setting, Setting.ofText option text = .ok setting) ↔ option.Permits text := by
  cases option with
  | token | buildRef | imageTag => exact ⟨fun _ => trivial, fun _ => ⟨_, rfl⟩⟩
  | jobUrl =>
    rw [ValueOption.Permits, Setting.ofText]
    cases parseJobUrl text <;> simp
  | timeout =>
    rw [ValueOption.Permits, Setting.ofText]
    cases parseSeconds text <;> simp

theorem Setting.exists_ofOctets_iff {option : ValueOption} {value : Octets} :
    (∃ setting, Setting.ofOctets option value = .ok setting) ↔
      ∃ text, value = Utf8.encode text ∧ option.Permits text := by
  simp only [Setting.ofOctets_eq_ok_iff, ← Setting.exists_ofText_iff]
  constructor
  · rintro ⟨setting, text, same, read⟩
    exact ⟨text, same, setting, read⟩
  · rintro ⟨text, same, setting, read⟩
    exact ⟨setting, text, same, read⟩

/-- Values denote arguments exactly if they suffice. -/
theorem exists_denotes_iff {source : ValueOption → Option Octets} {isVerbose : Bool} :
    (∃ accepted, Denotes source isVerbose accepted) ↔ Suffices source := by
  constructor
  · rintro ⟨accepted, denotes⟩
    refine ⟨?_, ?_, ?_⟩
    · rw [denotes.buildRef]
      nofun
    · rw [denotes.token]
      nofun
    · intro option value given
      cases option with
      | token =>
        rw [denotes.token, Option.some.injEq] at given
        exact ⟨accepted.token, given.symm, trivial⟩
      | buildRef =>
        rw [denotes.buildRef, Option.some.injEq] at given
        exact ⟨accepted.buildRef, given.symm, trivial⟩
      | imageTag =>
        rw [denotes.imageTag, Option.map_eq_some_iff] at given
        obtain ⟨tag, -, same⟩ := given
        exact ⟨tag, same.symm, trivial⟩
      | jobUrl =>
        have isParsed := denotes.jobUrl
        rw [given, Option.some_or] at isParsed
        exact isParsed.of_some
      | timeout =>
        have isParsed := denotes.timeout
        rw [given] at isParsed
        exact isParsed.of_some
  · rintro ⟨buildRef, token, permitted⟩
    obtain ⟨_, token⟩ := Option.ne_none_iff_exists'.mp token
    obtain ⟨tokenText, rfl, -⟩ := permitted .token _ token
    obtain ⟨_, buildRef⟩ := Option.ne_none_iff_exists'.mp buildRef
    obtain ⟨refText, rfl, -⟩ := permitted .buildRef _ buildRef
    have imageTag : ∃ tag : Option Text, source .imageTag = tag.map Utf8.encode := by
      cases given : source .imageTag with
      | none => exact ⟨none, rfl⟩
      | some value =>
        obtain ⟨text, rfl, -⟩ := permitted .imageTag value given
        exact ⟨some text, rfl⟩
    obtain ⟨tag, imageTag⟩ := imageTag
    obtain ⟨url, jobUrl⟩ := IsParsed.exists_of (permitted .jobUrl)
    obtain ⟨limit, timeout⟩ := IsParsed.exists_of (permitted .timeout)
    exact ⟨⟨tokenText, refText, tag, url.getD fallbackJobUrl, limit, isVerbose⟩, token, buildRef,
      imageTag, jobUrl.orDefault parseJobUrl_default, timeout, rfl⟩

/-- What an occurrence says, however it is spelled. -/
def Occurrence.meaning : Occurrence → Opt × Option Octets
  | spaced option value | joined option value => (.value option, some value)
  | short | long => (.flag .verbose, none)

theorem Occurrence.meaning_fst (occurrence : Occurrence) :
    occurrence.meaning.1 = occurrence.option := by
  cases occurrence <;> rfl

theorem Occurrence.valueFor?_eq_some_iff {occurrence : Occurrence} {option : ValueOption}
    {value : Octets} :
    occurrence.valueFor? option = some value ↔ occurrence.meaning = (.value option, some value) := by
  cases occurrence <;> simp [valueFor?, meaning]

/-- Among different options each has the value of its one occurrence. -/
theorem given?_eq_some_iff {occurrences : List Occurrence}
    (distinct : (occurrences.map Occurrence.option).Nodup) {option : ValueOption} {value : Octets} :
    given? occurrences option = some value ↔
      (.value option, some value) ∈ occurrences.map Occurrence.meaning := by
  rw [List.mem_map]
  constructor
  · intro found
    obtain ⟨occurrence, member, given⟩ := List.exists_of_findSome?_eq_some found
    exact ⟨occurrence, member, Occurrence.valueFor?_eq_some_iff.mp given⟩
  · rintro ⟨occurrence, member, meant⟩
    cases found : given? occurrences option with
    | none =>
      have silent := List.findSome?_eq_none_iff.mp found occurrence member
      rw [Occurrence.valueFor?_eq_some_iff.mpr meant] at silent
      cases silent
    | some first =>
      obtain ⟨other, member', given⟩ := List.exists_of_findSome?_eq_some found
      have meant' := Occurrence.valueFor?_eq_some_iff.mp given
      have same : other = occurrence := by
        apply List.inj_on_of_nodup_map distinct member' member
        rw [← Occurrence.meaning_fst, ← Occurrence.meaning_fst, meant, meant']
      subst same
      rw [meant'] at meant
      cases meant
      rfl

theorem isVerbose_eq_true_iff {occurrences : List Occurrence} :
    isVerbose occurrences = true ↔
      (.flag .verbose, none) ∈ occurrences.map Occurrence.meaning := by
  simp only [isVerbose, List.any_eq_true, List.mem_map]
  refine exists_congr fun occurrence => and_congr_right fun _ => ?_
  cases occurrence <;> simp [Occurrence.option, Occurrence.meaning]

/-- Occurrences that say the same give the same values, in whatever order. -/
theorem given?_congr {occurrences others : List Occurrence}
    (distinct : (occurrences.map Occurrence.option).Nodup)
    (distinct' : (others.map Occurrence.option).Nodup)
    (same : (others.map Occurrence.meaning).Perm (occurrences.map Occurrence.meaning)) :
    given? others = given? occurrences := by
  funext option
  apply Option.ext
  intro value
  rw [given?_eq_some_iff distinct, given?_eq_some_iff distinct', same.mem_iff]

theorem isVerbose_congr {occurrences others : List Occurrence}
    (same : (others.map Occurrence.meaning).Perm (occurrences.map Occurrence.meaning)) :
    isVerbose others = isVerbose occurrences := by
  rw [Bool.eq_iff_iff, isVerbose_eq_true_iff, isVerbose_eq_true_iff, same.mem_iff]

/-! ## Reading -/

/-- Every occurrence has a setting if its option is permitted its value. -/
private theorem exists_settings {occurrences : List Occurrence}
    (each : ∀ occurrence ∈ occurrences, ∃ setting, occurrence.setting = .ok setting) :
    ∃ settings, List.Forall₂ (fun occurrence setting => occurrence.setting = .ok setting) occurrences
      settings := by
  induction occurrences with
  | nil => exact ⟨[], .nil⟩
  | cons occurrence others ih =>
    obtain ⟨⟨setting, read⟩, rest⟩ := List.forall_mem_cons.mp each
    obtain ⟨settings, all⟩ := ih rest
    exact ⟨setting :: settings, .cons read all⟩

/-- A command line of occurrences is accepted exactly if their options are different, and then it is
what the values of the options denote. -/
theorem parse_commandLine_eq_ok_iff {environment : Environment} {occurrences : List Occurrence}
    (apart : ∀ occurrence ∈ occurrences, occurrence.IsApart) {isEnded : Bool} {accepted : Arguments} :
    parse environment (commandLine occurrences isEnded) = .ok accepted ↔
      (occurrences.map Occurrence.option).Nodup ∧
        Denotes (source? environment occurrences) (isVerbose occurrences) accepted := by
  constructor
  · intro parsed
    rw [parse] at parsed
    cases read : readAll .start (commandLine occurrences isEnded) with
    | error stop =>
      rw [read] at parsed
      cases parsed
    | ok settings =>
      obtain ⟨all, distinct⟩ := (readAll_start_commandLine apart).mp read
      refine ⟨distinct, ?_⟩
      simp only [read] at parsed
      obtain ⟨whole, added, agrees, flag⟩ | ⟨⟨error, failed⟩, -⟩ :=
        addVariables_cases environment ValueOption.withVariable (agrees_of_settings all)
      · rw [added] at parsed
        have completed := mapError_eq_ok_iff.mp parsed
        rw [complete_eq_ok_iff agrees, orVariable_withVariable, flag,
          isVerbose_of_settings all] at completed
        exact completed
      · rw [failed] at parsed
        cases parsed
  · rintro ⟨distinct, denotes⟩
    have permitted := (exists_denotes_iff.mp ⟨accepted, denotes⟩).permitted
    have readable {option : ValueOption} {value : Octets}
        (given : source? environment occurrences option = some value) :
        ∃ setting, Setting.ofOctets option value = .ok setting :=
      Setting.exists_ofOctets_iff.mpr (permitted option value given)
    have each : ∀ occurrence ∈ occurrences, ∃ setting, occurrence.setting = .ok setting := by
      intro occurrence member
      cases occurrence with
      | short | long => exact ⟨.verbose, rfl⟩
      | spaced option value | joined option value =>
        apply readable
        rw [source?, (given?_eq_some_iff distinct).mpr (List.mem_map.mpr ⟨_, member, rfl⟩)]
        rfl
    obtain ⟨settings, all⟩ := exists_settings each
    have read : readAll .start (commandLine occurrences isEnded) = .ok settings :=
      (readAll_start_commandLine apart).mpr ⟨all, distinct⟩
    obtain ⟨whole, added, agrees, flag⟩ | ⟨-, option, value, error, given, failed⟩ :=
      addVariables_cases environment ValueOption.withVariable (agrees_of_settings all)
    · have completed : complete whole = .ok accepted := by
        rw [complete_eq_ok_iff agrees, orVariable_withVariable, flag, isVerbose_of_settings all]
        exact denotes
      simp only [parse, read, added, completed]
      rfl
    · rw [orVariable_withVariable] at given
      obtain ⟨setting, read⟩ := readable given
      rw [failed] at read
      cases read

/-- What is accepted is spelled. -/
theorem exists_spells_of_parse {environment : Environment} {arguments : List Octets}
    {accepted : Arguments} (parsed : parse environment arguments = .ok accepted) :
    ∃ occurrences, Spells arguments occurrences := by
  cases read : readAll .start arguments with
  | error stop =>
    rw [parse, read] at parsed
    cases parsed
  | ok settings =>
    obtain ⟨occurrences, isEnded, typed, apart⟩ := commandLine_of_readAll (by rintro _ _ ⟨⟩) read
    obtain rfl : arguments = commandLine occurrences isEnded := typed
    obtain ⟨distinct, denotes⟩ := (parse_commandLine_eq_ok_iff apart).mp parsed
    have permitted := (exists_denotes_iff.mp ⟨accepted, denotes⟩).permitted
    refine ⟨occurrences, ⟨isEnded, rfl⟩, ?_, distinct⟩
    have isText {option : ValueOption} {value : Octets}
        (member : (.value option, some value) ∈ occurrences.map Occurrence.meaning) :
        ∃ text, value = Utf8.encode text := by
      obtain ⟨text, same, -⟩ := permitted option value (by
        rw [source?, (given?_eq_some_iff distinct).mpr member]
        rfl)
      exact ⟨text, same⟩
    intro occurrence member
    cases occurrence with
    | spaced option value => exact ⟨apart _ member, isText (List.mem_map_of_mem member)⟩
    | joined option value => exact isText (List.mem_map_of_mem member)
    | short | long => trivial

theorem Spells.parse_eq_ok_iff {environment : Environment} {arguments : List Octets}
    {occurrences : List Occurrence} (spells : Spells arguments occurrences) {accepted : Arguments} :
    parse environment arguments = .ok accepted ↔
      Denotes (source? environment occurrences) (isVerbose occurrences) accepted := by
  obtain ⟨⟨isEnded, rfl⟩, formed, distinct⟩ := spells
  rw [parse_commandLine_eq_ok_iff fun occurrence member => (formed occurrence member).isApart]
  exact and_iff_right distinct

theorem exists_parseJobUrl_of_parse {environment : Environment} {arguments : List Octets}
    {accepted : Arguments} (accepts : parse environment arguments = .ok accepted) :
    ∃ value, parseJobUrl value = .ok accepted.jobUrl := by
  obtain ⟨occurrences, spells⟩ := exists_spells_of_parse accepts
  obtain ⟨-, absent⟩ | ⟨value, url, -, parsed, same⟩ := (spells.parse_eq_ok_iff.mp accepts).jobUrl
  · cases absent
  · exact ⟨value, Option.some.inj same ▸ parsed⟩

/-- A command line is accepted exactly if it spells occurrences whose values, together with those of the
environment, suffice. It is read as what these values denote, and so is every other command line whose
occurrences say the same, in whatever order and spelling. -/
theorem parse_grammar (environment : Environment) (arguments : List Octets) :
    ((∃ accepted, parse environment arguments = .ok accepted) ↔
      ∃ occurrences, Spells arguments occurrences ∧ Suffices (source? environment occurrences)) ∧
    ∀ occurrences, Spells arguments occurrences →
      (∀ accepted, parse environment arguments = .ok accepted ↔
        Denotes (source? environment occurrences) (isVerbose occurrences) accepted) ∧
      ∀ others reordered, Spells reordered others →
        (others.map Occurrence.meaning).Perm (occurrences.map Occurrence.meaning) →
        ∀ accepted, parse environment arguments = .ok accepted ↔
          parse environment reordered = .ok accepted := by
  refine ⟨⟨?_, ?_⟩, ?_⟩
  · rintro ⟨accepted, parsed⟩
    obtain ⟨occurrences, spells⟩ := exists_spells_of_parse parsed
    exact ⟨occurrences, spells, exists_denotes_iff.mp ⟨accepted, spells.parse_eq_ok_iff.mp parsed⟩⟩
  · rintro ⟨occurrences, spells, enough⟩
    have denotable : ∃ accepted, Denotes (source? environment occurrences) (isVerbose occurrences)
        accepted := exists_denotes_iff.mpr enough
    obtain ⟨accepted, denotes⟩ := denotable
    exact ⟨accepted, spells.parse_eq_ok_iff.mpr denotes⟩
  · intro occurrences spells
    refine ⟨fun accepted => spells.parse_eq_ok_iff, ?_⟩
    intro others reordered spells' same accepted
    have sources : source? environment others = source? environment occurrences := by
      funext option
      rw [source?, source?, given?_congr spells.distinct spells'.distinct same]
    rw [spells.parse_eq_ok_iff, spells'.parse_eq_ok_iff, sources, isVerbose_congr same]

/-- Two spellings of one command line, in different orders, the second ended by two hyphens. -/
theorem parse_grammar_reordered :
    let environment := Environment.ofList [(Text.of "JENKINS_TRIGGER_TIMEOUT", Utf8.encode ['7'])]
    let accepted : Arguments :=
      ⟨Text.of "t", Text.of "refs/heads/v1", none, fallbackJobUrl, some 7, true⟩
    parse environment
        (["--token", "t", "--build-ref=refs/heads/v1", "-v"].map (Utf8.encode ∘ Text.of)) =
        .ok accepted ∧
      parse environment
        (["--verbose", "--build-ref", "refs/heads/v1", "--token=t", "--"].map
          (Utf8.encode ∘ Text.of)) = .ok accepted := by
  intro environment accepted
  let occurrences : List Occurrence :=
    [.spaced .token (Utf8.encode (Text.of "t")),
      .joined .buildRef (Utf8.encode (Text.of "refs/heads/v1")), .short]
  let others : List Occurrence :=
    [.long, .spaced .buildRef (Utf8.encode (Text.of "refs/heads/v1")),
      .joined .token (Utf8.encode (Text.of "t"))]
  have spells : Spells (["--token", "t", "--build-ref=refs/heads/v1", "-v"].map
      (Utf8.encode ∘ Text.of)) occurrences := by
    refine ⟨⟨false, by decide⟩, ?_, by decide⟩
    simp only [occurrences, List.forall_mem_cons]
    exact ⟨⟨.inr (by decide), _, rfl⟩, ⟨_, rfl⟩, trivial, by simp⟩
  have spells' : Spells (["--verbose", "--build-ref", "refs/heads/v1", "--token=t", "--"].map
      (Utf8.encode ∘ Text.of)) others := by
    refine ⟨⟨true, by decide⟩, ?_, by decide⟩
    simp only [others, List.forall_mem_cons]
    exact ⟨trivial, ⟨.inr (by decide), _, rfl⟩, ⟨_, rfl⟩, by simp⟩
  have denotes : Denotes (source? environment occurrences) (isVerbose occurrences) accepted :=
    ⟨by decide, by decide, by decide, .inr ⟨defaultJobUrl, _, rfl, parseJobUrl_default, rfl⟩,
      .inr ⟨['7'], 7, by decide, by decide, rfl⟩, by decide⟩
  have same : (others.map Occurrence.meaning).Perm (occurrences.map Occurrence.meaning) := by
    decide
  obtain ⟨values, spellings⟩ := (parse_grammar environment _).2 occurrences spells
  have parsed := (values accepted).mpr denotes
  exact ⟨parsed, (spellings others _ spells' same accepted).mp parsed⟩

end ReleaseTrigger.CommandLine
