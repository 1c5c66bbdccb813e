import ReleaseTrigger.CommandLine.Option
import ReleaseTrigger.Text.Styled

/-! # Usage errors

Why a command line is refused, with the wording of each reason. Most messages end in a usage line,
which names either all options or those that matter to the error.
-/

namespace ReleaseTrigger.CommandLine

def programName : Text := Text.of "trigger-jenkins-job"

/-! ## Reasons -/

/-- Why a text is not a number of seconds. -/
inductive NumberError where
  | empty
  | digit
  /-- The number has more than 64 bits. -/
  | tooLarge
deriving DecidableEq, Repr

def NumberError.message : NumberError → Text
  | empty => Text.of "cannot parse integer from empty string"
  | digit => Text.of "invalid digit found in string"
  | tooLarge => Text.of "number too large to fit in target type"

inductive ValueError where
  | jobUrl (error : JobUrlError)
  | number (error : NumberError)
deriving DecidableEq, Repr

def ValueError.message : ValueError → Text
  | jobUrl error => error.message
  | number error => error.message

/-- What a usage line names. -/
inductive Usage where
  | general
  | naming (others : List Opt)
  /-- A choice between all options but two, after the flag that is not among them. -/
  | choice (flag : Option Flag)
deriving DecidableEq, Repr

/-- Why a command line is refused. -/
inductive UsageError where
  | invalidValue (option : ValueOption) (value : Text) (reason : ValueError)
  | missingValue (option : ValueOption)
  | missingOptions (missing : List ValueOption) (usage : Usage)
  | repeated (option : Opt)
  /-- An argument means nothing, though there may be an option with a similar name. -/
  | unknown (argument : Text) (similar : Option Opt) (usage : Usage)
  | unneededValue (flag : Flag) (value : Text) (usage : Usage)
  | notUtf8
deriving DecidableEq, Repr

/-! ## Wording -/

/-- An option as it is typed, its name in the style of literals. -/
def Opt.styled : Opt → Styled
  | .value option =>
    Styled.one Style.literal (Text.of "--" ++ option.long) ++
      Styled.plain (' ' :: option.placeholder)
  | .flag switch => Styled.one Style.literal (Text.of "--" ++ switch.long)

def styledRequired : List Styled := ValueOption.required.map fun option => (Opt.value option).styled

/-- The options between which the usage line lets choose. -/
def choices : List Opt := ValueOption.all.map .value ++ [.flag .verbose]

def styledChoice : Styled :=
  Styled.plain (Text.of "<") ++
    List.intercalate (Styled.plain (Text.of "|")) (choices.map fun option => Styled.plain option.shown) ++
    Styled.plain (Text.of ">")

def Usage.styled (usage : Usage) : Styled :=
  let parts : List Styled := match usage with
    | .general => Styled.plain (Text.of "[OPTIONS]") :: styledRequired
    | .naming others => styledRequired ++ others.map Opt.styled
    | .choice flag => (flag.toList.map fun flag => (Opt.flag flag).styled) ++ [styledChoice]
  Styled.one Style.header (Text.of "Usage:") ++ Styled.plain (Text.of " ") ++
    List.intercalate (Styled.plain (Text.of " ")) (Styled.one Style.literal programName :: parts)

namespace UsageError

/-- What went wrong, in one sentence. -/
def sentence : UsageError → Styled
  | invalidValue option value reason =>
    Styled.plain (Text.of "invalid value '") ++ Styled.one Style.invalid value ++
      Styled.plain (Text.of "' for '") ++ Styled.one Style.literal (Opt.value option).shown ++
      Styled.plain (Text.of "': " ++ reason.message)
  | missingValue option =>
    Styled.plain (Text.of "a value is required for '") ++
      Styled.one Style.invalid (Opt.value option).shown ++
      Styled.plain (Text.of "' but none was supplied")
  | missingOptions missing _ =>
    Styled.plain (Text.of "the following required arguments were not provided:") ++
      missing.flatMap fun option =>
        Styled.plain (Text.of "\n  ") ++ Styled.one Style.valid (Opt.value option).shown
  | repeated option =>
    Styled.plain (Text.of "the argument '") ++ Styled.one Style.invalid option.shown ++
      Styled.plain (Text.of "' cannot be used multiple times")
  | unknown argument _ _ =>
    Styled.plain (Text.of "unexpected argument '") ++ Styled.one Style.invalid argument ++
      Styled.plain (Text.of "' found")
  | unneededValue flag value _ =>
    Styled.plain (Text.of "unexpected value '") ++ Styled.one Style.invalid value ++
      Styled.plain (Text.of "' for '") ++ Styled.one Style.literal (Opt.flag flag).shown ++
      Styled.plain (Text.of "' found; no more were expected")
  | notUtf8 => Styled.plain (Text.of "invalid UTF-8 was detected in one or more arguments")

/-- The hint at an option with a similar name. -/
def hint : UsageError → Styled
  | unknown _ (some option) _ =>
    Styled.plain (Text.of "\n\n  ") ++ Styled.one Style.valid (Text.of "tip:") ++
      Styled.plain (Text.of " a similar argument exists: '") ++
      Styled.one Style.valid (Text.of "--" ++ option.long) ++ Styled.plain (Text.of "'")
  | _ => []

/-- The usage line of an error, if its message has one. -/
def usage? : UsageError → Option Usage
  | invalidValue .. | missingValue _ => none
  | missingOptions _ usage | unknown _ _ usage | unneededValue _ _ usage => some usage
  | repeated _ | notUtf8 => some .general

def styled (error : UsageError) : Styled :=
  Styled.one Style.error (Text.of "error:") ++ Styled.plain (Text.of " ") ++ error.sentence ++
    error.hint ++
    (match error.usage? with
      | none => []
      | some usage => Styled.plain (Text.of "\n\n") ++ usage.styled) ++
    Styled.plain (Text.of "\n\nFor more information, try '") ++
    Styled.one Style.literal (Text.of "--help") ++ Styled.plain (Text.of "'.\n")

end UsageError

end ReleaseTrigger.CommandLine
