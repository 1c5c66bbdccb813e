import ReleaseTrigger.Settings

/-! # Options

The options of the program: five that take a value, three of which fall back on a variable of the
environment, and three that do not.
-/

namespace ReleaseTrigger

/-- The variables of the environment that the program looks at. -/
structure Environment where
  token : Option Octets
  jobUrl : Option Octets
  timeout : Option Octets
  logFilter : Option Octets
  noColour : Option Octets
  forceColour : Option Octets
deriving DecidableEq, Repr

/-- The environment of a list of variables; of two of one name the first counts. -/
def Environment.ofList (assignments : List (Text × Octets)) : Environment :=
  let get (name : String) : Option Octets := assignments.lookup name.toList
  { token := get "JENKINS_TOKEN"
    jobUrl := get "JENKINS_JOB_URL"
    timeout := get "JENKINS_TRIGGER_TIMEOUT"
    logFilter := get "RUST_LOG"
    noColour := get "NO_COLOR"
    forceColour := get "CLICOLOR_FORCE" }

namespace CommandLine

/-- An option that takes a value. -/
inductive ValueOption where
  | token
  | buildRef
  | imageTag
  | jobUrl
  | timeout
deriving DecidableEq, Repr

/-- An option that takes none. -/
inductive Flag where
  | verbose
  | help
  | version
deriving DecidableEq, Repr

inductive Opt where
  | value (option : ValueOption)
  | flag (flag : Flag)
deriving DecidableEq, Repr

namespace ValueOption

/-- The long name of an option, without its hyphens. -/
def long : ValueOption → Text
  | token => Text.of "token"
  | buildRef => Text.of "build-ref"
  | imageTag => Text.of "image-tag"
  | jobUrl => Text.of "job-url"
  | timeout => Text.of "timeout"

def placeholder : ValueOption → Text
  | token => Text.of "<TOKEN>"
  | buildRef => Text.of "<REF>"
  | imageTag => Text.of "<TAG>"
  | jobUrl => Text.of "<URL>"
  | timeout => Text.of "<SECONDS>"

/-- All options that take a value, in the order in which help lists them. -/
def all : List ValueOption := [token, buildRef, imageTag, jobUrl, timeout]

def required : List ValueOption := [token, buildRef]

/-- The options that fall back on the environment, in the order in which that is done. -/
def withVariable : List ValueOption := [token, jobUrl, timeout]

/-- The value of the variable that an option falls back on. -/
def fallback? (environment : Environment) : ValueOption → Option Octets
  | token => environment.token
  | jobUrl => environment.jobUrl
  | timeout => environment.timeout
  | buildRef | imageTag => none

end ValueOption

namespace Flag

def long : Flag → Text
  | verbose => Text.of "verbose"
  | help => Text.of "help"
  | version => Text.of "version"

def letter : Flag → Char
  | verbose => 'v'
  | help => 'h'
  | version => 'V'

def all : List Flag := [verbose, help, version]

def ofLetter? (c : Char) : Option Flag := all.find? (·.letter == c)

end Flag

namespace Opt

def long : Opt → Text
  | .value option => option.long
  | .flag switch => switch.long

def all : List Opt := ValueOption.all.map .value ++ Flag.all.map .flag

def ofLong? (name : Text) : Option Opt := all.find? (·.long == name)

/-- The option as it is typed, with a placeholder for its value. -/
def shown : Opt → Text
  | .value option => Text.of "--" ++ option.long ++ ' ' :: option.placeholder
  | .flag switch => Text.of "--" ++ switch.long

end Opt

end CommandLine

end ReleaseTrigger
