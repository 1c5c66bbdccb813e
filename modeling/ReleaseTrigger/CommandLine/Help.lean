import ReleaseTrigger.CommandLine.Arguments
import ReleaseTrigger.Text.Wrapped

/-! # Help

Help lists every option with a description, which names the variable that the option falls back on
and the default, and is wrapped in a column of its own.
-/

namespace ReleaseTrigger.CommandLine

def version : Text := Text.of "0.1.0"

def versionMessage : Styled := Styled.plain (programName ++ ' ' :: version ++ ['\n'])

def purpose : Text := Text.of "Trigger the parameterized Jenkins release job for a git ref"

/-- The column in which descriptions start. -/
def descriptionColumn : Nat := 27

def helpWidth : Nat := 100

def Opt.description : Opt → Text
  | .value .token => Text.of "Jenkins job token, forwarded as the `token` parameter"
  | .value .buildRef => Text.of "Git ref to build (e.g. refs/heads/master, refs/tags/v1.0.0)"
  | .value .imageTag =>
    Text.of "Image tag to publish. Derived from the ref when omitted (master -> latest)"
  | .value .jobUrl => Text.of "Job `buildWithParameters` endpoint"
  | .value .timeout => Text.of "Request timeout in seconds (no timeout by default)"
  | .flag .verbose => Text.of "Enable verbose output"
  | .flag .help => Text.of "Print help"
  | .flag .version => Text.of "Print version"

/-- A note on a variable with its value. -/
def variableNote (name : String) (value : Option Octets) : Text :=
  Text.of " [env: " ++ Text.of name ++ '=' :: Utf8.decodeLossy (value.getD []) ++ [']']

/-- What is added to a description: the variable and the default. The value of the variable that
holds the token is not shown. -/
def Opt.notes (environment : Environment) : Opt → Text
  | .value .token => Text.of " [env: JENKINS_TOKEN]"
  | .value .jobUrl =>
    variableNote "JENKINS_JOB_URL" environment.jobUrl ++ Text.of " [default: " ++ defaultJobUrl ++
      [']']
  | .value .timeout => variableNote "JENKINS_TRIGGER_TIMEOUT" environment.timeout
  | _ => []

/-- How an option is typed, with its letter if it has one. -/
def Opt.column (option : Opt) : Styled :=
  (match option with
    | .flag switch =>
      Styled.plain (Text.of "  ") ++ Styled.one Style.literal ['-', switch.letter] ++
        Styled.plain (Text.of ", ")
    | .value _ => Styled.plain (Text.of "      ")) ++ option.styled

def Opt.line (environment : Environment) (option : Opt) : Styled :=
  let column := option.column
  let padding := List.replicate (descriptionColumn - column.text.length) ' '
  let description := option.description ++ option.notes environment
  column ++ Styled.plain (padding ++
    Wrapped.indent descriptionColumn
      (Wrapped.wrap (helpWidth - descriptionColumn) description))

def helpMessage (environment : Environment) : Styled :=
  Styled.plain (purpose ++ Text.of "\n\n") ++ Usage.general.styled ++ Styled.plain (Text.of "\n\n") ++
    Styled.one Style.header (Text.of "Options:") ++ Styled.plain (Text.of "\n") ++
    Opt.all.flatMap fun option => option.line environment ++ Styled.plain (Text.of "\n")

def Stop.styled (environment : Environment) : Stop → Styled
  | usage error => error.styled
  | help => helpMessage environment
  | version => versionMessage

def Stop.exitCode : Stop → Nat
  | usage _ => 2
  | help | version => 0

end ReleaseTrigger.CommandLine
