import ReleaseTrigger.CommandLine.Help
import ReleaseTrigger.Log.Filter
import ReleaseTrigger.Trigger

/-! # A whole run

A run reads the command line, resolves the parameters, triggers the build and turns what came of it
into an exit code: 0 if the build was queued, or help or the version was shown, 2 if the command line
was refused, and 1 otherwise. A run that waits for a reply without end has none.
-/

namespace ReleaseTrigger

/-! ## After the command line -/

def CommandLine.Arguments.settings (arguments : CommandLine.Arguments) : Settings :=
  ⟨arguments.jobUrl, arguments.timeout⟩

def CommandLine.Arguments.resolve (arguments : CommandLine.Arguments) :
    Except UnresolvableReference Parameters :=
  Parameters.resolve arguments.token arguments.buildRef arguments.imageTag

/-- Why a run fails although its command line was accepted. -/
inductive RunError where
  | parameters (error : UnresolvableReference)
  | request (failure : Http.Failure)
deriving DecidableEq, Repr

/-- What was being done, and then the causes from the outermost on. -/
def RunError.chain : RunError → List Text
  | parameters error => [Text.of "Failed to resolve build parameters", error.message]
  | request failure =>
    Text.of "Failed to trigger Jenkins job" :: requestErrorMessage failure :: failure.message ::
      failure.causes

/-- The exit codes of a run whose command line was accepted. -/
inductive ExitCode where
  | success
  | failure
deriving DecidableEq, Repr

def ExitCode.number : ExitCode → Nat
  | success => 0
  | failure => 1

/-- What the execution of arguments leads to: what was reported, the requests that the endpoint
received, and the exit code, or why there is none. An execution that never ends has no result. -/
structure Execution where
  entries : List Entry
  requests : List Http.Request
  result : Option (Except RunError ExitCode)

def Parameters.entry (parameters : Parameters) : Entry :=
  .event ⟨.debug, .run, Text.of "Resolved build parameters",
    [(Text.of "build_ref", parameters.buildRef),
      (Text.of "image_tag", Quoted.encode parameters.imageTag)]⟩

/-- What is reported of an outcome at the end, with the exit code. -/
def Outcome.conclusion (outcome : Outcome) : Entry × ExitCode :=
  match outcome.result with
  | .ok done =>
    (.event ⟨.info, .run, Text.of "Jenkins job triggered",
      [(Text.of "job", Quoted.encode done.url.renderPath)]⟩, .success)
  | .error error => (.event ⟨.debug, .run, error.message, []⟩, .failure)

def execute (arguments : CommandLine.Arguments) (endpoint : Http.Endpoint) : Execution :=
  match arguments.resolve with
  | .error error => ⟨[], [], some (.error (.parameters error))⟩
  | .ok parameters =>
    let triggered := trigger arguments.settings parameters endpoint 0
    let entries := parameters.entry :: triggered.entries
    match triggered.result with
    | none => ⟨entries, triggered.requests, none⟩
    | some (.error failure) => ⟨entries, triggered.requests, some (.error (.request failure))⟩
    | some (.ok outcome) =>
      let (entry, code) := outcome.conclusion
      ⟨entries ++ [entry], triggered.requests, some (.ok code)⟩

/-! ## Reports -/

/-- A cause with its number, if it has one; further lines of it are indented. -/
def renderCause (number : Option Nat) (cause : Text) : Text :=
  let start := match number with
    | none => List.replicate 4 ' '
    | some index => Text.padLeft 5 (Text.decimal index) ++ Text.of ": "
  let margin := List.replicate start.length ' '
  start ++ cause.flatMap fun c => if c = '\n' then '\n' :: margin else [c]

/-- The report of a run that failed. Several causes are numbered. -/
def RunError.report (error : RunError) : Text :=
  match error.chain with
  | [] => []
  | top :: causes =>
    let shown := match causes with
      | [cause] => [renderCause none cause]
      | _ => causes.mapIdx fun index cause => renderCause (some index) cause
    Text.of "Error: " ++ top ++ Text.of "\n\nCaused by:\n" ++ List.intercalate ['\n'] shown ++ ['\n']

/-- How a program that does not log shows entries. -/
def Display.silent (coloursVerdict : Bool) : Display :=
  ⟨coloursVerdict, false, fun _ => false, []⟩

/-- How a program that logs everything without colours shows entries. -/
def Display.verbose (coloursVerdict : Bool) (time : Text) : Display :=
  ⟨coloursVerdict, false, (Log.defaultFilter true).admits, time⟩

/-! ## The program -/

/-- Whether a variable has a value that is not empty. -/
def isFilled (value : Option Octets) : Bool := value.any (!·.isEmpty)

/-- Whether usage errors and help are coloured: not if colours are refused, and otherwise only if they
are forced. -/
def Environment.coloursUsage (environment : Environment) : Bool :=
  !isFilled environment.noColour && isFilled environment.forceColour

/-- Whether the output of a run is coloured. The mere presence of one variable refuses colours, and
the other forces them unless it is zero. -/
def Environment.coloursRun (environment : Environment) : Bool :=
  Log.wantsColours environment.noColour.isSome
    (environment.forceColour.any (· ≠ Utf8.encode ['0'])) false

def Environment.display (environment : Environment) (verbose : Bool) (time : Text) : Display :=
  { coloursVerdict := environment.coloursRun
    coloursLog := environment.coloursRun
    admits := (Log.filterOf environment.logFilter verbose).admits
    time }

/-- What a run leaves behind: an exit code if it ends, what was written to standard output and standard
error, and the requests that the endpoint received. -/
structure Finished where
  exitCode : Option Nat
  output : Text
  errors : Text
  requests : List Http.Request
deriving DecidableEq

/-- The end of a run whose command line led to no arguments. -/
def Finished.ofStop (environment : Environment) (stop : CommandLine.Stop) : Finished :=
  let message := stop.styled environment
  let text := if environment.coloursUsage then message.coloured else message.stripped
  match stop with
  | .usage _ => ⟨some stop.exitCode, [], text, []⟩
  | .help | .version => ⟨some stop.exitCode, text, [], []⟩

def run (environment : Environment) (arguments : List Octets) (endpoint : Http.Endpoint)
    (time : Text) : Finished :=
  match CommandLine.parse environment arguments with
  | .error stop => Finished.ofStop environment stop
  | .ok accepted =>
    let execution := execute accepted endpoint
    let shown :=
      Entry.renderAll (environment.display accepted.verbose time) execution.entries
    match execution.result with
    | none => ⟨none, [], shown, execution.requests⟩
    | some (.ok code) => ⟨some code.number, [], shown, execution.requests⟩
    | some (.error error) => ⟨some 1, [], shown ++ error.report, execution.requests⟩

end ReleaseTrigger
