import ReleaseTrigger.CommandLine.Error
import ReleaseTrigger.CommandLine.Similarity

/-! # Reading the command line

Arguments are read from left to right. What has been accepted so far is a list of settings; beside it
at most one option is open, which still waits for its value or has just been given it. An open option
is settled, and only then checked, when the next option or the end comes. Afterwards options that
are still absent fall back on the environment, and then the required ones must be there.
-/

namespace ReleaseTrigger.CommandLine

/-- What a command line asks for. -/
structure Arguments where
  token : Text
  buildRef : Text
  /-- The tag under which to publish, if it is not to be derived. -/
  imageTag : Option Text
  jobUrl : Url
  /-- The time limit in seconds. -/
  timeout : Option Nat
  verbose : Bool
deriving DecidableEq, Repr

/-- Why there are no arguments to go on with. -/
inductive Stop where
  | usage (error : UsageError)
  | help
  | version
deriving DecidableEq, Repr

/-! ## Values -/

/-- The numbers of seconds stay below this bound. -/
def secondsBound : Nat := 0x10000000000000000

/-- The number of seconds that a text denotes: decimal digits after at most one plus sign. A number
that is too large is reported before a later character that is no digit. -/
def parseSeconds (value : Text) : Except NumberError Nat :=
  match value with
  | [] => .error .empty
  | first :: rest =>
    let numeral := if first = '+' then rest else value
    if secondsBound ≤ (Text.number? 10 (numeral.takeWhile Char.isDigit)).getD 0 then
      .error .tooLarge
    else if numeral.all Char.isDigit then
      match Text.number? 10 numeral with
      | some number => .ok number
      | none => .error .digit
    else .error .digit

/-- An option with a value that has the form it asks for. -/
inductive Setting where
  | token (value : Text)
  | buildRef (value : Text)
  | imageTag (value : Text)
  | jobUrl (url : Url)
  | timeout (seconds : Nat)
  | verbose
deriving DecidableEq, Repr

def Setting.option : Setting → Opt
  | token _ => .value .token
  | buildRef _ => .value .buildRef
  | imageTag _ => .value .imageTag
  | jobUrl _ => .value .jobUrl
  | timeout _ => .value .timeout
  | verbose => .flag .verbose

def Setting.ofText (option : ValueOption) (value : Text) : Except UsageError Setting :=
  match option with
  | .token => .ok (.token value)
  | .buildRef => .ok (.buildRef value)
  | .imageTag => .ok (.imageTag value)
  | .jobUrl =>
    match parseJobUrl value with
    | .ok url => .ok (.jobUrl url)
    | .error error => .error (.invalidValue option value (.jobUrl error))
  | .timeout =>
    match parseSeconds value with
    | .ok seconds => .ok (.timeout seconds)
    | .error error => .error (.invalidValue option value (.number error))

/-- The setting of an option and the octets of its value. -/
def Setting.ofOctets (option : ValueOption) (value : Octets) : Except UsageError Setting :=
  match Utf8.decode? value with
  | none => .error .notUtf8
  | some text => Setting.ofText option text

/-! ## Progress -/

/-- An option whose value is not checked yet. -/
inductive OpenOption where
  | waiting (option : ValueOption)
  | given (option : ValueOption) (value : Octets)
deriving DecidableEq, Repr

structure Progress where
  /-- What has been accepted, in the order in which it was given. -/
  accepted : List Setting
  open? : Option OpenOption
deriving DecidableEq, Repr

def Progress.start : Progress := ⟨[], none⟩

def hasOption (settings : List Setting) (option : Opt) : Bool :=
  settings.any (·.option == option)

/-- Settings with one more option, which must not be there yet. -/
def accept (settings : List Setting) (option : ValueOption) (value : Octets) :
    Except UsageError (List Setting) :=
  if hasOption settings (.value option) then .error (.repeated (.value option))
  else (Setting.ofOctets option value).map fun setting => settings ++ [setting]

namespace Progress

/-- The settings when the open option is settled. -/
def settle (progress : Progress) : Except UsageError (List Setting) :=
  match progress.open? with
  | none => .ok progress.accepted
  | some (.waiting option) => .error (.missingValue option)
  | some (.given option value) => accept progress.accepted option value

/-- The options that count as used when the open option is settled and its faults do not matter. An
option that is given twice does not count. -/
def used (progress : Progress) : List Opt :=
  let names := progress.accepted.map (·.option)
  match progress.open? with
  | some (.given option _) =>
    if names.contains (.value option) then names.erase (.value option)
    else names ++ [.value option]
  | _ => names

end Progress

/-! ## Faults -/

/-- The optional ones among options, as a usage line names them. -/
def Usage.ofUsed (used : List Opt) : Usage :=
  .naming (used.filter fun option => !(ValueOption.required.map Opt.value).contains option)

def strayArgument (argument : Text) : UsageError := .unknown argument none .general

def unknownLong (progress : Progress) (name : Text) : UsageError :=
  let similar := Similarity.best? Opt.long name Opt.all
  let used := progress.used
  let all := match similar with
    | none => used
    | some option => if used.contains option then used else used ++ [option]
  .unknown (Text.of "--" ++ name) similar (if all.isEmpty then .general else Usage.ofUsed all)

def unneededValue (progress : Progress) (flag : Flag) (value : Text) : UsageError :=
  let usage : Usage :=
    if progress.accepted.isEmpty then .naming [.flag flag]
    else .choice (if flag = .verbose then none else some flag)
  .unneededValue flag value usage

/-! ## Arguments -/

/-- What an argument is by its first characters. -/
inductive Word where
  /-- Two hyphens alone, after which nothing is an option. -/
  | escape
  /-- A long name, with what follows its first equals sign. -/
  | long (name : Octets) (value : Option Octets)
  | letters (octets : Octets)
  | plain (octets : Octets)
deriving DecidableEq, Repr

def hyphen : UInt8 := 0x2D

def equalsSign : UInt8 := 0x3D

def Word.of : Octets → Word
  | [] => .plain []
  | [octet] => .plain [octet]
  | first :: second :: rest =>
    if first = hyphen then
      if second = hyphen then
        if rest.isEmpty then .escape
        else
          let (name, value) := Text.cut (· == equalsSign) rest
          .long name value
      else .letters (second :: rest)
    else .plain (first :: second :: rest)

/-- A flag is switched on after the open option has been settled. -/
def switchOn (progress : Progress) (flag : Flag) : Except Stop Progress :=
  match progress.settle with
  | .error error => .error (.usage error)
  | .ok settings =>
    match flag with
    | .help => .error .help
    | .version => .error .version
    | .verbose =>
      if hasOption settings (.flag .verbose) then
        .error (.usage (.repeated (.flag .verbose)))
      else .ok ⟨settings ++ [.verbose], none⟩

/-- Letters are flags one after the other. -/
def readLetters (progress : Progress) : List Utf8.Unit → Except Stop Progress
  | [] => .ok progress
  | none :: rest =>
    .error (.usage (strayArgument ('-' :: (none :: rest).map (·.getD (Char.ofNat 0xFFFD)))))
  | some c :: rest =>
    match Flag.ofLetter? c with
    | none => .error (.usage (strayArgument ['-', c]))
    | some flag =>
      match switchOn progress flag with
      | .error stop => .error stop
      | .ok next => readLetters next rest

def readLong (progress : Progress) (name : Octets) (value : Option Octets) :
    Except Stop Progress :=
  match (Utf8.decode? name).bind Opt.ofLong? with
  | none => .error (.usage (unknownLong progress (Utf8.decodeLossy name)))
  | some (.flag flag) =>
    match value with
    | none => switchOn progress flag
    | some octets => .error (.usage (unneededValue progress flag (Utf8.decodeLossy octets)))
  | some (.value option) =>
    match progress.settle with
    | .error error => .error (.usage error)
    | .ok settings =>
      match value with
      | none => .ok ⟨settings, some (.waiting option)⟩
      | some octets =>
        match accept settings option octets with
        | .error error => .error (.usage error)
        | .ok more => .ok ⟨more, none⟩

/-- An argument that is no option: the value of the option that waits for one. -/
def readPlain (progress : Progress) (octets : Octets) : Except Stop Progress :=
  match progress.open? with
  | some (.waiting option) => .ok ⟨progress.accepted, some (.given option octets)⟩
  | _ => .error (.usage (strayArgument (Utf8.decodeLossy octets)))

/-- The settings of the arguments that are left. -/
def readAll (progress : Progress) : List Octets → Except Stop (List Setting)
  | [] => progress.settle.mapError .usage
  | argument :: rest =>
    match Word.of argument with
    | .escape =>
      match rest with
      | [] => progress.settle.mapError .usage
      | next :: _ => .error (.usage (strayArgument (Utf8.decodeLossy next)))
    | .long name value =>
      match readLong progress name value with
      | .error stop => .error stop
      | .ok after => readAll after rest
    | .letters octets =>
      match readLetters progress (Utf8.units none octets) with
      | .error stop => .error stop
      | .ok after => readAll after rest
    | .plain octets =>
      match readPlain progress octets with
      | .error stop => .error stop
      | .ok after => readAll after rest

/-! ## The environment and the whole -/

/-- Settings with those that options take from the environment. -/
def addVariables (environment : Environment) (settings : List Setting) :
    List ValueOption → Except UsageError (List Setting)
  | [] => .ok settings
  | option :: others =>
    if hasOption settings (.value option) then addVariables environment settings others
    else
      match option.fallback? environment with
      | none => addVariables environment settings others
      | some value =>
        match Setting.ofOctets option value with
        | .error error => .error error
        | .ok setting => addVariables environment (settings ++ [setting]) others

/-- The value that the first setting of a kind has. -/
def find? {α : Type} (settings : List Setting) (value? : Setting → Option α) : Option α :=
  settings.findSome? value?

/-- The job URL when none is given. The text of the default is a URL of the web. -/
def fallbackJobUrl : Url :=
  { scheme := .https
    username := []
    password := none
    host := .domain (Text.of "internal.pingcap.net")
    port := none
    path := ["idc-jenkins", "job", "release_advanced_statefulset", "buildWithParameters"].map
      Text.of
    query := none
    fragment := none }

/-- The arguments of settings, if the required ones are there. -/
def complete (settings : List Setting) : Except UsageError Arguments :=
  let token? := find? settings fun | .token value => some value | _ => none
  let buildRef? := find? settings fun | .buildRef value => some value | _ => none
  match token?, buildRef? with
  | some token, some buildRef =>
    .ok {
      token
      buildRef
      imageTag := find? settings fun | .imageTag value => some value | _ => none
      jobUrl := (find? settings fun | .jobUrl url => some url | _ => none).getD fallbackJobUrl
      timeout := find? settings fun | .timeout seconds => some seconds | _ => none
      verbose := hasOption settings (.flag .verbose) }
  | _, _ =>
    .error (.missingOptions
      (ValueOption.required.filter fun option => !hasOption settings (.value option))
      (Usage.ofUsed (settings.map (·.option))))

/-- The arguments of a command line, its program name left out, in an environment. -/
def parse (environment : Environment) (arguments : List Octets) : Except Stop Arguments :=
  match readAll Progress.start arguments with
  | .error stop => .error stop
  | .ok settings =>
    match addVariables environment settings ValueOption.withVariable with
    | .error error => .error (.usage error)
    | .ok all => (complete all).mapError .usage

end ReleaseTrigger.CommandLine
