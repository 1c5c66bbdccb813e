import ReleaseTrigger.Log.Event
import ReleaseTrigger.Text.Utf8
import ReleaseTrigger.Text.Wrapped
import ReleaseTrigger.Unicode.Categories

/-! # Log filters

A filter is a list of directives between commas. Each sets the level down to which events are logged,
for all parts of the program or for those whose name starts with its target. The directive with the
longest target decides, and of two with the same target the later.
-/

namespace ReleaseTrigger.Log

/-- Down to which level events are logged; `none` logs nothing. -/
abbrev Threshold := Option Level

def Threshold.admits (threshold : Threshold) (level : Level) : Bool :=
  match threshold with
  | none => false
  | some least => level.rank ≤ least.rank

structure Directive where
  /-- What the names of the parts it concerns start with. -/
  target : Text
  threshold : Threshold
deriving DecidableEq, Repr

abbrev Filter := List Directive

/-! ## Reading -/

def thresholds : List (Text × Nat × Threshold) :=
  [(Text.of "off", 0, none), (Text.of "error", 1, some .error), (Text.of "warn", 2, some .warn),
    (Text.of "info", 3, some .info), (Text.of "debug", 4, some .debug),
    (Text.of "trace", 5, some .trace)]

/-- The number of a text of digits after at most one plus sign. -/
def thresholdNumber? (text : Text) : Option Nat :=
  Text.number? 10 (match text with
    | '+' :: digits => digits
    | _ => text)

/-- The threshold that a name in any case or a number stands for. -/
def Threshold.parse? (text : Text) : Option Threshold :=
  (thresholds.find? fun (name, number, _) =>
    Text.lower text == name || thresholdNumber? text == some number).map (·.2.2)

def startsDirective (c : Char) : Bool :=
  c.isAlphanum || (Text.isWide c && Unicode.alphanumerics.contains c.toNat) ||
    c == '-' || c == ':' || c == '_'

/-- The directive that a text stands for. A level alone concerns every part, and a target alone logs
everything. Blanks around a directive do not count when its form is looked for. -/
def Directive.parse? (text : Text) : Option Directive :=
  let trimmed := Text.trim Wrapped.isBlank text
  match trimmed with
  | [] => none
  | first :: _ =>
    if !startsDirective first then none
    else if trimmed.contains '[' && !(trimmed.takeWhile (· != '[')).contains '=' then none
    else
      let target := trimmed.takeWhile (· != '=')
      if target.length = trimmed.length then
        match Threshold.parse? text with
        | some threshold => some ⟨[], threshold⟩
        | none => some ⟨text, some .trace⟩
      else
        let level := text.drop (target.length + 1)
        if level.isEmpty then some ⟨text.take target.length, some .trace⟩
        else (Threshold.parse? level).map fun threshold => ⟨text.take target.length, threshold⟩

/-- The filter that a text stands for. Without any directive only errors are logged. -/
def Filter.parse? (text : Text) : Option Filter :=
  match (List.splitOn ',' text).filter (!·.isEmpty) with
  | [] => some [⟨[], some .error⟩]
  | directives => directives.mapM Directive.parse?

/-! ## Use -/

/-- The directive that decides on events of a target, given the best one so far. -/
def Filter.decisive (target : Text) : Option Directive → Filter → Option Directive
  | best, [] => best
  | best, directive :: others =>
    let isBetter := directive.target.isPrefixOf target &&
      (match best with
        | none => true
        | some known => known.target.length ≤ directive.target.length)
    Filter.decisive target (if isBetter then some directive else best) others

def Filter.admits (filter : Filter) (event : Event) : Bool :=
  match filter.decisive event.source.target none with
  | none => false
  | some directive => directive.threshold.admits event.level

def defaultDirectives (verbose : Bool) : Text :=
  Text.of "trigger_jenkins_job=" ++ Text.of (if verbose then "debug" else "info") ++
    Text.of ",warn"

/-- The filter that is used when none is set. -/
def defaultFilter (verbose : Bool) : Filter :=
  [⟨Text.of "trigger_jenkins_job", some (if verbose then .debug else .info)⟩, ⟨[], some .warn⟩]

/-- The filter of a run: the one that the environment sets, if it can be read. -/
def filterOf (setting : Option Octets) (verbose : Bool) : Filter :=
  ((setting.bind Utf8.decode?).bind Filter.parse?).getD (defaultFilter verbose)

/-- Whether output is coloured: not if colours are refused, and otherwise if they are forced or the
output goes to a terminal. -/
def wantsColours (isRefused isForced isTerminal : Bool) : Bool :=
  !isRefused && (isForced || isTerminal)

end ReleaseTrigger.Log
