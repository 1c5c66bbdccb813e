import ReleaseTrigger.Text.Styled

/-! # Log events

An event has a level, the part of the program it comes from, a message and named values. It is logged
as one line, which starts with the time and the level.
-/

namespace ReleaseTrigger.Log

/-- How much an event matters. -/
inductive Level where
  | error
  | warn
  | info
  | debug
  | trace
deriving DecidableEq, Repr

namespace Level

/-- The rank of a level; the more it matters, the lower. -/
def rank : Level → Nat
  | error => 1
  | warn => 2
  | info => 3
  | debug => 4
  | trace => 5

/-- The name of a level, padded to a width of five. -/
def label : Level → Text
  | error => Text.of "ERROR"
  | warn => Text.of " WARN"
  | info => Text.of " INFO"
  | debug => Text.of "DEBUG"
  | trace => Text.of "TRACE"

def style : Level → Style
  | error => [Text.of "31"]
  | warn => Style.yellow
  | info => Style.green
  | debug => Style.blue
  | trace => [Text.of "35"]

end Level

/-- A part of the program that reports events. -/
inductive Source where
  | run
  | request
deriving DecidableEq, Repr

/-- The name by which filters select the events of a part. -/
def Source.target : Source → Text
  | run => Text.of "trigger_jenkins_job::cli"
  | request => Text.of "trigger_jenkins_job::trigger::client"

structure Event where
  level : Level
  source : Source
  message : Text
  /-- The named values, as they are to be shown. -/
  fields : List (Text × Text)
deriving DecidableEq, Repr

def Event.styled (time : Text) (event : Event) : Styled :=
  Styled.one Style.dimmed time ++ Styled.plain [' '] ++
    Styled.one event.level.style event.level.label ++ Styled.plain (' ' :: event.message) ++
    (event.fields.flatMap fun field =>
      Styled.plain [' '] ++ Styled.one Style.italic field.1 ++ Styled.one Style.dimmed ['='] ++
        Styled.plain field.2) ++
    Styled.plain ['\n']

end ReleaseTrigger.Log
