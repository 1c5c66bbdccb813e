import ReleaseTrigger.Http.Exchange
import ReleaseTrigger.Log.Event
import ReleaseTrigger.Parameters
import ReleaseTrigger.Settings
import ReleaseTrigger.Text.Quoted

/-! # Triggering a build

The parameters are appended to the job URL and the result is asked for once. What is reported on the
way is a list of entries: plain lines, the verdict, and log events.
-/

namespace ReleaseTrigger

/-- Something that is reported. -/
inductive Entry where
  | line (text : Text)
  /-- Whether the build was queued. -/
  | verdict (isSuccess : Bool)
  | event (event : Log.Event)
deriving DecidableEq, Repr

structure Display where
  coloursVerdict : Bool
  coloursLog : Bool
  admits : Log.Event → Bool
  /-- The time at the start of log lines. -/
  time : Text

namespace Entry

def verdictSpan (isSuccess : Bool) : Span :=
  if isSuccess then ⟨Style.success, Text.of "Success"⟩ else ⟨Style.failure, Text.of "Failed"⟩

def render (display : Display) : Entry → Text
  | .line text => text ++ ['\n']
  | .verdict isSuccess =>
    let span := verdictSpan isSuccess
    (if display.coloursVerdict then span.coloured else span.text) ++ ['\n']
  | .event happened =>
    if display.admits happened then
      let message := happened.styled display.time
      if display.coloursLog then message.coloured else message.text
    else []

def renderAll (display : Display) (entries : List Entry) : Text := entries.flatMap (render display)

end Entry

/-- A request that failed, as an error of a run. -/
def requestErrorMessage (failure : Http.Failure) : Text :=
  Text.of "Request to job endpoint failed: " ++ failure.message

/-- What triggering leads to: what was reported, the requests that the endpoint received, how many
connections it has served, and the outcome, or why there is none. Triggering that never ends has no
result. -/
structure Triggered where
  entries : List Entry
  requests : List Http.Request
  served : Nat
  result : Option (Except Http.Failure Outcome)

/-- What is reported before the request is sent. -/
def announcement (url : Url) : List Entry :=
  [.line (Text.of "GET " ++ url.render),
    .event ⟨.debug, .request, Text.of "Sending trigger request",
      [(Text.of "host", Quoted.encode url.host.render)]⟩]

def Outcome.entries (outcome : Outcome) : List Entry :=
  let code := Text.decimal outcome.status.code
  [.line (Text.of "Response.Code: " ++ code)] ++
    (if outcome.isSuccess then []
      else [.event ⟨.warn, .request, Text.of "Job endpoint rejected the trigger",
        [(Text.of "status", code)]⟩]) ++
    [.verdict outcome.isSuccess]

/-- Triggers a build at an endpoint that has served so many connections before. -/
def trigger (settings : Settings) (parameters : Parameters) (endpoint : Http.Endpoint)
    (served : Nat) : Triggered :=
  let url := parameters.addTo settings.jobUrl
  let exchange := Http.exchange endpoint served settings.timeout url
  match exchange.result with
  | none => ⟨announcement url, exchange.requests, exchange.served, none⟩
  | some (.error failure) =>
    ⟨announcement url, exchange.requests, exchange.served, some (.error failure)⟩
  | some (.ok status) =>
    let outcome : Outcome := ⟨url, status⟩
    ⟨announcement url ++ outcome.entries, exchange.requests, exchange.served, some (.ok outcome)⟩

/-- Triggers a build several times, one after the other; none comes after one that never ends. -/
def triggerTimes (settings : Settings) (parameters : Parameters) (endpoint : Http.Endpoint) :
    Nat → Nat → List Triggered
  | 0, _ => []
  | times + 1, served =>
    let first := trigger settings parameters endpoint served
    match first.result with
    | none => [first]
    | some _ => first :: triggerTimes settings parameters endpoint times first.served

end ReleaseTrigger
