import ReleaseTrigger.Parameters
import ReleaseTrigger.Settings

/-! # Building a URL step by step

A session holds a URL and build parameters, both absent at first. A step sets one of them or appends
the parameters to the URL; a step that fails leaves the session as it was.
-/

namespace ReleaseTrigger

structure Session where
  url : Option Url
  parameters : Option Parameters
deriving DecidableEq, Repr

inductive SessionStep where
  | base (value : Text)
  | parameters (token buildRef : Text) (imageTag : Option Text)
  | apply
  | unknown (word : Text)
deriving DecidableEq, Repr

inductive SessionError where
  | jobUrl (error : JobUrlError)
  | reference (error : UnresolvableReference)
  | noParameters
  | noBase
  | unknownStep (word : Text)
deriving DecidableEq, Repr

def SessionError.message : SessionError → Text
  | jobUrl error => error.message
  | reference error => error.message
  | noParameters => Text.of "no parameters yet"
  | noBase => Text.of "no base yet"
  | unknownStep word => word

namespace Session

def initial : Session := ⟨none, none⟩

/-- The session after a step, or why the step fails. -/
def step (session : Session) : SessionStep → Except SessionError Session
  | .base value =>
    match parseJobUrl value with
    | .ok url => .ok { session with url := some url }
    | .error error => .error (.jobUrl error)
  | .parameters token buildRef imageTag =>
    match Parameters.resolve token buildRef imageTag with
    | .ok parameters => .ok { session with parameters := some parameters }
    | .error error => .error (.reference error)
  | .apply =>
    match session.parameters, session.url with
    | none, _ => .error .noParameters
    | some _, none => .error .noBase
    | some parameters, some url => .ok { session with url := some (parameters.addTo url) }
  | .unknown word => .error (.unknownStep word)

/-- What is answered to a step: the session after it, and why it failed if it did. -/
structure Answer where
  session : Session
  error : Option SessionError
deriving DecidableEq, Repr

def answer (session : Session) (next : SessionStep) : Answer :=
  match session.step next with
  | .ok after => ⟨after, none⟩
  | .error error => ⟨session, some error⟩

def run (session : Session) : List SessionStep → List Answer
  | [] => []
  | next :: rest => session.answer next :: run (session.answer next).session rest

end Session

end ReleaseTrigger
