import ReleaseTrigger.Http.Request
import ReleaseTrigger.Http.Target

/-! # Exchanges

An exchange sends one request and follows redirects until an answer is final, something goes wrong,
or ten redirects have been followed. It never repeats a request. If a reply never comes, only a time
limit ends the exchange; without one it has no result.
-/

namespace ReleaseTrigger.Http

/-! ## Failures -/

inductive SendError where
  | timedOut
  | refused
  /-- The connection was closed before it was secure. -/
  | handshake
  /-- The connection was closed early or the answer is malformed. -/
  | head (error : HeadError)
deriving DecidableEq, Repr

/-- Why an exchange fails. The texts are URLs as messages show them. -/
inductive Failure where
  | sending (url : Text) (error : SendError)
  | target (url : Text)
  | scheme (url : Text)
  | redirects (url : Text)
deriving DecidableEq, Repr

def Failure.message : Failure → Text
  | sending url _ => Text.of "error sending request for url (" ++ url ++ [')']
  | target url | scheme url => Text.of "builder error for url (" ++ url ++ [')']
  | redirects url => Text.of "error following redirect for url (" ++ url ++ [')']

/-- The causes, from the outermost on. -/
def SendError.causes : SendError → List Text
  | timedOut => [Text.of "operation timed out"]
  | refused =>
    [Text.of "client error (Connect)", Text.of "tcp connect error",
      Text.of "Connection refused (os error 111)"]
  | handshake => [Text.of "client error (Connect)", Text.of "tls handshake eof"]
  | head error => [Text.of "client error (SendRequest)", error.message]

def Failure.causes : Failure → List Text
  | sending _ error => error.causes
  | target _ => [Text.of "Parsed Url is not a valid Uri"]
  | scheme _ => [Text.of "URL scheme is not allowed"]
  | redirects _ => [Text.of "too many redirects"]

/-! ## One connection -/

/-- What one connection leads to: whether a request was received, how many connections the endpoint
has served, and the final head, or why there is none. There is no result if the wait for it never
ends. -/
structure Contact where
  isReceived : Bool
  served : Nat
  result : Option (Except SendError Head)

/-- A connection to where a URL points. No endpoint gets as far as to make it secure. Replies that come
at all come in time, so it is only in silence that a time limit is reached. -/
def contact (endpoint : Endpoint) (timeout : Option Nat) (served : Nat) (url : Url) : Contact :=
  if !endpoint.listens (Place.of url) then ⟨false, served, some (.error .refused)⟩
  else
    match endpoint.reply served with
    | .refuses => ⟨false, served + 1, some (.error .refused)⟩
    | .silent => ⟨false, served + 1, timeout.map fun _ => .error .timedOut⟩
    | .hangsUp =>
      ⟨false, served + 1,
        some (.error (if url.scheme = .https then .handshake else .head .incomplete))⟩
    | .sends text =>
      if url.scheme = .https then ⟨false, served + 1, some (.error .handshake)⟩
      else ⟨true, served + 1, some ((finalHead text).mapError .head)⟩

/-! ## The chain -/

def isRedirect (status : Status) : Bool := [301, 302, 303, 307, 308].contains status.code

def redirect? (url : Url) (head : Head) : Option AnyUrl :=
  if isRedirect head.status then
    (head.values (Text.of "location")).head?.bind (followed? url)
  else none

/-- What an exchange leads to: the requests that the endpoint received, how many connections it has
served, and the final status, or why there is none. An exchange that never ends has no result. -/
structure Exchange where
  requests : List Request
  served : Nat
  result : Option (Except Failure Status)

def Exchange.after (received : List Request) (exchange : Exchange) : Exchange :=
  { exchange with requests := received ++ exchange.requests }

def maxRedirects : Nat := 10

/-- The exchange from a URL on, with so many redirects left. `shown` is the first URL as messages
show it. -/
def follow (endpoint : Endpoint) (timeout : Option Nat) (credentials : Option Credentials)
    (shown : Text) : Nat → Nat → Option Url → Url → Exchange
  | left, served, previous, url =>
    let reached := contact endpoint timeout served url
    let received := if reached.isReceived then [⟨url, previous, credentials⟩] else []
    match reached.result with
    | none => ⟨received, reached.served, none⟩
    | some (.error error) => ⟨received, reached.served, some (.error (.sending shown error))⟩
    | some (.ok head) =>
      match redirect? url head with
      | none => ⟨received, reached.served, some (.ok head.status)⟩
      | some next =>
        match left with
        | 0 => ⟨received, reached.served, some (.error (.redirects (targetText (.network url))))⟩
        | left + 1 =>
          match next with
          | .foreign other =>
            ⟨received, reached.served, some (.error (.scheme (targetText (.foreign other))))⟩
          | .network other =>
            if other.scheme.isWeb then
              (follow endpoint timeout (carried credentials url other) shown left reached.served
                (some url) other).after received
            else ⟨received, reached.served, some (.error (.scheme (targetText next)))⟩

/-- The exchange for a URL. A time limit of zero is reached before anything is sent. -/
def exchange (endpoint : Endpoint) (served : Nat) (timeout : Option Nat) (url : Url) : Exchange :=
  let asked := withoutCredentials url
  if !isTarget asked.render then ⟨[], served, some (.error (.target asked.render))⟩
  else if timeout = some 0 then ⟨[], served, some (.error (.sending asked.render .timedOut))⟩
  else
    follow endpoint timeout (Credentials.ofUrl? url) asked.render maxRedirects served none asked

end ReleaseTrigger.Http
