import ReleaseTrigger.Http.Head

/-! # Endpoints

What a job endpoint does is given in advance: one reply for every connection, of which the last one
repeats. Without replies an endpoint refuses every connection.
-/

namespace ReleaseTrigger.Http

/-- What an endpoint does with a connection. -/
inductive Reply where
  /-- It reads the request, sends a text and closes the connection. -/
  | sends (text : Text)
  | silent
  /-- It closes the connection after the first octets. -/
  | hangsUp
  | refuses
deriving DecidableEq, Repr

/-- An answer by its parts, without the headers that frame the body. -/
structure Answer where
  status : Nat
  reason : Text
  headers : List Header
  body : Text
deriving DecidableEq, Repr

def lineBreak : Text := ['\r', '\n']

def renderHeader (header : Header) : Text := header.1 ++ Text.of ": " ++ header.2 ++ lineBreak

/-- The headers of an answer and those that frame its body. -/
def Answer.allHeaders (answer : Answer) : List Header :=
  answer.headers ++
    [(Text.of "Content-Length", Text.decimal (Utf8.length answer.body)),
      (Text.of "Connection", Text.of "close")]

def Answer.render (answer : Answer) : Text :=
  Text.of "HTTP/1.1 " ++ Text.decimal answer.status ++ ' ' :: answer.reason ++ lineBreak ++
    answer.allHeaders.flatMap renderHeader ++ lineBreak ++ answer.body

structure Place where
  host : Host
  port : Nat
deriving DecidableEq, Repr

/-- An endpoint. It may listen at several places, since a server has more names than one; the last of
its replies repeats. -/
structure Endpoint where
  listens : Place → Bool
  replies : List Reply

/-- The reply to a connection, given how many came before it. -/
def Endpoint.reply (endpoint : Endpoint) (served : Nat) : Reply :=
  ((endpoint.replies[served]?).or endpoint.replies.getLast?).getD .refuses

def localHost : Host := .ipv4 (BitVec.ofNat 32 0x7F000001)

/-- Where requests for a URL are sent. -/
def Place.of (url : Url) : Place := ⟨url.host, url.port.getD url.scheme.defaultPort⟩

end ReleaseTrigger.Http
