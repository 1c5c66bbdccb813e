import ReleaseTrigger.Http.Exchange
import ReleaseTrigger.Proofs.Http.Answer

/-! # Chains of redirects

A request is answered if the connection it was sent on brings a text that carries a final head. The chain
of requests goes on exactly where a head redirects to a target that receives the next request, on the
next connection; otherwise it ends with the request at hand, or it waits without end because a reply
stays away and there is no time limit. `Disciplined` says so for every position of the chain, and
`LeadsTo` names what comes of it. Both are proved along `follow`, one connection after the other.
-/

namespace ReleaseTrigger.Http

/-! ## Answers and redirects -/

/-- The reply to a connection carries a head as the final one. -/
def Endpoint.Answers (endpoint : Endpoint) (served : Nat) (head : Head) : Prop :=
  ∃ text, endpoint.reply served = .sends text ∧ Carries text head

/-- A request for a URL is received on a connection: the endpoint listens there, nothing has to be
secured first, and the endpoint reads it. -/
def Endpoint.Receives (endpoint : Endpoint) (served : Nat) (url : Url) : Prop :=
  endpoint.listens (Place.of url) = true ∧ url.scheme ≠ .https ∧
    ∃ text, endpoint.reply served = .sends text

/-- A connection for a URL waits without end: the endpoint listens there and never replies, and no limit
is set. -/
def Endpoint.Stalls (endpoint : Endpoint) (timeout : Option Nat) (served : Nat) (url : Url) : Prop :=
  timeout = none ∧ endpoint.listens (Place.of url) = true ∧ endpoint.reply served = .silent

/-- A head redirects from a URL to a target: its status is one of five, and its first location is a
reference whose resolution can be asked for. -/
structure Redirects (url : Url) (head : Head) (target : AnyUrl) : Prop where
  status : head.status.code ∈ [301, 302, 303, 307, 308]
  location : ∃ location found, (head.values (Text.of "location")).head? = some location ∧
    Url.resolve url.withoutFragment location = .ok found ∧ isTarget found.render = true ∧
      target = found.withoutFragment

theorem Endpoint.Answers.unique {endpoint : Endpoint} {served : Nat} {head other : Head}
    (answers : endpoint.Answers served head) (others : endpoint.Answers served other) :
    head = other := by
  obtain ⟨text, reply, carries⟩ := answers
  obtain ⟨text', reply', carries'⟩ := others
  rw [reply, Reply.sends.injEq] at reply'
  exact carries.unique (reply' ▸ carries')

theorem Endpoint.Stalls.not_receives {endpoint : Endpoint} {timeout : Option Nat} {served : Nat}
    {url : Url} (stalls : endpoint.Stalls timeout served url) : ¬endpoint.Receives served url := by
  rintro ⟨-, -, text, sends⟩
  cases stalls.2.2.symm.trans sends

theorem followed?_eq_some_iff {base : Url} {location : Text} {target : AnyUrl} :
    followed? base location = some target ↔
      ∃ found, Url.resolve base.withoutFragment location = .ok found ∧
        isTarget found.render = true ∧ target = found.withoutFragment := by
  unfold followed?
  cases Url.resolve base.withoutFragment location with
  | error error => simp
  | ok found =>
    simp only [Option.ite_none_right_eq_some, Option.some.injEq, Except.ok.injEq, exists_eq_left']
    rw [eq_comm (a := target)]

theorem redirect?_eq_some_iff {url : Url} {head : Head} {target : AnyUrl} :
    redirect? url head = some target ↔ Redirects url head target := by
  simp only [redirect?, isRedirect, List.contains_iff_mem, Option.ite_none_right_eq_some,
    Option.bind_eq_some_iff, followed?_eq_some_iff]
  constructor
  · rintro ⟨status, location, given, found, resolved, isTarget, same⟩
    exact ⟨status, location, found, given, resolved, isTarget, same⟩
  · rintro ⟨status, location, found, given, resolved, isTarget, same⟩
    exact ⟨status, location, given, found, resolved, isTarget, same⟩

theorem redirect?_eq_none_iff {url : Url} {head : Head} :
    redirect? url head = none ↔ ∀ target, ¬Redirects url head target := by
  simp only [← redirect?_eq_some_iff, Option.eq_none_iff_forall_ne_some, ne_eq]

theorem Redirects.unique {url : Url} {head : Head} {target other : AnyUrl}
    (redirects : Redirects url head target) (others : Redirects url head other) :
    target = other := by
  rw [← redirect?_eq_some_iff] at redirects others
  exact Option.some.inj (redirects.symm.trans others)

/-- What one connection leads to: it waits without end, or no request is received, or a request is
received and answered, or it is received and stays without an answer. -/
theorem contact_cases (endpoint : Endpoint) (timeout : Option Nat) (served : Nat) (url : Url) :
    (endpoint.Stalls timeout served url ∧
        contact endpoint timeout served url = ⟨false, served + 1, none⟩) ∨
      (¬endpoint.Stalls timeout served url ∧ ¬endpoint.Receives served url ∧
        ∃ reached error, (reached = served ∨ reached = served + 1) ∧
          contact endpoint timeout served url = ⟨false, reached, some (.error error)⟩) ∨
      endpoint.Receives served url ∧
        ((∃ head, endpoint.Answers served head ∧
            contact endpoint timeout served url = ⟨true, served + 1, some (.ok head)⟩) ∨
          (∀ head, ¬endpoint.Answers served head) ∧
            ∃ error, contact endpoint timeout served url = ⟨true, served + 1, some (.error error)⟩) := by
  unfold contact
  cases listens : endpoint.listens (Place.of url) with
  | false =>
    refine .inr (.inl ⟨fun stalls => ?_, fun receives => ?_, served, .refused, .inl rfl, rfl⟩)
    · cases listens.symm.trans stalls.2.1
    · cases listens.symm.trans receives.1
  | true =>
    cases reply : endpoint.reply served with
    | sends text =>
      by_cases secure : url.scheme = .https
      · refine .inr (.inl ⟨fun stalls => ?_, fun receives => receives.2.1 secure, served + 1, .handshake,
          .inr rfl, by simp [secure]⟩)
        cases reply.symm.trans stalls.2.2
      · refine .inr (.inr ⟨⟨listens, secure, text, reply⟩, ?_⟩)
        cases read : finalHead text with
        | ok head =>
          refine .inl ⟨head, ⟨text, reply, finalHead_eq_ok_iff.mp read⟩, ?_⟩
          simp only [secure, ↓reduceIte, read]
          rfl
        | error error =>
          refine .inr ⟨?_, .head error, ?_⟩
          · rintro head ⟨other, reply', carries⟩
            rw [reply, Reply.sends.injEq] at reply'
            rw [← finalHead_eq_ok_iff, ← reply', read] at carries
            cases carries
          · simp only [secure, ↓reduceIte, read]
            rfl
    | silent =>
      cases timeout with
      | none => exact .inl ⟨⟨rfl, listens, reply⟩, rfl⟩
      | some limit =>
        refine .inr (.inl ⟨nofun, ?_, served + 1, .timedOut, .inr rfl, rfl⟩)
        rintro ⟨-, -, text, sends⟩
        cases reply.symm.trans sends
    | hangsUp | refuses =>
      refine .inr (.inl ⟨fun stalls => ?_, ?_, served + 1, _, .inr rfl, rfl⟩)
      · cases reply.symm.trans stalls.2.2
      · rintro ⟨-, -, text, sends⟩
        cases reply.symm.trans sends

/-! ## One hop -/

section Hop

variable (endpoint : Endpoint) (timeout : Option Nat) (credentials : Option Credentials) (shown : Text)
  (served : Nat) (previous : Option Url) (url : Url)

/-- How a chain goes on from a URL with so many redirects left. -/
inductive Hop : Nat → Exchange → Prop
  /-- The wait for a reply never ends. -/
  | stalled {left : Nat} (stalls : endpoint.Stalls timeout served url) : Hop left ⟨[], served + 1, none⟩
  /-- The request is not received. -/
  | missed {left reached : Nat} {failure : Failure} (ends : ¬endpoint.Stalls timeout served url)
      (misses : ¬endpoint.Receives served url) (bounds : reached = served ∨ reached = served + 1) :
      Hop left ⟨[], reached, some (.error failure)⟩
  /-- The request is received, and the reply carries no final head. -/
  | unanswered {left : Nat} {failure : Failure} (receives : endpoint.Receives served url)
      (unanswered : ∀ head, ¬endpoint.Answers served head) :
      Hop left ⟨[⟨url, previous, credentials⟩], served + 1, some (.error failure)⟩
  /-- The request is answered, and the answer is final. -/
  | final {left : Nat} {head : Head} (receives : endpoint.Receives served url)
      (answers : endpoint.Answers served head) (isFinal : ∀ target, ¬Redirects url head target) :
      Hop left ⟨[⟨url, previous, credentials⟩], served + 1, some (.ok head.status)⟩
  /-- The answer redirects, but no redirect is left or the target is not of the web. -/
  | stopped {left : Nat} {head : Head} {target : AnyUrl} {failure : Failure}
      (receives : endpoint.Receives served url) (answers : endpoint.Answers served head)
      (redirects : Redirects url head target)
      (stops : left = 0 ∨ ∀ next, target = .network next → next.scheme.isWeb = false) :
      Hop left ⟨[⟨url, previous, credentials⟩], served + 1, some (.error failure)⟩
  /-- The answer redirects, and the target is asked for on the next connection. -/
  | redirected {left : Nat} {head : Head} {next : Url} (receives : endpoint.Receives served url)
      (answers : endpoint.Answers served head) (redirects : Redirects url head (.network next))
      (web : next.scheme.isWeb = true) :
      Hop (left + 1) ((follow endpoint timeout (carried credentials url next) shown left (served + 1)
        (some url) next).after [⟨url, previous, credentials⟩])

/-- A chain goes on in one of these ways. -/
theorem follow_hop (left : Nat) :
    Hop endpoint timeout credentials shown served previous url left
      (follow endpoint timeout credentials shown left served previous url) := by
  rw [follow.eq_def]
  obtain ⟨stalls, contacted⟩ | ⟨ends, misses, reached, error, bounds, contacted⟩ |
    ⟨receives, ⟨head, answers, contacted⟩ | ⟨unanswered, error, contacted⟩⟩ :=
    contact_cases endpoint timeout served url
  · simp only [contacted]
    exact .stalled stalls
  · simp only [contacted]
    exact .missed ends misses bounds
  · simp only [contacted]
    cases redirection : redirect? url head with
    | none => exact .final receives answers (redirect?_eq_none_iff.mp redirection)
    | some target =>
      have redirects := redirect?_eq_some_iff.mp redirection
      cases left with
      | zero => exact .stopped receives answers redirects (.inl rfl)
      | succ left =>
        cases target with
        | foreign other =>
          refine .stopped receives answers redirects (.inr ?_)
          intro next same
          cases same
        | network next =>
          by_cases web : next.scheme.isWeb = true
          · simp only [web]
            exact .redirected receives answers redirects web
          · simp only [web]
            refine .stopped receives answers redirects (.inr ?_)
            rintro other ⟨⟩
            exact Bool.eq_false_iff.mpr web
  · simp only [contacted]
    exact .unanswered receives unanswered

variable {endpoint timeout credentials shown served previous url}

namespace Hop

variable {left : Nat} {exchange : Exchange} {head : Head}

theorem first {request : Request}
    (hop : Hop endpoint timeout credentials shown served previous url left exchange)
    (made : exchange.requests[0]? = some request) :
    request = ⟨url, previous, credentials⟩ ∧ endpoint.Receives served url := by
  cases hop with
  | stalled | missed => simp at made
  | unanswered receives _ | final receives _ _ | stopped receives _ _ _
  | redirected receives _ _ _ => exact ⟨(Option.some.inj made).symm, receives⟩

theorem of_requests_eq_nil
    (hop : Hop endpoint timeout credentials shown served previous url left exchange)
    (empty : exchange.requests = []) :
    ¬endpoint.Receives served url ∧ (exchange.served = served ∨ exchange.served = served + 1) ∧
      (endpoint.Stalls timeout served url ∧ exchange.result = none ∨
        ¬endpoint.Stalls timeout served url ∧ ∃ failure, exchange.result = some (.error failure)) := by
  cases hop with
  | stalled stalls => exact ⟨stalls.not_receives, .inr rfl, .inl ⟨stalls, rfl⟩⟩
  | missed ends misses bounds => exact ⟨misses, bounds, .inr ⟨ends, _, rfl⟩⟩
  | unanswered | final | stopped | redirected => cases empty

theorem of_stalled (hop : Hop endpoint timeout credentials shown served previous url left exchange)
    (stalls : endpoint.Stalls timeout served url) : exchange = ⟨[], served + 1, none⟩ := by
  cases hop with
  | stalled => rfl
  | missed ends => exact (ends stalls).elim
  | unanswered receives _ | final receives _ _ | stopped receives _ _ _
  | redirected receives _ _ _ => exact (stalls.not_receives receives).elim

theorem of_missed (hop : Hop endpoint timeout credentials shown served previous url left exchange)
    (misses : ¬endpoint.Receives served url) : exchange.requests = [] := by
  cases hop with
  | stalled | missed => rfl
  | unanswered receives _ | final receives _ _ | stopped receives _ _ _
  | redirected receives _ _ _ => exact (misses receives).elim

theorem of_unanswered (hop : Hop endpoint timeout credentials shown served previous url left exchange)
    (receives : endpoint.Receives served url) (none : ∀ head, ¬endpoint.Answers served head) :
    ∃ failure, exchange = ⟨[⟨url, previous, credentials⟩], served + 1, some (.error failure)⟩ := by
  cases hop with
  | stalled stalls => exact (stalls.not_receives receives).elim
  | missed _ misses => exact (misses receives).elim
  | unanswered => exact ⟨_, rfl⟩
  | final _ answers | stopped _ answers | redirected _ answers => exact (none _ answers).elim

theorem of_final (hop : Hop endpoint timeout credentials shown served previous url left exchange)
    (receives : endpoint.Receives served url) (answers : endpoint.Answers served head)
    (isFinal : ∀ target, ¬Redirects url head target) :
    exchange = ⟨[⟨url, previous, credentials⟩], served + 1, some (.ok head.status)⟩ := by
  cases hop with
  | stalled stalls => exact (stalls.not_receives receives).elim
  | missed _ misses => exact (misses receives).elim
  | unanswered _ none => exact (none _ answers).elim
  | final _ answers' _ =>
    obtain rfl := answers.unique answers'
    rfl
  | stopped _ answers' redirects _ | redirected _ answers' redirects _ =>
    obtain rfl := answers.unique answers'
    exact (isFinal _ redirects).elim

/-- A redirect stops the chain, or the target is the next URL. -/
theorem of_redirects {target : AnyUrl}
    (hop : Hop endpoint timeout credentials shown served previous url left exchange)
    (receives : endpoint.Receives served url) (answers : endpoint.Answers served head)
    (redirects : Redirects url head target) :
    ((left = 0 ∨ ∀ next, target = .network next → next.scheme.isWeb = false) ∧
      ∃ failure, exchange = ⟨[⟨url, previous, credentials⟩], served + 1, some (.error failure)⟩) ∨
    ∃ rest next, left = rest + 1 ∧ target = .network next ∧ next.scheme.isWeb = true ∧
      exchange = (follow endpoint timeout (carried credentials url next) shown rest (served + 1) (some url)
        next).after [⟨url, previous, credentials⟩] := by
  cases hop with
  | stalled stalls => exact (stalls.not_receives receives).elim
  | missed _ misses => exact (misses receives).elim
  | unanswered _ none => exact (none _ answers).elim
  | final _ answers' isFinal =>
    obtain rfl := answers.unique answers'
    exact (isFinal _ redirects).elim
  | stopped _ answers' redirects' stops =>
    obtain rfl := answers.unique answers'
    obtain rfl := redirects.unique redirects'
    exact .inl ⟨stops, _, rfl⟩
  | redirected _ answers' redirects' web =>
    obtain rfl := answers.unique answers'
    obtain rfl := redirects.unique redirects'
    exact .inr ⟨_, _, rfl, rfl, web, rfl⟩

/-- A redirect to the web is followed while there are redirects left. -/
theorem of_followed {next : Url}
    (hop : Hop endpoint timeout credentials shown served previous url (left + 1) exchange)
    (receives : endpoint.Receives served url) (answers : endpoint.Answers served head)
    (redirects : Redirects url head (.network next)) (web : next.scheme.isWeb = true) :
    exchange = (follow endpoint timeout (carried credentials url next) shown left (served + 1) (some url)
      next).after [⟨url, previous, credentials⟩] := by
  obtain ⟨none | foreign, -⟩ | ⟨rest, other, same, network, -, whole⟩ :=
    hop.of_redirects receives answers redirects
  · cases none
  · rw [foreign next rfl] at web
    contradiction
  · cases same
    cases network
    exact whole

end Hop

/-- From every request of a chain on, what is left is a chain of its own: it starts on a later
connection with fewer redirects left. -/
theorem follow_suffix {left k : Nat} {request : Request}
    (made : (follow endpoint timeout credentials shown left served previous url).requests[k]? = some request) :
    let whole := follow endpoint timeout credentials shown left served previous url
    endpoint.Receives (served + k) request.url ∧ ∃ rest suffix, left = k + rest ∧
      Hop endpoint timeout request.credentials shown (served + k) request.previous request.url rest suffix ∧
        whole.requests.drop k = suffix.requests ∧ whole.served = suffix.served ∧
          whole.result = suffix.result := by
  have hop := follow_hop endpoint timeout credentials shown served previous url left
  induction k generalizing left served previous url credentials with
  | zero =>
    obtain ⟨rfl, receives⟩ := hop.first made
    exact ⟨receives, left, _, (Nat.zero_add _).symm, hop, rfl, rfl, rfl⟩
  | succ k ih =>
    generalize follow endpoint timeout credentials shown left served previous url = whole at hop made
    cases hop with
    | stalled | missed | unanswered | final | stopped => simp at made
    | @redirected left head next receives answers redirects web =>
      -- Request `k + 1` of this chain is request `k` of the one that starts at the target.
      obtain ⟨receives, rest, suffix, rfl, hop, same, connections, result⟩ :=
        ih made (follow_hop endpoint timeout (carried credentials url next) shown (served + 1) (some url)
          next left)
      rw [Nat.add_right_comm, Nat.add_assoc] at hop receives
      exact ⟨receives, rest, suffix, Nat.add_right_comm k rest 1, hop, same, connections, result⟩

end Hop

/-! ## The discipline -/

/-- What an exchange from a URL on keeps to, with so many redirects at most. The reply to request `k`
is the one to connection `served + k`. -/
structure Disciplined (endpoint : Endpoint) (timeout : Option Nat) (limit served : Nat) (start : Url)
    (exchange : Exchange) : Prop where
  /-- There is at most one request more than there are redirects. -/
  lengthBound : exchange.requests.length ≤ limit + 1
  /-- Every request asks by the same method. -/
  asksByGet : ∀ request ∈ exchange.requests, Text.of "GET " <+: request.line
  /-- The first request asks for the URL. -/
  starts : ∀ request, exchange.requests[0]? = some request → request.url = start
  /-- Any other request is made only because the reply before it redirects to its URL. -/
  redirected : ∀ k first second, exchange.requests[k]? = some first →
    exchange.requests[k + 1]? = some second →
    ∃ head, endpoint.Answers (served + k) head ∧ Redirects first.url head (.network second.url)
  /-- An answer that does not redirect is the last one, and its status is the result. -/
  concludes : ∀ k request head, exchange.requests[k]? = some request →
    endpoint.Answers (served + k) head → (∀ target, ¬Redirects request.url head target) →
    exchange.requests.length = k + 1 ∧ exchange.result = some (.ok head.status)
  /-- A redirect is followed, or it is the last one: the exchange fails because the target is not of the
  web or no request for it is received, or it waits for a reply from there without end. -/
  follows : ∀ k request head target, k < limit → exchange.requests[k]? = some request →
    endpoint.Answers (served + k) head → Redirects request.url head target →
    (∃ next, exchange.requests[k + 1]? = some next ∧ target = .network next.url) ∨
      exchange.requests.length = k + 1 ∧
        ((∃ failure, exchange.result = some (.error failure)) ∧
            (∀ next, target = .network next → next.scheme.isWeb = true →
              ¬endpoint.Receives (served + k + 1) next ∧
                ¬endpoint.Stalls timeout (served + k + 1) next) ∨
          exchange.result = none ∧ ∃ next, target = .network next ∧ next.scheme.isWeb = true ∧
            endpoint.Stalls timeout (served + k + 1) next)
  /-- One redirect more than there may be ends the exchange in a failure. -/
  limited : ∀ request head target, exchange.requests[limit]? = some request →
    endpoint.Answers (served + limit) head → Redirects request.url head target →
    ∃ failure, exchange.result = some (.error failure)
  /-- After a request without an answer there is no other connection. -/
  breaksOff : ∀ k request, exchange.requests[k]? = some request →
    (∀ head, ¬endpoint.Answers (served + k) head) →
    exchange.requests.length = k + 1 ∧ exchange.served = served + k + 1 ∧
      ∃ failure, exchange.result = some (.error failure)
  /-- A status is that of the answer to the last request, which does not redirect. -/
  answered : ∀ status, exchange.result = some (.ok status) → ∃ k request head,
    exchange.requests.length = k + 1 ∧ exchange.requests[k]? = some request ∧
      endpoint.Answers (served + k) head ∧ head.status = status ∧
      ∀ target, ¬Redirects request.url head target
  /-- Only the wait for a reply that never comes has no end, and the exchange is then at the connection
  after those of its requests. -/
  waits : exchange.result = none → exchange.served = served + exchange.requests.length + 1 ∧
    ∃ url, endpoint.Stalls timeout (served + exchange.requests.length) url
  /-- Every request has a connection of its own, and only the last connection can be without one. -/
  connections : exchange.served = served + exchange.requests.length ∨
    exchange.served = served + exchange.requests.length + 1 ∧
      ∀ status, exchange.result ≠ some (.ok status)

/-- An exchange in which nothing is sent is disciplined. -/
theorem Disciplined.unsent {endpoint : Endpoint} {timeout : Option Nat} {limit served : Nat} {start : Url}
    {failure : Failure} :
    Disciplined endpoint timeout limit served start ⟨[], served, some (.error failure)⟩ where
  lengthBound := Nat.zero_le _
  asksByGet := by simp
  starts := by simp
  redirected := by simp
  concludes := by simp
  follows := by simp
  limited := by simp
  breaksOff := by simp
  answered := by simp
  waits := by simp
  connections := .inl rfl

private theorem length_of_drop_eq_singleton {requests : List Request} {k : Nat} {request : Request}
    (last : requests.drop k = [request]) : requests.length = k + 1 := by
  have length := congrArg List.length last
  rw [List.length_drop, List.length_singleton] at length
  omega

/-- A chain ends in a failure, or it waits without end, or it ends with an answer to its last request
that does not redirect. -/
theorem follow_end (endpoint : Endpoint) (timeout : Option Nat) (credentials : Option Credentials)
    (shown : Text) (left served : Nat) (previous : Option Url) (url : Url) :
    let whole := follow endpoint timeout credentials shown left served previous url
    ((whole.served = served + whole.requests.length ∨
        whole.served = served + whole.requests.length + 1) ∧
      ∃ failure, whole.result = some (.error failure)) ∨
    (whole.served = served + whole.requests.length + 1 ∧ whole.result = none ∧
      ∃ other, endpoint.Stalls timeout (served + whole.requests.length) other) ∨
    whole.served = served + whole.requests.length ∧
      ∃ k request head, whole.requests.length = k + 1 ∧ whole.requests[k]? = some request ∧
        endpoint.Answers (served + k) head ∧ (∀ target, ¬Redirects request.url head target) ∧
        whole.result = some (.ok head.status) := by
  intro whole
  cases length : whole.requests.length with
  | zero =>
    have hop := follow_hop endpoint timeout credentials shown served previous url left
    obtain ⟨-, bounds, ⟨stalls, -⟩ | ⟨-, fails⟩⟩ :=
      hop.of_requests_eq_nil (List.eq_nil_of_length_eq_zero length)
    · have same : whole = _ := hop.of_stalled stalls
      exact .inr (.inl ⟨by rw [same], by rw [same], url, stalls⟩)
    · exact .inl ⟨bounds, fails⟩
  | succ k =>
    obtain ⟨last, made⟩ : ∃ last, whole.requests[k]? = some last :=
      ⟨_, List.getElem?_eq_getElem (by omega)⟩
    obtain ⟨receives, rest, suffix, -, hop, same, connections, result⟩ := follow_suffix made
    cases hop with
    | stalled stalls => exact (stalls.not_receives receives).elim
    | missed _ misses => exact (misses receives).elim
    | unanswered | stopped => exact .inl ⟨.inl connections, _, result⟩
    | @final _ head _ answers isFinal =>
      exact .inr (.inr ⟨connections, k, last, head, rfl, made, answers, isFinal, result⟩)
    | @redirected left _ next _ _ _ _ =>
      have hop := follow_hop endpoint timeout (carried last.credentials last.url next) shown
        (served + k + 1) (some last.url) next left
      generalize follow endpoint timeout (carried last.credentials last.url next) shown left
        (served + k + 1) (some last.url) next = others at hop same connections result
      have empty : others.requests = [] := by
        have lengths := congrArg List.length same
        rw [List.length_drop, length, Exchange.after, List.length_append, List.length_singleton] at lengths
        exact List.eq_nil_of_length_eq_zero (by omega)
      obtain ⟨-, bounds, ⟨stalls, -⟩ | ⟨-, failure, fails⟩⟩ := hop.of_requests_eq_nil empty
      · obtain rfl := hop.of_stalled stalls
        exact .inr (.inl ⟨connections, result, next, stalls⟩)
      · refine .inl ⟨?_, failure, result.trans fails⟩
        rw [connections]
        exact bounds

/-- A chain is disciplined. -/
theorem follow_disciplined (endpoint : Endpoint) (timeout : Option Nat) (credentials : Option Credentials)
    (shown : Text) (left served : Nat) (previous : Option Url) (url : Url) :
    Disciplined endpoint timeout left served url
      (follow endpoint timeout credentials shown left served previous url) where
  lengthBound := by
    rw [← Nat.not_lt]
    intro long
    obtain ⟨-, rest, suffix, total, -⟩ := follow_suffix (List.getElem?_eq_getElem long)
    omega
  asksByGet := by
    intro request _
    exact ⟨_, (List.append_assoc _ _ _).symm⟩
  starts := by
    intro request made
    rw [((follow_hop endpoint timeout credentials shown served previous url left).first made).1]
  redirected := by
    intro k first second made next
    obtain ⟨-, rest, suffix, -, hop, same, -, -⟩ := follow_suffix made
    rw [← List.getElem?_drop, same] at next
    cases hop with
    | stalled | missed | unanswered | final | stopped => simp at next
    | redirected _ answers redirects _ =>
      rw [((follow_hop ..).first next).1]
      exact ⟨_, answers, redirects⟩
  concludes := by
    intro k request head made answers isFinal
    obtain ⟨receives, rest, suffix, -, hop, same, -, result⟩ := follow_suffix made
    obtain rfl := hop.of_final receives answers isFinal
    exact ⟨length_of_drop_eq_singleton same, result⟩
  follows := by
    intro k request head target within made answers redirects
    obtain ⟨receives, rest, suffix, rfl, hop, same, -, result⟩ := follow_suffix made
    obtain ⟨stops, failure, rfl⟩ | ⟨left, next, rfl, rfl, web, rfl⟩ :=
      hop.of_redirects receives answers redirects
    · refine .inr ⟨length_of_drop_eq_singleton same, .inl ⟨⟨failure, result⟩, ?_⟩⟩
      intro next network web
      obtain none | foreign := stops
      · omega
      · rw [foreign next network] at web
        contradiction
    · have hop := follow_hop endpoint timeout (carried request.credentials request.url next) shown
        (served + k + 1) (some request.url) next left
      rw [← List.getElem?_drop, same]
      generalize follow endpoint timeout (carried request.credentials request.url next) shown left
        (served + k + 1) (some request.url) next = later at hop same result
      cases others : later.requests with
      | nil =>
        rw [Exchange.after, others] at same
        refine .inr ⟨length_of_drop_eq_singleton same, ?_⟩
        obtain ⟨misses, -, ⟨stalls, waits⟩ | ⟨ends, failure, fails⟩⟩ := hop.of_requests_eq_nil others
        · exact .inr ⟨result.trans waits, next, rfl, web, stalls⟩
        · refine .inl ⟨⟨failure, result.trans fails⟩, ?_⟩
          rintro other ⟨⟩ -
          exact ⟨misses, ends⟩
      | cons second rest =>
        obtain ⟨asked, -⟩ := hop.first (by rw [others, List.getElem?_cons_zero])
        refine .inl ⟨second, ?_, by rw [asked]⟩
        simp [Exchange.after, others]
  limited := by
    intro request head target made answers redirects
    obtain ⟨receives, rest, suffix, total, hop, -, -, result⟩ := follow_suffix made
    obtain ⟨-, failure, rfl⟩ | ⟨left, next, rfl, -⟩ := hop.of_redirects receives answers redirects
    · exact ⟨failure, result⟩
    · omega
  breaksOff := by
    intro k request made unanswered
    obtain ⟨receives, rest, suffix, -, hop, same, connections, result⟩ := follow_suffix made
    obtain ⟨failure, rfl⟩ := hop.of_unanswered receives unanswered
    exact ⟨length_of_drop_eq_singleton same, connections, failure, result⟩
  answered := by
    intro status result
    obtain ⟨-, failure, fails⟩ | ⟨-, waits, -⟩ |
      ⟨-, k, request, head, length, made, answers, isFinal, result'⟩ :=
      follow_end endpoint timeout credentials shown left served previous url
    · cases result.symm.trans fails
    · cases result.symm.trans waits
    · rw [result, Option.some.injEq, Except.ok.injEq] at result'
      exact ⟨k, request, head, length, made, answers, result'.symm, isFinal⟩
  waits := by
    intro result
    obtain ⟨-, failure, fails⟩ | ⟨surplus, -, stalls⟩ | ⟨-, _, _, _, -, -, -, -, result'⟩ :=
      follow_end endpoint timeout credentials shown left served previous url
    · cases result.symm.trans fails
    · exact ⟨surplus, stalls⟩
    · cases result.symm.trans result'
  connections := by
    obtain ⟨exact | surplus, failure, fails⟩ | ⟨surplus, waits, -⟩ | ⟨exact, -⟩ :=
      follow_end endpoint timeout credentials shown left served previous url
    · exact .inl exact
    · exact .inr ⟨surplus, by simp [fails]⟩
    · exact .inr ⟨surplus, by simp [waits]⟩
    · exact .inl exact

/-! ## The final status -/

/-- An exchange is disciplined: it is a chain, or nothing is sent at all. -/
theorem exchange_disciplined (endpoint : Endpoint) (served : Nat) (timeout : Option Nat) (url : Url) :
    Disciplined endpoint timeout maxRedirects served (withoutCredentials url)
      (exchange endpoint served timeout url) := by
  unfold exchange
  dsimp only
  split
  · exact .unsent
  · split
    · exact .unsent
    · exact follow_disciplined ..

/-- An exchange that makes a request is a chain. -/
theorem exchange_eq_follow {endpoint : Endpoint} {served : Nat} {timeout : Option Nat} {url : Url}
    (some : (exchange endpoint served timeout url).requests ≠ []) :
    exchange endpoint served timeout url =
      follow endpoint timeout (Credentials.ofUrl? url) (withoutCredentials url).render maxRedirects served none
        (withoutCredentials url) := by
  unfold exchange at some ⊢
  dsimp only at some ⊢
  split_ifs at some ⊢
  · exact absurd rfl some
  · exact absurd rfl some
  · rfl

/-- Requests are received where the endpoint listens. -/
theorem listens_of_mem_exchange {endpoint : Endpoint} {served : Nat} {timeout : Option Nat} {url : Url}
    {request : Request} (member : request ∈ (exchange endpoint served timeout url).requests) :
    endpoint.listens (Place.of request.url) = true := by
  rw [exchange_eq_follow (List.ne_nil_of_mem member)] at member
  obtain ⟨k, made⟩ := List.mem_iff_getElem?.mp member
  obtain ⟨receives, -⟩ := follow_suffix made
  exact receives.1

end ReleaseTrigger.Http
