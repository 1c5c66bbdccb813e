import ReleaseTrigger.Proofs.Parameters
import ReleaseTrigger.Session
import Mathlib.Data.List.Induction

/-! # The history of a session

A step sets the URL, sets the parameters, appends the parameters to the URL, or fails and changes
nothing. So a session remembers of its steps only those that succeeded: the job URL that was set last, with
the parameters at the end of its query that were current whenever they have been applied since.
-/

namespace ReleaseTrigger

namespace SessionStep

/-- The job URL that a step sets, in whatever session it is taken. -/
def base? : SessionStep → Option Url
  | .base value => (parseJobUrl value).toOption
  | _ => none

/-- The parameters that a step sets, in whatever session it is taken. -/
def parameters? : SessionStep → Option Parameters
  | .parameters token buildRef imageTag => (Parameters.resolve token buildRef imageTag).toOption
  | _ => none

theorem base?_eq_none_of_parseJobUrl {value : Text} {reason : JobUrlError}
    (rejected : parseJobUrl value = .error reason) : (base value).base? = none := by
  rw [base?, rejected]
  rfl

theorem parameters?_eq_some_of_resolve {token buildRef : Text} {imageTag : Option Text} {given : Parameters}
    (resolved : Parameters.resolve token buildRef imageTag = .ok given) :
    (parameters token buildRef imageTag).parameters? = some given := by
  rw [parameters?, resolved]
  rfl

theorem parameters?_eq_none_of_resolve {token buildRef : Text} {imageTag : Option Text}
    {reason : UnresolvableReference}
    (unresolved : Parameters.resolve token buildRef imageTag = .error reason) :
    (parameters token buildRef imageTag).parameters? = none := by
  rw [parameters?, unresolved]
  rfl

end SessionStep

namespace Session

/-! ## One step -/

/-- What the answer to a step can be. -/
inductive Effect (session : Session) : SessionStep → Answer → Prop
  /-- The step sets the URL. -/
  | sets {value : Text} {url : Url} (accepted : parseJobUrl value = .ok url) :
      Effect session (.base value) ⟨{ session with url := some url }, none⟩
  /-- The step sets the parameters. -/
  | resolves {token buildRef : Text} {imageTag : Option Text} {parameters : Parameters}
      (resolved : Parameters.resolve token buildRef imageTag = .ok parameters) :
      Effect session (.parameters token buildRef imageTag)
        ⟨{ session with parameters := some parameters }, none⟩
  /-- The step appends the parameters to the URL. -/
  | appends {parameters : Parameters} {url : Url} (current : session.parameters = some parameters)
      (given : session.url = some url) :
      Effect session .apply ⟨{ session with url := some (parameters.addTo url) }, none⟩
  /-- The step fails. -/
  | fails {next : SessionStep} {error : SessionError} (base : next.base? = none)
      (parameters : next.parameters? = none) : Effect session next ⟨session, some error⟩

theorem answer_effect (session : Session) (next : SessionStep) :
    Effect session next (session.answer next) := by
  cases next with
  | base value =>
    cases read : parseJobUrl value with
    | ok url =>
      have answered : session.answer (.base value) = ⟨{ session with url := some url }, none⟩ := by
        simp only [answer, step, read]
      exact answered ▸ .sets read
    | error reason =>
      have answered : session.answer (.base value) = ⟨session, some (.jobUrl reason)⟩ := by
        simp only [answer, step, read]
      exact answered ▸ .fails (SessionStep.base?_eq_none_of_parseJobUrl read) rfl
  | parameters token buildRef imageTag =>
    cases read : Parameters.resolve token buildRef imageTag with
    | ok parameters =>
      have answered : session.answer (.parameters token buildRef imageTag) =
          ⟨{ session with parameters := some parameters }, none⟩ := by
        simp only [answer, step, read]
      exact answered ▸ .resolves read
    | error reason =>
      have answered : session.answer (.parameters token buildRef imageTag) =
          ⟨session, some (.reference reason)⟩ := by
        simp only [answer, step, read]
      exact answered ▸ .fails rfl (SessionStep.parameters?_eq_none_of_resolve read)
  | apply =>
    obtain ⟨url, parameters⟩ := session
    cases parameters with
    | none => exact .fails rfl rfl
    | some parameters =>
      cases url with
      | none => exact .fails rfl rfl
      | some url => exact .appends rfl rfl
  | unknown word => exact .fails rfl rfl

/-- A step that fails changes nothing. -/
theorem session_answer_of_error {session : Session} {next : SessionStep}
    (failed : (session.answer next).error ≠ none) : (session.answer next).session = session := by
  have effect := answer_effect session next
  revert failed effect
  generalize session.answer next = answered
  rintro failed (_ | _ | _ | _)
  · exact absurd rfl failed
  · exact absurd rfl failed
  · exact absurd rfl failed
  · rfl

/-! ## Runs -/

/-- The session after a list of steps. -/
def after (session : Session) (steps : List SessionStep) : Session :=
  steps.foldl (fun current next => (current.answer next).session) session

/-- The steps of a list that succeed. -/
def successful (session : Session) : List SessionStep → List SessionStep
  | [] => []
  | next :: rest =>
    if (session.answer next).error = none then
      next :: successful (session.answer next).session rest
    else successful session rest

/-- The parameters that a list of steps applies: those that are current at each step that succeeds in
applying them. -/
def applied (session : Session) : List SessionStep → List Parameters
  | [] => []
  | next :: rest =>
    (if next = .apply ∧ (session.answer next).error = none then session.parameters.toList else []) ++
      applied (session.answer next).session rest

@[simp] theorem after_nil (session : Session) : session.after [] = session := rfl

@[simp] theorem after_cons (session : Session) (next : SessionStep) (rest : List SessionStep) :
    session.after (next :: rest) = (session.answer next).session.after rest := rfl

theorem after_append (session : Session) (done rest : List SessionStep) :
    session.after (done ++ rest) = (session.after done).after rest := List.foldl_append

theorem length_run (session : Session) (steps : List SessionStep) :
    (session.run steps).length = steps.length := by
  induction steps generalizing session with
  | nil => rfl
  | cons next rest ih => exact congrArg Nat.succ (ih _)

theorem run_append (session : Session) (done rest : List SessionStep) :
    session.run (done ++ rest) = session.run done ++ (session.after done).run rest := by
  induction done generalizing session with
  | nil => rfl
  | cons next done ih => exact congrArg (session.answer next :: ·) (ih _)

theorem applied_append (session : Session) (done rest : List SessionStep) :
    session.applied (done ++ rest) = session.applied done ++ (session.after done).applied rest := by
  induction done generalizing session with
  | nil => rfl
  | cons next done ih =>
    rw [List.cons_append, applied, applied, ih, List.append_assoc]
    rfl

/-- Without the steps that fail, the others are answered as they were, and the session ends where it
ended. -/
theorem run_successful (session : Session) (steps : List SessionStep) :
    session.run (session.successful steps) = (session.run steps).filter (·.error = none) ∧
      session.after (session.successful steps) = session.after steps := by
  induction steps generalizing session with
  | nil => exact ⟨rfl, rfl⟩
  | cons next rest ih =>
    by_cases succeeds : (session.answer next).error = none
    · obtain ⟨answers, last⟩ := ih (session.answer next).session
      rw [successful, if_pos succeeds, run, run, List.filter_cons_of_pos (by simpa using succeeds),
        answers]
      exact ⟨rfl, last⟩
    · obtain ⟨answers, last⟩ := ih session
      rw [successful, if_neg succeeds, run, List.filter_cons_of_neg (by simpa using succeeds),
        after_cons, session_answer_of_error succeeds]
      exact ⟨answers, last⟩

/-! ## Histories -/

/-- The URL is the one that the last step that could set it has set, with the parameters in its query that
have been applied since. -/
def Recounts (steps : List SessionStep) (url : Url) : Prop :=
  ∃ before value base since,
    steps = before ++ .base value :: since ∧ parseJobUrl value = .ok base ∧
      (∀ next ∈ since, next.base? = none) ∧
      { url with query := base.query } = base ∧
      Form.decodePairs (url.query.getD []) =
        Form.decodePairs (base.query.getD []) ++
          ((initial.after (before ++ [.base value])).applied since).flatMap Parameters.pairs

theorem Recounts.of_base {value : Text} {base : Url} (accepted : parseJobUrl value = .ok base)
    (before : List SessionStep) : Recounts (before ++ [.base value]) base :=
  ⟨before, value, base, [], rfl, accepted, nofun, rfl, (List.append_nil _).symm⟩

/-- A further step that sets no URL continues a history, if the URL after it is the one before it with the
parameters that the step applies. -/
theorem Recounts.snoc {steps : List SessionStep} {next : SessionStep} {url url' : Url}
    (history : Recounts steps url) (other : next.base? = none)
    (frame : { url' with query := url.query } = url)
    (extended : Form.decodePairs (url'.query.getD []) =
      Form.decodePairs (url.query.getD []) ++
        ((initial.after steps).applied [next]).flatMap Parameters.pairs) :
    Recounts (steps ++ [next]) url' := by
  obtain ⟨before, value, base, since, rfl, accepted, others, same, pairs⟩ := history
  refine ⟨before, value, base, since ++ [next], by simp, accepted, ?_, ?_, ?_⟩
  · simp only [List.mem_append, List.mem_singleton]
    rintro later (member | rfl)
    · exact others later member
    · exact other
  · rw [← same, ← frame]
  · rw [extended, pairs, applied_append, List.flatMap_append, List.append_assoc, ← after_append,
      List.append_assoc]
    rfl

/-- Whatever has been done, the URL is the last job URL that was set, with the parameters applied since. -/
theorem recounts_after (steps : List SessionStep) {url : Url} (set : (initial.after steps).url = some url) :
    Recounts steps url := by
  induction steps using List.reverseRecOn generalizing url with
  | nil => cases set
  | append_singleton steps next ih =>
    rw [after_append, after_cons, after_nil] at set
    have nothing (others : next ≠ .apply ∨ ((initial.after steps).answer next).error ≠ none) :
        (initial.after steps).applied [next] = [] := by
      rw [applied, if_neg (by tauto)]
      rfl
    have effect := answer_effect (initial.after steps) next
    generalize answered : (initial.after steps).answer next = answer at effect set
    cases effect with
    | sets accepted =>
      cases set
      exact .of_base accepted steps
    | resolves resolved =>
      refine (ih set).snoc rfl rfl ?_
      rw [nothing (.inl nofun)]
      exact (List.append_nil _).symm
    | appends current given =>
      cases set
      refine (ih given).snoc rfl rfl ?_
      rw [applied, if_pos ⟨rfl, congrArg Answer.error answered⟩, current]
      exact Form.decodePairs_appendAll _ _
    | fails base parameters =>
      refine (ih set).snoc base rfl ?_
      rw [nothing (.inr (by rw [answered]; nofun))]
      exact (List.append_nil _).symm

/-- The parameters are those that the last step that could set them has set. -/
theorem parameters_after (steps : List SessionStep) :
    (initial.after steps).parameters = (steps.filterMap SessionStep.parameters?).getLast? := by
  induction steps using List.reverseRecOn with
  | nil => rfl
  | append_singleton steps next ih =>
    rw [after_append, after_cons, after_nil, List.filterMap_append]
    have effect := answer_effect (initial.after steps) next
    generalize (initial.after steps).answer next = answer at effect
    cases effect with
    | sets accepted => exact ih.trans (congrArg List.getLast? (List.append_nil _).symm)
    | resolves resolved =>
      rw [List.filterMap_cons_some (SessionStep.parameters?_eq_some_of_resolve resolved), List.filterMap_nil,
        List.getLast?_concat]
    | appends current given => exact ih.trans (congrArg List.getLast? (List.append_nil _).symm)
    | fails base parameters =>
      rw [List.filterMap_cons_none parameters, List.filterMap_nil, List.append_nil, ih]

/-- What the answers to a list of steps tell about them. There is an answer to each, which holds the session
after the steps up to it, and a step that fails leaves that as it was; so the steps that fail can be left out
without any effect on the answers to the others and on the end. After any number of steps the parameters
are those that were set last; and the URL, once there is one, is the one that was set last, with nothing but
the parameters in its query that were current when they were applied since. -/
theorem run_history (steps : List SessionStep) :
    (initial.run steps).length = steps.length ∧
      (∀ done next rest, steps = done ++ next :: rest →
        (initial.run steps)[done.length]? = some ((initial.after done).answer next) ∧
          ((initial.after done).answer next).session = initial.after (done ++ [next]) ∧
          (((initial.after done).answer next).error ≠ none →
            initial.after (done ++ [next]) = initial.after done)) ∧
      initial.run (initial.successful steps) = (initial.run steps).filter (·.error = none) ∧
      initial.after (initial.successful steps) = initial.after steps ∧
      ∀ done rest, steps = done ++ rest →
        (initial.after done).parameters = (done.filterMap SessionStep.parameters?).getLast? ∧
          ∀ url, (initial.after done).url = some url → Recounts done url := by
  obtain ⟨answers, last⟩ := run_successful initial steps
  refine ⟨length_run initial steps, ?_, answers, last, ?_⟩
  · rintro done next rest rfl
    have reached : initial.after (done ++ [next]) = ((initial.after done).answer next).session :=
      after_append initial done [next]
    refine ⟨?_, reached.symm, fun failed => reached.trans (session_answer_of_error failed)⟩
    rw [run_append, List.getElem?_append_right (Nat.le_of_eq (length_run initial done)), length_run,
      Nat.sub_self]
    rfl
  · intro done rest _
    exact ⟨parameters_after done, fun url set => recounts_after done set⟩

end Session

end ReleaseTrigger
