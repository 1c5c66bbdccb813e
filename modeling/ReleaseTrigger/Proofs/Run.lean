import ReleaseTrigger.Proofs.CommandLine.Grammar
import ReleaseTrigger.Proofs.Parameters
import ReleaseTrigger.Proofs.Trigger
import ReleaseTrigger.Run

/-! # Exit codes

A run can end in six ways, each of which has its exit code: before anything is asked for because the
command line leads to no arguments or no tag can be derived, or after the trigger, in a failure or with
a status. Nothing is sent in the former case. Without a time limit there is a seventh course: a run that
waits for a reply that never comes has no exit code.
-/

namespace ReleaseTrigger

/-! ## Executing arguments -/

section

variable {accepted : CommandLine.Arguments} {parameters : Parameters} {endpoint : Http.Endpoint}

theorem execute_unresolved {error : UnresolvableReference} (fails : accepted.resolve = .error error) :
    execute accepted endpoint = ⟨[], [], some (.error (.parameters error))⟩ := by
  simp only [execute, fails]

theorem execute_waiting (resolves : accepted.resolve = .ok parameters)
    (waits : (trigger accepted.settings parameters endpoint 0).result = none) :
    execute accepted endpoint =
      ⟨parameters.entry :: (trigger accepted.settings parameters endpoint 0).entries,
        (trigger accepted.settings parameters endpoint 0).requests, none⟩ := by
  simp only [execute, resolves, waits]

theorem execute_failed (resolves : accepted.resolve = .ok parameters) {failure : Http.Failure}
    (fails : (trigger accepted.settings parameters endpoint 0).result = some (.error failure)) :
    execute accepted endpoint =
      ⟨parameters.entry :: (trigger accepted.settings parameters endpoint 0).entries,
        (trigger accepted.settings parameters endpoint 0).requests, some (.error (.request failure))⟩ := by
  simp only [execute, resolves, fails]

theorem execute_answered (resolves : accepted.resolve = .ok parameters) {outcome : Outcome}
    (answers : (trigger accepted.settings parameters endpoint 0).result = some (.ok outcome)) :
    execute accepted endpoint =
      ⟨parameters.entry :: (trigger accepted.settings parameters endpoint 0).entries ++
          [outcome.conclusion.1],
        (trigger accepted.settings parameters endpoint 0).requests, some (.ok outcome.conclusion.2)⟩ := by
  simp only [execute, resolves, answers]

end

theorem Outcome.number_conclusion (outcome : Outcome) :
    outcome.conclusion.2.number = if outcome.isSuccess then 0 else 1 := by
  unfold Outcome.conclusion Outcome.result
  cases outcome.isSuccess <;> rfl

/-! ## Running the program -/

section

variable {environment : Environment} {arguments : List Octets} {accepted : CommandLine.Arguments}
  {endpoint : Http.Endpoint} {time : Text}
  (accepts : CommandLine.parse environment arguments = .ok accepted)

include accepts

theorem run_of_unresolved {error : UnresolvableReference} (fails : accepted.resolve = .error error) :
    run environment arguments endpoint time = ⟨some 1, [], (RunError.parameters error).report, []⟩ := by
  simp only [run, accepts, execute_unresolved fails]
  rfl

theorem run_of_waiting {parameters : Parameters} (resolves : accepted.resolve = .ok parameters)
    (waits : (trigger accepted.settings parameters endpoint 0).result = none) :
    run environment arguments endpoint time = ⟨none, [],
      Entry.renderAll (environment.display accepted.verbose time)
        (parameters.entry :: announcement (parameters.addTo accepted.jobUrl)),
      (trigger accepted.settings parameters endpoint 0).requests⟩ := by
  have entries := trigger_entries_of_no_outcome accepted.settings parameters endpoint 0 (by simp [waits])
  simp only [run, accepts, execute_waiting resolves waits, entries]
  rfl

theorem run_of_failed {parameters : Parameters} (resolves : accepted.resolve = .ok parameters)
    {failure : Http.Failure}
    (fails : (trigger accepted.settings parameters endpoint 0).result = some (.error failure)) :
    run environment arguments endpoint time = ⟨some 1, [],
      Entry.renderAll (environment.display accepted.verbose time)
          (parameters.entry :: announcement (parameters.addTo accepted.jobUrl)) ++
        (RunError.request failure).report,
      (trigger accepted.settings parameters endpoint 0).requests⟩ := by
  have entries := trigger_entries_of_no_outcome accepted.settings parameters endpoint 0 (by simp [fails])
  simp only [run, accepts, execute_failed resolves fails, entries]
  rfl

theorem run_of_answered {parameters : Parameters} (resolves : accepted.resolve = .ok parameters)
    {outcome : Outcome}
    (answers : (trigger accepted.settings parameters endpoint 0).result = some (.ok outcome)) :
    run environment arguments endpoint time = ⟨some (if outcome.isSuccess then 0 else 1), [],
      Entry.renderAll (environment.display accepted.verbose time)
        (parameters.entry :: (announcement (parameters.addTo accepted.jobUrl) ++
          (outcome.entries ++ [outcome.conclusion.1]))),
      (trigger accepted.settings parameters endpoint 0).requests⟩ := by
  simp only [run, accepts, execute_answered resolves answers, trigger_entries_of_ok _ _ _ _ answers,
    Outcome.number_conclusion, List.cons_append, List.append_assoc]
  rfl

end

/-! ## Endings -/

section

variable (environment : Environment) (arguments : List Octets) (endpoint : Http.Endpoint)

/-- How a run ends, with the exit code and the requests that were received, or how it goes on for ever. -/
inductive Ending : Option Nat → List Http.Request → Prop
  /-- Help or the version is shown. -/
  | shown (asks : CommandLine.parse environment arguments = .error .help ∨
      CommandLine.parse environment arguments = .error .version) : Ending (some 0) []
  /-- The command line is refused. -/
  | refused {error : CommandLine.UsageError}
      (stops : CommandLine.parse environment arguments = .error (.usage error)) : Ending (some 2) []
  /-- No tag can be derived. -/
  | unresolved {accepted : CommandLine.Arguments} {error : UnresolvableReference}
      (accepts : CommandLine.parse environment arguments = .ok accepted)
      (fails : accepted.resolve = .error error) : Ending (some 1) []
  /-- A reply never comes, and there is no limit to the wait. -/
  | waiting {accepted : CommandLine.Arguments} {parameters : Parameters}
      (accepts : CommandLine.parse environment arguments = .ok accepted)
      (resolves : accepted.resolve = .ok parameters)
      (waits : (trigger accepted.settings parameters endpoint 0).result = none) :
      Ending none (trigger accepted.settings parameters endpoint 0).requests
  /-- The request fails. -/
  | failed {accepted : CommandLine.Arguments} {parameters : Parameters} {failure : Http.Failure}
      (accepts : CommandLine.parse environment arguments = .ok accepted)
      (resolves : accepted.resolve = .ok parameters)
      (fails : (trigger accepted.settings parameters endpoint 0).result = some (.error failure)) :
      Ending (some 1) (trigger accepted.settings parameters endpoint 0).requests
  /-- The build is queued. -/
  | queued {accepted : CommandLine.Arguments} {parameters : Parameters} {outcome : Outcome}
      (accepts : CommandLine.parse environment arguments = .ok accepted)
      (resolves : accepted.resolve = .ok parameters)
      (answers : (trigger accepted.settings parameters endpoint 0).result = some (.ok outcome))
      (success : outcome.isSuccess = true) :
      Ending (some 0) (trigger accepted.settings parameters endpoint 0).requests
  /-- The endpoint rejects the build. -/
  | rejected {accepted : CommandLine.Arguments} {parameters : Parameters} {outcome : Outcome}
      (accepts : CommandLine.parse environment arguments = .ok accepted)
      (resolves : accepted.resolve = .ok parameters)
      (answers : (trigger accepted.settings parameters endpoint 0).result = some (.ok outcome))
      (failure : outcome.isSuccess = false) :
      Ending (some 1) (trigger accepted.settings parameters endpoint 0).requests

end

/-- Parameters do not resolve exactly if no tag is asked for and the reference is empty or ends in a
slash. -/
theorem CommandLine.Arguments.resolve_eq_error_iff {arguments : CommandLine.Arguments} :
    (∃ error, arguments.resolve = .error error) ↔
      arguments.imageTag = none ∧
        (arguments.buildRef = [] ∨ arguments.buildRef.getLast? = some '/') := by
  simp only [CommandLine.Arguments.resolve, Parameters.resolve_eq_error_iff,
    Parameters.resolveTag_eq_error_iff]
  constructor
  · rintro ⟨error, absent, -, underivable⟩
    exact ⟨absent, underivable⟩
  · rintro ⟨absent, underivable⟩
    exact ⟨_, absent, rfl, underivable⟩

namespace Ending

variable {environment : Environment} {arguments : List Octets} {endpoint : Http.Endpoint}
  {code : Option Nat} {requests : List Http.Request}

/-- A run ends in one way only. -/
theorem unique {code' : Option Nat} {requests' : List Http.Request}
    (ending : Ending environment arguments endpoint code requests)
    (other : Ending environment arguments endpoint code' requests') :
    code = code' ∧ requests = requests' := by
  cases ending <;> cases other <;> simp_all

end Ending

/-! ## Exit codes -/

end ReleaseTrigger
