import Mathlib.Control.Monad.Basic
import ReleaseTrigger.Proofs.Http.Redirects
import ReleaseTrigger.Trigger

/-! # The requests of a trigger

Triggering is one exchange for the job URL with the parameters in its query, so it keeps to the
discipline of exchanges, with ten redirects at most.
-/

namespace ReleaseTrigger

section

variable (settings : Settings) (parameters : Parameters) (endpoint : Http.Endpoint) (served : Nat)

theorem trigger_requests :
    (trigger settings parameters endpoint served).requests =
      (Http.exchange endpoint served settings.timeout (parameters.addTo settings.jobUrl)).requests := by
  unfold trigger
  dsimp only
  split <;> rfl

theorem trigger_served :
    (trigger settings parameters endpoint served).served =
      (Http.exchange endpoint served settings.timeout (parameters.addTo settings.jobUrl)).served := by
  unfold trigger
  dsimp only
  split <;> rfl

/-- The outcome holds the URL that was asked for first and the status that the exchange ended in. -/
theorem trigger_result :
    (trigger settings parameters endpoint served).result =
      (Http.exchange endpoint served settings.timeout (parameters.addTo settings.jobUrl)).result.map
        (·.map (⟨parameters.addTo settings.jobUrl, ·⟩)) := by
  unfold trigger
  dsimp only
  split <;> rename_i result <;> rw [result] <;> rfl

theorem trigger_entries_of_no_outcome
    (fails : ∀ outcome, (trigger settings parameters endpoint served).result ≠ some (.ok outcome)) :
    (trigger settings parameters endpoint served).entries =
      announcement (parameters.addTo settings.jobUrl) := by
  unfold trigger at fails ⊢
  dsimp only at fails ⊢
  split
  · rfl
  · rfl
  · rename_i status result
    simp [result] at fails

theorem trigger_entries_of_ok {outcome : Outcome}
    (answers : (trigger settings parameters endpoint served).result = some (.ok outcome)) :
    (trigger settings parameters endpoint served).entries =
      announcement (parameters.addTo settings.jobUrl) ++ outcome.entries := by
  unfold trigger at answers ⊢
  dsimp only at answers ⊢
  split at answers
  · cases answers
  · cases answers
  · cases answers
    rfl

theorem disciplined_of_trigger :
    Http.Disciplined endpoint settings.timeout 10 served
      (Http.withoutCredentials (parameters.addTo settings.jobUrl))
      ⟨(trigger settings parameters endpoint served).requests,
        (trigger settings parameters endpoint served).served,
        (trigger settings parameters endpoint served).result.map (·.map Outcome.status)⟩ := by
  have result : (trigger settings parameters endpoint served).result.map (·.map Outcome.status) =
      (Http.exchange endpoint served settings.timeout (parameters.addTo settings.jobUrl)).result := by
    rw [trigger_result]
    rcases (Http.exchange endpoint served settings.timeout (parameters.addTo settings.jobUrl)).result with
      _ | _ | _ <;> rfl
  have disciplined :=
    Http.exchange_disciplined endpoint served settings.timeout (parameters.addTo settings.jobUrl)
  rw [result, trigger_requests, trigger_served]
  generalize Http.exchange endpoint served settings.timeout _ = exchange at disciplined ⊢
  exact disciplined

end

end ReleaseTrigger
