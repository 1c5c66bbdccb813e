import ReleaseTrigger.Http.Reply
import ReleaseTrigger.Proofs.Http.Head

/-! # What an answer shows

An answer that is put together from its parts is a written head and a body. What it carries as the final
head is its own status with its own headers, and nothing else.
-/

namespace ReleaseTrigger.Http

/-- A text has one final head at most. -/
theorem Carries.unique {text : Text} {head other : Head} (carries : Carries text head)
    (others : Carries text other) : head = other := by
  rw [← finalHead_eq_ok_iff] at carries others
  exact Except.ok.inj (carries.symm.trans others)

namespace Answer

/-- A head has the status and the headers of an answer. -/
structure Shows (answer : Answer) (head : Head) : Prop where
  isCurrent : head.isCurrent = true
  status : head.status.code = answer.status
  headers : head.headers =
    answer.allHeaders.map fun header => (Text.lower header.1, Text.trim isPadding header.2)

variable {answer : Answer}

/-- No two heads show the same answer. -/
theorem Shows.unique {head other : Head} (shown : answer.Shows head) (others : answer.Shows other) :
    head = other := by
  obtain ⟨isCurrent, ⟨code, bounds⟩, headers⟩ := head
  obtain ⟨isCurrent', ⟨code', bounds'⟩, headers'⟩ := other
  obtain ⟨rfl, rfl, rfl⟩ := shown
  obtain ⟨rfl, rfl, rfl⟩ := others
  rfl

end Answer

end ReleaseTrigger.Http
