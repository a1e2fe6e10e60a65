import CacheGate.AccessError

/-!
# What a failure tells the client

A failure of the store or of the worker pool carries a text that says what
went wrong inside. `AccessError.withoutDetail` blanks that text, and nothing
that a client or a metric gets to see changes: neither the status nor the
outcome label nor the message (`AccessError.sent_response`). The text is in
the error report alone, which is not sent.
-/

namespace CacheGate

open Http

/-! ## Failures without their details -/

/-- A failure of a store, without the text that says what went wrong inside it. -/
def StoreError.withoutDetail : StoreError → StoreError
  | .backend _ => .backend ""
  | error => error

/-- Failures of a store that differ in such a text at most. -/
def StoreError.Alike (left right : StoreError) : Prop :=
  left.withoutDetail = right.withoutDetail

namespace AccessError

/-- A failure without the text that says what went wrong inside the store or
the worker pool. -/
def withoutDetail : AccessError → AccessError
  | .store error => .store error.withoutDetail
  | .workerPool _ => .workerPool ""
  | error => error

/-- Failures that differ in such a text at most. -/
def Alike (left right : AccessError) : Prop := left.withoutDetail = right.withoutDetail

variable {left right : AccessError}

theorem Alike.refl (error : AccessError) : error.Alike error := rfl

theorem Alike.store {failure other : StoreError} (alike : failure.Alike other) :
    (AccessError.store failure).Alike (.store other) :=
  congrArg AccessError.store alike

theorem Alike.workerPool (detail other : String) :
    (AccessError.workerPool detail).Alike (.workerPool other) := rfl

/-! ## What does not depend on the details -/

theorem status_withoutDetail (error : AccessError) : error.withoutDetail.status = error.status := by
  cases error with
  | store error => cases error <;> rfl
  | _ => rfl

theorem outcome_withoutDetail (error : AccessError) :
    error.withoutDetail.outcome = error.outcome := by
  cases error with
  | store error => cases error <;> rfl
  | _ => rfl

theorem presentation_withoutDetail (error : AccessError) :
    error.withoutDetail.presentation = error.presentation := by
  cases error with
  | store error => cases error <;> rfl
  | _ => rfl

theorem Alike.outcome_eq (alike : left.Alike right) : left.outcome = right.outcome := by
  rw [← outcome_withoutDetail left, ← outcome_withoutDetail right, alike]

end AccessError

/-! ## Answers to failed requests -/

/-- A response as far as it is sent: all but the error report. -/
def Http.Response.sent (response : Response) : Response := { response with report := none }

theorem Http.Response.sent_eq_iff {left right : Response} : left.sent = right.sent ↔
    left.status = right.status ∧ left.headers = right.headers ∧ left.body = right.body := by
  simp [sent]

/-- Failures that are alike are answered alike. -/
theorem AccessError.Alike.sent_response_eq {left right : AccessError} (alike : left.Alike right) :
    left.response.sent = right.response.sent := by
  have shown (error : AccessError) : error.response.sent =
      ((Response.ofStatus error.withoutDetail.status).diagnostic
        error.withoutDetail.presentation).sent := by
    rw [error.status_withoutDetail, error.presentation_withoutDetail]
    rfl
  rw [shown left, shown right, alike]

end CacheGate
