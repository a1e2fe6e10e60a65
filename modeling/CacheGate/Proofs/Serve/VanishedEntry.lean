import CacheGate.Proofs.Serve.ReadTag

/-!
# Reads that last saw no entry

A read looks for its entry up to seven times: in a first snapshot, and in each
of three attempts in the audited read of the value and in the snapshot after
it. Other clients may take the entry away before any of them.

`Service.status_of_vanished_entry`: when the last look finds nothing, the read
is answered 404, unless it had fetched the value on the third attempt already.
Then it is given up, with a failure of the service.
-/

namespace CacheGate

open Time Http

namespace Exchange

/-- Whether a look for an entry, audited or not, found it. -/
def found? : Exchange → Option Bool
  | ⟨.get .., .ok value⟩ => some value.isSome
  | ⟨.entry .., .ok snapshot⟩ => some snapshot.isSome
  | _ => none

/-- An audited read that got a value. -/
def fetches : Exchange → Bool
  | ⟨.get .., .ok (some _)⟩ => true
  | _ => false

end Exchange

/-- The last look for an entry, if there was any, found nothing. -/
def EndsUnseen (exchanges : List Exchange) : Prop :=
  (exchanges.filterMap Exchange.found?).getLast? = some false

instance (exchanges : List Exchange) : Decidable (EndsUnseen exchanges) :=
  inferInstanceAs (Decidable (_ = _))

/-! ## The evaluation of a snapshot -/

namespace ReadPlan

variable {plan : ReadPlan} {service : Service} {entry : Entry} {now : Instant}
  {media : MediaType} {value : Bytes} {exchanges : List Exchange} {remaining : Nat}
  {snapshot : Option Entry} {result : Except AccessError Response}

/-- Placements are no looks for the entry. -/
theorem Reply.filterMap_found?
    (reply : plan.Reply service entry now media value exchanges result) :
    exchanges.filterMap Exchange.found? = [] := by
  refine List.filterMap_eq_nil_iff.2 fun exchange member => ?_
  cases reply with
  | unplaced => rw [List.mem_singleton.1 member]; rfl
  | complete placing =>
    obtain ⟨placement, rfl⟩ := placing exchange member
    rfl

/-- What becomes of a snapshot if it, or the last look after it, shows no entry. -/
theorem Course.vanished (course : plan.Course service remaining snapshot exchanges result)
    (succeeded : ∀ exchange ∈ exchanges, exchange.Succeeded)
    (unseen : (snapshot.isSome :: exchanges.filterMap Exchange.found?).getLast? = some false) :
    if exchanges.countP Exchange.fetches < remaining then result = .ok (.ofStatus .notFound)
    else (answerOf result).status = .internalServerError := by
  induction course with
  | exhausted => rfl
  | absent => rfl
  | gone => rfl
  | refused | unsettled => simp at unseen
  | failed => cases succeeded _ List.mem_cons_self
  | unconfirmed => cases succeeded _ (List.mem_cons_of_mem _ List.mem_cons_self)
  | served _ _ _ reply =>
    change (true :: true :: true :: List.filterMap Exchange.found? _).getLast? = _ at unseen
    rw [reply.filterMap_found?] at unseen
    cases unseen
  | @moved remaining _ _ _ snapshot rest _ _ _ _ ih =>
    -- the next attempt starts from the snapshot that this one ends with
    change (true :: true :: snapshot.isSome :: rest.filterMap Exchange.found?).getLast? = _
      at unseen
    rw [List.getLast?_cons_cons, List.getLast?_cons_cons] at unseen
    have told := ih (fun exchange member =>
      succeeded exchange (List.mem_cons_of_mem _ (List.mem_cons_of_mem _ member))) unseen
    rw [List.countP_cons_of_pos rfl, List.countP_cons_of_neg Bool.false_ne_true]
    simpa only [Nat.add_lt_add_iff_right] using told

end ReadPlan

/-! ## Reads -/

/-- What a read answers that last saw no entry.

However a store answers, as long as no call fails, and so for every schedule of
what other clients do in between: if the last look of the read for its entry,
the audited one or a snapshot, finds nothing, then the answer is a bare 404,
except that it is 500 once the value was fetched on each attempt. So an entry
that vanishes after the third fetch is not told apart from one that keeps
changing, while after the first and the second fetch it is. -/
theorem Service.status_of_vanished_entry (service : Service) (request : Request)
    (cache raw : String) (exchanges : List Exchange) (result : Except AccessError Response)
    (run : (service.read request cache raw).run.Yields exchanges result)
    (succeeded : ∀ exchange ∈ exchanges, exchange.Succeeded) (unseen : EndsUnseen exchanges) :
    if exchanges.countP Exchange.fetches < readAttempts then result = .ok (.ofStatus .notFound)
    else (answerOf result).status = .internalServerError := by
  cases Service.read_course run with
  | unkeyed | unknown | unacceptable | unseen => cases unseen
  | evaluated _ _ course =>
    exact course.vanished (fun exchange member =>
      succeeded exchange (List.mem_cons_of_mem _ (List.mem_cons_of_mem _ member))) unseen

/-! ## An entry that vanishes on the third attempt -/

/-- Another client removes the key `k` of the cache `c`. -/
def rivalRemove : Call :=
  .remove (.named "rival") "c" ⟨Utf8.encode "k", .textPlain⟩

/-- A read of an entry that changes before the first and the second fetch, and
is removed after the third one. -/
def vanishedRead : Handler.Ran Interleaved (Except AccessError Response) :=
  (plainService.read (.of .get "c/k") "c" "k").run.among (emptyWorld.perform (rivalPut "v1"))
    [([], []), ([], []), ([.call (rivalPut "v2")], []), ([], []), ([.call (rivalPut "v3")], []),
      ([], []), ([], []), ([.call rivalRemove], [])]

/-- The store calls of that read. -/
def vanishedReadCalls : List Exchange :=
  (emptyWorld.perform (rivalPut "v1")).exchanges vanishedRead.state.history

/-- The removed entry is not answered 404. -/
theorem Service.entry_vanished_on_third_attempt_fails :
    vanishedReadCalls.length = 8 ∧ (∀ exchange ∈ vanishedReadCalls, exchange.Succeeded) ∧
      EndsUnseen vanishedReadCalls ∧
      (answerOf vanishedRead.value).status = .internalServerError := by
  have succeeded : ∀ exchange ∈ vanishedReadCalls, exchange.Succeeded := by decide +kernel
  have unseen : EndsUnseen vanishedReadCalls := by decide +kernel
  have told := Service.status_of_vanished_entry _ _ _ _ vanishedReadCalls vanishedRead.value
    (Handler.among_yields _ _ _) succeeded unseen
  rw [if_neg (by decide +kernel)] at told
  exact ⟨by decide +kernel, succeeded, unseen, told⟩

end CacheGate
