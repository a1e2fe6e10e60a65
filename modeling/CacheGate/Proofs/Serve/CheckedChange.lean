import CacheGate.Proofs.Handler.Race
import CacheGate.Proofs.Serve.Changing
import CacheGate.Proofs.Serve.ReadTag

/-!
# Conditional changes and the entry they checked

A write or a delete evaluates its conditions on a snapshot and then makes its
change by a second store call. The snapshot is the last call before the
change, but it does not lock anything: what the change meets is the entry that
was checked only if no other client came between the two calls.

`Service.conditional_changes_act_on_checked_entry` states what is guaranteed
for each kind of request under every interleaving: the condition held of the
live entry at the check, and it holds of what the change meets unless another
client put the key in between. The raced requests at the end show that no more
is true.
-/

namespace CacheGate

open Time Http

/-! ## Verdicts -/

/-- A write that may proceed over an entry has no `If-Match` that excludes it. -/
theorem matches_of_evaluateWrite {entry : Entry} {conditions : Conditions} {creating : Bool}
    {header : String} (serves : evaluateWrite (some entry) conditions creating = .serve)
    (conditional : conditions.ifMatch = some header) :
    (EntityTag.of entry.value).matchesHeader header = true := by
  unfold evaluateWrite at serves
  simp only [Conditions.mismatches, conditional, Option.any_some] at serves
  split at serves
  · cases serves
  split at serves
  · cases serves
  split at serves
  case isTrue => cases serves
  case isFalse fits => simpa using fits

/-- A delete that may proceed found an entry, and `If-Match` does not exclude it. -/
theorem matches_of_evaluateDelete {existing : Option Entry} {conditions : Conditions}
    {header : String} (serves : evaluateDelete existing conditions = .serve)
    (conditional : conditions.ifMatch = some header) :
    ∃ entry, existing = some entry ∧
      (EntityTag.of entry.value).matchesHeader header = true := by
  cases existing with
  | none => cases serves
  | some entry =>
    unfold evaluateDelete at serves
    simp only [Conditions.mismatches, conditional, Option.any_some] at serves
    split at serves
    case isTrue => cases serves
    case isFalse fits => exact ⟨entry, rfl, by simpa using fits⟩

/-! ## What a change meets -/

namespace Service

variable {service : Service} {request : Request} {cache raw header : String} {world : World}
  {schedule : List (List Move × List Move)}
  {ran : Handler.Ran Interleaved (Except AccessError Response)}

/-- A write that succeeded looked at the entry, and put the value right after that. -/
theorem WriteCourse.stored_of_succeeds {exchanges : List Exchange}
    {result : Except AccessError Response}
    (course : service.WriteCourse request cache raw exchanges result)
    (found : (answerOf result).status.Succeeds) :
    ∃ (configuration : CacheConfiguration) (existing : Option Entry) (added : NewEntry),
      requestKey request raw = .ok added.key ∧ writtenBody request = .ok added.value ∧
      writtenType request configuration.conversion = .ok added.mediaType ∧
      resolveMetadata request configuration = .ok added.metadata ∧
      evaluateWrite existing (.ofRequest request) (request.method == .post) = .serve ∧
      (answerOf result).status = (if existing.isSome then .ok else .created) ∧
      exchanges = [⟨.configuration service.context cache, .ok configuration⟩,
        ⟨.entry service.context cache added.key, .ok existing⟩,
        ⟨.put request.subject cache added, .ok ()⟩] := by
  cases course with
  | unkeyed => exact (AccessError.not_succeeds_response _ found).elim
  | bodiless => exact (AccessError.not_succeeds_response _ found).elim
  | unknown => exact (AccessError.not_succeeds_response _ found).elim
  | unsettled => exact (AccessError.not_succeeds_response _ found).elim
  | unseen => exact (AccessError.not_succeeds_response _ found).elim
  | @refused _ _ _ _ status response _ _ ends same =>
    have refusal : response.status.Succeeds := found
    rw [same] at refusal
    exact (Verdict.not_succeeds ends refusal).elim
  | failed => exact (AccessError.not_succeeds_response _ found).elim
  | stored keyed filled typed timed serves status =>
    exact ⟨_, _, ⟨_, _, _, _⟩, keyed, filled, typed, timed, serves, status, rfl⟩

/-- A delete that succeeded looked at the entry, and removed it right after that. -/
theorem DeleteCourse.removed_of_succeeds {exchanges : List Exchange}
    {result : Except AccessError Response}
    (course : service.DeleteCourse request cache raw exchanges result)
    (found : (answerOf result).status.Succeeds) :
    ∃ key existing, requestKey request raw = .ok key ∧
      evaluateDelete existing (.ofRequest request) = .serve ∧
      (answerOf result).status = .ok ∧
      exchanges = [⟨.entry service.context cache key, .ok existing⟩,
        ⟨.remove request.subject cache key, .ok true⟩] := by
  cases course with
  | unkeyed => exact (AccessError.not_succeeds_response _ found).elim
  | unseen => exact (AccessError.not_succeeds_response _ found).elim
  | refused _ ends => exact (Verdict.not_succeeds ends found).elim
  | failed => exact (AccessError.not_succeeds_response _ found).elim
  | @removed key existing removed keyed serves =>
    cases removed with
    | false => exact absurd found (by decide)
    | true => exact ⟨key, existing, keyed, serves, rfl, rfl⟩

/-- A write checked a live entry that `header` names, and then put a value. It
overwrites what it checked, or nothing, unless another client puts the key
between the two calls; and if nobody changes the entry there and it does not
expire, it does overwrite it. -/
def OverwritesChecked (service : Service) (request : Request) (cache raw header : String)
    (world : World) (history : List Happening) : Prop :=
  ∃ (key : Key) (added : NewEntry) (checked : StoredEntry)
    (calls : Consecutive history (.entry service.context cache key)
      (.put request.subject cache added)),
    requestKey request raw = .ok key ∧ added.key = key ∧
    (calls.atFirst world).live? cache key.content = some checked ∧
    (EntityTag.of checked.value).matchesHeader header = true ∧
    (calls.NobodyPuts cache key.content → ∀ current,
      (calls.atSecond world).live? cache key.content = some current →
        (EntityTag.of current.value).matchesHeader header = true) ∧
    (calls.NobodyChanges cache key.content →
      (calls.atFirst world).NeverExpires calls.since cache key.content →
        ∃ current, (calls.atSecond world).live? cache key.content = some current ∧
          (EntityTag.of current.value).matchesHeader header = true)

/-- A write found no live entry, and then put a value. It overwrites nothing
unless another client puts the key between the two calls. -/
def CreatesAbsent (service : Service) (request : Request) (cache raw : String)
    (world : World) (history : List Happening) : Prop :=
  ∃ (key : Key) (added : NewEntry)
    (calls : Consecutive history (.entry service.context cache key)
      (.put request.subject cache added)),
    requestKey request raw = .ok key ∧ added.key = key ∧
    (calls.atFirst world).live? cache key.content = none ∧
    (calls.NobodyPuts cache key.content →
      (calls.atSecond world).live? cache key.content = none)

/-- A delete checked a live entry that `header` names, and then removed a live
entry. `header` names that one too unless another client puts the key between
the two calls. -/
def RemovesChecked (service : Service) (request : Request) (cache raw header : String)
    (world : World) (history : List Happening) : Prop :=
  ∃ (key : Key) (checked removed : StoredEntry)
    (calls : Consecutive history (.entry service.context cache key)
      (.remove request.subject cache key)),
    requestKey request raw = .ok key ∧
    (calls.atFirst world).live? cache key.content = some checked ∧
    (EntityTag.of checked.value).matchesHeader header = true ∧
    (calls.atSecond world).live? cache key.content = some removed ∧
    (calls.NobodyPuts cache key.content →
      (EntityTag.of removed.value).matchesHeader header = true)

/-- The snapshot and the put of a write that succeeded. -/
theorem write_calls (run : (service.write request cache raw).run.among world schedule = ran)
    (found : (answerOf ran.value).status.Succeeds) :
    ∃ (existing : Option Entry) (added : NewEntry)
      (calls : Consecutive ran.state.history (.entry service.context cache added.key)
        (.put request.subject cache added)),
      requestKey request raw = .ok added.key ∧
      evaluateWrite existing (.ofRequest request) (request.method == .post) = .serve ∧
      (answerOf ran.value).status = (if existing.isSome then .ok else .created) ∧
      ((calls.atFirst world).live? cache added.key.content).map StoredEntry.snapshot =
        existing := by
  have yields := (service.write request cache raw).run.among_yields world schedule
  rw [run] at yields
  obtain ⟨configuration, existing, added, keyed, -, -, -, serves, status, exchanges⟩ :=
    (write_course yields).stored_of_succeeds found
  have pair : world.exchanges ran.state.history =
      [⟨.configuration service.context cache, .ok configuration⟩] ++
        [⟨.entry service.context cache added.key, .ok existing⟩,
          ⟨.put request.subject cache added, .ok ()⟩] := exchanges
  obtain ⟨calls, -, seen, -, -⟩ := World.exchanges_eq_pair pair
  exact ⟨existing, added, calls, keyed, serves, status, (Memory.answer_entry_eq_ok_iff.1 seen).2⟩

theorem overwritesChecked_of_ok
    (run : (service.write request cache raw).run.among world schedule = ran)
    (conditional : request.header? Field.ifMatch = some header)
    (found : (answerOf ran.value).status = .ok) :
    service.OverwritesChecked request cache raw header world ran.state.history := by
  obtain ⟨existing, added, calls, keyed, serves, status, shown⟩ := write_calls run (Or.inl found)
  have replaced : existing.isSome = true := by
    by_contra absent
    rw [if_neg absent, found] at status
    cases status
  obtain ⟨entry, rfl⟩ := Option.isSome_iff_exists.1 replaced
  obtain ⟨checked, live, rfl⟩ := Option.map_eq_some_iff.1 shown
  have fits := matches_of_evaluateWrite serves conditional
  refine ⟨added.key, added, checked, calls, keyed, rfl, live, fits, ?_, ?_⟩
  · intro others current met
    have same : current.value = checked.value :=
      congrArg Prod.fst (calls.written_eq_of_nobodyPuts rfl live met others)
    rw [same]
    exact fits
  · intro others lasting
    obtain ⟨current, met, written⟩ := calls.live?_of_nobodyChanges rfl live others lasting
    have same : current.value = checked.value := congrArg Prod.fst written
    refine ⟨current, met, ?_⟩
    rw [same]
    exact fits

theorem createsAbsent_of_created
    (run : (service.write request cache raw).run.among world schedule = ran)
    (found : (answerOf ran.value).status = .created) :
    service.CreatesAbsent request cache raw world ran.state.history := by
  obtain ⟨existing, added, calls, keyed, serves, status, shown⟩ := write_calls run (Or.inr found)
  have absent : existing = none := by
    cases existing with
    | none => rfl
    | some entry =>
      rw [found] at status
      cases status
  rw [absent, Option.map_eq_none_iff] at shown
  exact ⟨added.key, added, calls, keyed, rfl, shown, calls.live?_eq_none_of_nobodyPuts shown⟩

theorem removesChecked_of_ok
    (run : (service.delete request cache raw).run.among world schedule = ran)
    (conditional : request.header? Field.ifMatch = some header)
    (found : (answerOf ran.value).status = .ok) :
    service.RemovesChecked request cache raw header world ran.state.history := by
  have yields := (service.delete request cache raw).run.among_yields world schedule
  rw [run] at yields
  obtain ⟨key, existing, keyed, serves, -, exchanges⟩ :=
    (delete_course yields).removed_of_succeeds (Or.inl found)
  have pair : world.exchanges ran.state.history =
      [] ++ [⟨.entry service.context cache key, .ok existing⟩,
        ⟨.remove request.subject cache key, .ok true⟩] := exchanges
  obtain ⟨calls, -, seen, answered, -⟩ := World.exchanges_eq_pair pair
  obtain ⟨-, shown⟩ := Memory.answer_entry_eq_ok_iff.1 seen
  obtain ⟨entry, rfl, fits⟩ := matches_of_evaluateDelete serves conditional
  obtain ⟨checked, live, rfl⟩ := Option.map_eq_some_iff.1 shown
  obtain ⟨removed, met⟩ := Memory.live?_of_answer_remove answered
  refine ⟨key, checked, removed, calls, keyed, live, fits, met, fun others => ?_⟩
  have same : removed.value = checked.value :=
    congrArg Prod.fst (calls.written_eq_of_nobodyPuts rfl live met others)
  rw [same]
  exact fits

/-- What conditional changes guarantee under every interleaving with other
clients: a write with `If-Match` that is answered 200, a write that is answered
201, and a delete with `If-Match` that is answered 200. -/
theorem conditional_changes_act_on_checked_entry (service : Service) (request : Request)
    (cache raw : String) (world : World) (schedule : List (List Move × List Move))
    (ran : Handler.Ran Interleaved (Except AccessError Response)) :
    ((service.write request cache raw).run.among world schedule = ran →
      (∀ header, request.header? Field.ifMatch = some header →
        (answerOf ran.value).status = .ok →
          service.OverwritesChecked request cache raw header world ran.state.history) ∧
      ((answerOf ran.value).status = .created →
        service.CreatesAbsent request cache raw world ran.state.history)) ∧
    ((service.delete request cache raw).run.among world schedule = ran →
      ∀ header, request.header? Field.ifMatch = some header →
        (answerOf ran.value).status = .ok →
          service.RemovesChecked request cache raw header world ran.state.history) :=
  ⟨fun run => ⟨fun _ => overwritesChecked_of_ok run, createsAbsent_of_created run⟩,
    fun run _ => removesChecked_of_ok run⟩

end Service

/-! ## Races -/

/-- A request on the entry `c/k` that is guarded by the tag of `v1`. -/
def guarded (method : Method) : Request :=
  { (Request.of method "c/k").withHeader Field.ifMatch (EntityTag.of (Utf8.encode "v1")).text with
    body := some (Utf8.encode "v3") }

/-- A guarded PUT over an entry that holds `v1`. -/
def guardedPut (schedule : List (List Move × List Move)) :
    Handler.Ran Interleaved (Except AccessError Response) :=
  (plainService.write (guarded .put) "c" "k").run.among (emptyWorld.perform (rivalPut "v1")) schedule

/-- A POST where there is no entry. -/
def creatingPost (schedule : List (List Move × List Move)) :
    Handler.Ran Interleaved (Except AccessError Response) :=
  (plainService.write (guarded .post) "c" "k").run.among emptyWorld schedule

/-- A guarded DELETE of an entry that holds `v1`. -/
def guardedDelete (schedule : List (List Move × List Move)) :
    Handler.Ran Interleaved (Except AccessError Response) :=
  (plainService.delete (guarded .delete) "c" "k").run.among (emptyWorld.perform (rivalPut "v1"))
    schedule

/-- Another client puts a value under another key. -/
def bystanderPut : Call :=
  .put (.named "rival") "c" ⟨⟨Utf8.encode "j", .textPlain⟩, Utf8.encode "v2", .textPlain,
    ⟨.unlimited, .unlimited⟩⟩

/-- It does so just before the call that comes after so many others. -/
def lateBystander (calls : Nat) : List (List Move × List Move) :=
  List.replicate calls ([], []) ++ [([.call bystanderPut], [])]

/-- What happened right before the last call of a handler, if nothing happened after it. -/
def beforeLast? (history : List Happening) : Option Happening := history.dropLast.getLast?

/-- While another client puts another key between the check and the change, all
three succeed, and what they checked is guaranteed. -/
theorem guarded_changes_act_on_checked_entry :
    (plainService.OverwritesChecked (guarded .put) "c" "k" (EntityTag.of (Utf8.encode "v1")).text
      (emptyWorld.perform (rivalPut "v1")) (guardedPut (lateBystander 2)).state.history ∧
    plainService.CreatesAbsent (guarded .post) "c" "k" emptyWorld
      (creatingPost (lateBystander 2)).state.history ∧
    plainService.RemovesChecked (guarded .delete) "c" "k" (EntityTag.of (Utf8.encode "v1")).text
      (emptyWorld.perform (rivalPut "v1")) (guardedDelete (lateBystander 1)).state.history) ∧
    beforeLast? (guardedPut (lateBystander 2)).state.history = some (.move (.call bystanderPut)) ∧
    beforeLast? (creatingPost (lateBystander 2)).state.history =
      some (.move (.call bystanderPut)) ∧
    beforeLast? (guardedDelete (lateBystander 1)).state.history =
      some (.move (.call bystanderPut)) := by
  refine ⟨⟨?_, ?_, ?_⟩, by decide +kernel, by decide +kernel, by decide +kernel⟩
  · exact ((Service.conditional_changes_act_on_checked_entry _ _ _ _ _ _ _).1 rfl).1 _
      (by decide +kernel) (by decide +kernel)
  · exact ((Service.conditional_changes_act_on_checked_entry _ _ _ _ _ _ _).1 rfl).2
      (by decide +kernel)
  · exact (Service.conditional_changes_act_on_checked_entry _ _ _ _ _ _ _).2 rfl _
      (by decide +kernel) (by decide +kernel)

/-- Another client puts `v2` just before the call that comes after so many others. -/
def lateRival (calls : Nat) : List (List Move × List Move) :=
  List.replicate calls ([], []) ++ [([.call (rivalPut "v2")], [])]

/-- The last call of a handler, if nothing happened after it. -/
def lastOwn? (history : List Happening) : Option Call :=
  match history.getLast? with
  | some (.own call) => some call
  | _ => none

/-- A request was answered with this status, and its change of `c/k` met an
entry that holds `v2`. -/
def ChangesRivalEntry (world : World) (status : Status)
    (ran : Handler.Ran Interleaved (Except AccessError Response)) : Prop :=
  (answerOf ran.value).status = status ∧
  (lastOwn? ran.state.history).any (·.changes "c" (Utf8.encode "k")) = true ∧
  ((world.after ran.state.history.dropLast).live? "c" (Utf8.encode "k")).map (·.value) =
    some (Utf8.encode "v2")

instance (world : World) (status : Status)
    (ran : Handler.Ran Interleaved (Except AccessError Response)) :
    Decidable (ChangesRivalEntry world status ran) :=
  inferInstanceAs (Decidable (_ ∧ _ ∧ _))

/-- Two POSTs of one absent key, both of which look at it before either puts it. -/
def racingPosts : World × Except AccessError Response × Except AccessError Response :=
  Handler.race [.first, .first, .second, .second]
    (plainService.write (guarded .post) "c" "k").run
    (plainService.write (guarded .post) "c" "k").run emptyWorld

/-- When another client puts `v2` between the snapshot and the change, the
change is made all the same: the PUT overwrites and the DELETE removes an entry
that `If-Match` excludes, and the POST overwrites an entry. So two POSTs may
both create one entry. -/
theorem raced_changes_miss_checked_entry :
    ChangesRivalEntry (emptyWorld.perform (rivalPut "v1")) .ok (guardedPut (lateRival 2)) ∧
    ChangesRivalEntry emptyWorld .created (creatingPost (lateRival 2)) ∧
    ChangesRivalEntry (emptyWorld.perform (rivalPut "v1")) .ok (guardedDelete (lateRival 1)) ∧
    (EntityTag.of (Utf8.encode "v2")).matchesHeader (EntityTag.of (Utf8.encode "v1")).text =
      false ∧
    (answerOf racingPosts.2.1).status = .created ∧
    (answerOf racingPosts.2.2).status = .created := by
  decide +kernel

end CacheGate
