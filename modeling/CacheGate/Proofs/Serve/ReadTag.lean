import CacheGate.Proofs.Handler.Aftermath
import CacheGate.Proofs.Serve.Reading

/-!
# The tag and the body of a read

A read takes its body from an audited read of the value and its tag from
snapshots of the entry, one before and one after. The snapshots have equal
tags, but other clients may write the entry between the first one and the
audited read and write it back before the second one, and then the answer
states the tag of a value that it does not carry.

`Service.read_tag_describes_body_iff` says exactly when the tag describes the
body: when the entries that the audited read and the last snapshot met have
equal tags. That is so whenever nobody puts the key between these two calls.
-/

namespace CacheGate

open Time Http

/-- The tag that an answer states is the tag of the body that it carries. -/
def Http.Response.DescribesBody (response : Response) : Prop :=
  response.etag? = some (EntityTag.of response.body).text

instance (response : Response) : Decidable response.DescribesBody :=
  inferInstanceAs (Decidable (_ = _))

/-- A read that is answered 200 fetched a value and looked at the entry right after that. -/
theorem Service.ReadCourse.served_of_ok {service : Service} {request : Request}
    {cache raw : String} {exchanges : List Exchange} {result : Except AccessError Response}
    (course : service.ReadCourse request cache raw exchanges result)
    (found : (answerOf result).status = .ok) :
    ∃ key before media value current placed, requestKey request raw = .ok key ∧
      exchanges = before ++ ⟨.get request.subject cache key media, .ok (some value)⟩ ::
        ⟨.entry service.context cache key, .ok (some current)⟩ :: placed ∧
      (answerOf result).etag? = some (EntityTag.of current.value).text ∧
      (answerOf result).body = (if request.method = .head then [] else value) := by
  cases course with
  | unkeyed => exact (AccessError.not_succeeds_response _ (Or.inl found)).elim
  | unknown => exact (AccessError.not_succeeds_response _ (Or.inl found)).elim
  | unacceptable => exact (AccessError.not_succeeds_response _ (Or.inl found)).elim
  | unseen => exact (AccessError.not_succeeds_response _ (Or.inl found)).elim
  | evaluated keyed _ course =>
    obtain ⟨response, before, media, value, current, placed, rfl, rfl, tagged, body⟩ :=
      course.served_of_ok found
    exact ⟨_, _ :: _ :: before, media, value, current, placed, keyed, rfl, tagged, body⟩

/-- The exact condition under which the tag of a read describes its body, for
every interleaving with other clients. -/
theorem Service.read_tag_describes_body_iff (service : Service) (request : Request)
    (cache raw : String) (world : World) (schedule : List (List Move × List Move))
    (ran : Handler.Ran Interleaved (Except AccessError Response))
    (run : (service.read request cache raw).run.among world schedule = ran)
    (method : request.method = .get) (found : (answerOf ran.value).status = .ok) :
    ∃ (key : Key) (format : MediaType) (fetched confirmed : StoredEntry)
      (calls : Consecutive ran.state.history (.get request.subject cache key format)
        (.entry service.context cache key)),
      requestKey request raw = .ok key ∧
      (calls.atFirst world).live? cache key.content = some fetched ∧
      (calls.atSecond world).live? cache key.content = some confirmed ∧
      (answerOf ran.value).body = fetched.value ∧
      (answerOf ran.value).etag? = some (EntityTag.of confirmed.value).text ∧
      ((answerOf ran.value).DescribesBody ↔
        EntityTag.of confirmed.value = EntityTag.of fetched.value) ∧
      (calls.NobodyPuts cache key.content → (answerOf ran.value).DescribesBody) := by
  have yields := (service.read request cache raw).run.among_yields world schedule
  rw [run] at yields
  obtain ⟨key, before, format, value, current, placed, keyed, exchanges, tagged, body⟩ :=
    (Service.read_course yields).served_of_ok found
  obtain ⟨calls, -, gotten, seen, -⟩ := World.exchanges_eq_pair exchanges
  obtain ⟨_, fetched, -, live, -, rfl⟩ := Memory.answer_get_eq_found_iff.1 gotten
  obtain ⟨-, shown⟩ := Memory.answer_entry_eq_ok_iff.1 seen
  obtain ⟨confirmed, confirmedLive, rfl⟩ := Option.map_eq_some_iff.1 shown
  rw [if_neg (by rw [method]; decide)] at body
  have describes : (answerOf ran.value).DescribesBody ↔
      EntityTag.of confirmed.value = EntityTag.of fetched.value := by
    unfold Response.DescribesBody
    rw [tagged, body, Option.some.injEq, tag_text_inj]
    rfl
  refine ⟨key, format, fetched, confirmed, calls, keyed, live, confirmedLive, body, tagged,
    describes, fun others => describes.2 ?_⟩
  have same : confirmed.value = fetched.value :=
    congrArg Prod.fst (calls.written_eq_of_nobodyPuts rfl live confirmedLive others)
  rw [same]

/-! ## A race -/

def plainService : Service := ⟨.service, 1, .never, .unsupported⟩

/-- A store with one empty cache `c`. -/
def emptyWorld : World :=
  ⟨.create ⟨"node", "address", []⟩ [⟨"c", .unlimited, .unlimited, none⟩], .epoch⟩

/-- Another client puts a value under the key `k` of the cache `c`. -/
def rivalPut (value : String) : Call :=
  .put (.named "rival") "c" ⟨⟨Utf8.encode "k", .textPlain⟩, Utf8.encode value, .textPlain,
    ⟨.unlimited, .unlimited⟩⟩

/-- A read of an entry that holds `v1`. Before the audited read another client
puts `v2`, and before the last snapshot it puts `v1` again. -/
def racedRead : Handler.Ran Interleaved (Except AccessError Response) :=
  (plainService.read (.of .get "c/k") "c" "k").run.among (emptyWorld.perform (rivalPut "v1"))
    [([], []), ([], []), ([.call (rivalPut "v2")], []), ([.call (rivalPut "v1")], [])]

/-- The raced read is answered 200 with a tag that is not the tag of its body. -/
theorem Service.read_tag_misses_body_in_race :
    (answerOf racedRead.value).status = .ok ∧ ¬ (answerOf racedRead.value).DescribesBody ∧
      ∃ fetched confirmed : StoredEntry, (answerOf racedRead.value).body = fetched.value ∧
        (answerOf racedRead.value).etag? = some (EntityTag.of confirmed.value).text ∧
        EntityTag.of confirmed.value ≠ EntityTag.of fetched.value := by
  have found : (answerOf racedRead.value).status = .ok := by decide +kernel
  have misses : ¬ (answerOf racedRead.value).DescribesBody := by decide +kernel
  obtain ⟨_, _, fetched, confirmed, _, -, -, -, body, tagged, describes, -⟩ :=
    Service.read_tag_describes_body_iff _ _ _ _ _ _ racedRead rfl rfl found
  exact ⟨found, misses, fetched, confirmed, body, tagged, fun same => misses (describes.2 same)⟩

end CacheGate
