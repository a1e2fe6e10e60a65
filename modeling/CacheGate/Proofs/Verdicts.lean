import CacheGate.Proofs.Conditions

/-!
# Verdicts that fit together

Reads, writes and deletes each have a chain of conditions of their own, and a
lifetime is stated by one computation and asked for by another. Here these are
compared with one another, over all entries and all headers.

* `tag_conditions_agree`: reads and writes decide alike on tags, and a delete
  proceeds where every tag header that is present names the tag.
* `min_fresh_agrees_with_max_age`: a read that asks for more seconds than the
  entry states finds nothing, to the nanosecond.
-/

namespace CacheGate

open Time Http

variable {entry : Entry} {conditions : Conditions} {tag : EntityTag} {now : Instant}

/-! ## Tags -/

/-- Where no date and no lifetime is asked for, a read is decided as a write
that may replace the entry. -/
theorem evaluateRead_eq_evaluateWrite (anyAge : conditions.minFresh = none)
    (unmodified : conditions.ifUnmodifiedSince = none)
    (modified : conditions.ifModifiedSince = none) :
    (evaluateRead entry conditions now).verdict = evaluateWrite (some entry) conditions false := by
  unfold evaluateRead readVerdict evaluateWrite
  dsimp only
  rw [anyAge, unmodified, modified, failsMinFresh_none]
  rfl

theorem evaluateWrite_eq_notModified_iff :
    evaluateWrite (some entry) conditions false = .notModified ↔
      conditions.excludes (EntityTag.of entry.value) = true := by
  unfold evaluateWrite
  dsimp only
  cases conditions.excludes (EntityTag.of entry.value) <;>
    cases conditions.mismatches (EntityTag.of entry.value) <;> decide

/-- A write that is told of no other tag fails where the tag is mistaken. -/
theorem evaluateWrite_of_mismatches (unexcluded : conditions.ifNoneMatch = none)
    (mismatch : conditions.mismatches (EntityTag.of entry.value) = true) :
    evaluateWrite (some entry) conditions false = .preconditionFailed := by
  unfold evaluateWrite Conditions.excludes
  simp [unexcluded, mismatch]

theorem evaluateDelete_of_mismatches
    (mismatch : conditions.mismatches (EntityTag.of entry.value) = true) :
    evaluateDelete (some entry) conditions = .preconditionFailed :=
  if_pos mismatch

theorem Conditions.mismatches_eq_false_iff :
    conditions.mismatches tag = false ↔
      ∀ header ∈ conditions.ifMatch, tag.matchesHeader header = true := by
  unfold mismatches
  rw [Option.any_eq_false]
  simp only [Bool.not_eq_eq_eq_not, Bool.not_false, Option.mem_def]

/-- Unlike reads and writes, a delete proceeds where `If-None-Match` names the
tag, as it does where `If-Match` names it. -/
theorem evaluateDelete_eq_serve_iff :
    evaluateDelete (some entry) conditions = .serve ↔
      (∀ header ∈ conditions.ifMatch, (EntityTag.of entry.value).matchesHeader header = true) ∧
      ∀ header ∈ conditions.ifNoneMatch,
        (EntityTag.of entry.value).matchesHeader header = true := by
  have named := Option.all_eq_true (EntityTag.of entry.value).matchesHeader conditions.ifNoneMatch
  simp only [← Option.mem_def] at named
  rw [← Conditions.mismatches_eq_false_iff, ← named]
  unfold evaluateDelete
  dsimp only
  cases conditions.mismatches (EntityTag.of entry.value) <;>
    cases conditions.ifNoneMatch.all (EntityTag.of entry.value).matchesHeader <;> decide

/-- Without dates and lifetimes, reads and writes that may replace the entry
get the same verdict. A delete proceeds exactly if each tag header that is
present names the tag of the entry. So an `If-Match` header on its own that
does not name the tag fails all three, and with an `If-None-Match` header on
its own a delete proceeds exactly where reads and writes are told that nothing
has changed. -/
theorem tag_conditions_agree (entry : Entry) (now : Instant) (ifMatch ifNoneMatch : Option String) :
    let conditions := { Conditions.unconditional with ifMatch, ifNoneMatch }
    let tag := EntityTag.of entry.value
    let read := (evaluateRead entry conditions now).verdict
    let write := evaluateWrite (some entry) conditions false
    let delete := evaluateDelete (some entry) conditions
    read = write ∧
    (delete = .serve ↔ (∀ header ∈ ifMatch, tag.matchesHeader header = true) ∧
      ∀ header ∈ ifNoneMatch, tag.matchesHeader header = true) ∧
    (∀ header, ifMatch = some header → ifNoneMatch = none → tag.matchesHeader header = false →
      read = .preconditionFailed ∧ write = .preconditionFailed ∧
        delete = .preconditionFailed) ∧
    ∀ header, ifMatch = none → ifNoneMatch = some header →
      (delete = .serve ↔ read = .notModified) ∧ (delete = .serve ↔ write = .notModified) := by
  intro conditions tag read write delete
  have same : read = write := evaluateRead_eq_evaluateWrite rfl rfl rfl
  refine ⟨same, evaluateDelete_eq_serve_iff, ?_, ?_⟩
  · rintro header rfl rfl other
    have mismatch : conditions.mismatches tag = true := congrArg (!·) other
    have refused : write = .preconditionFailed := evaluateWrite_of_mismatches rfl mismatch
    exact ⟨same.trans refused, refused, evaluateDelete_of_mismatches mismatch⟩
  · rintro header rfl rfl
    have proceeds : delete = .serve ↔ write = .notModified :=
      evaluateDelete_eq_serve_iff.trans (Iff.trans (by simp [conditions, Conditions.excludes])
        evaluateWrite_eq_notModified_iff.symm)
    rw [same]
    exact ⟨proceeds, proceeds⟩

/-! ## Lifetimes -/

section Lifetimes

variable {wanted : Int}

/-- Where only a lifetime is asked for, it alone decides. -/
theorem readVerdict_of_minFresh {lastModified : Instant} {expiresAt : Option Instant} :
    readVerdict tag lastModified expiresAt { Conditions.unconditional with minFresh := some wanted }
      now = if failsMinFresh expiresAt (some wanted) now then .notFound else .serve := rfl

theorem evaluateRead_eq_notFound_iff :
    (evaluateRead entry { Conditions.unconditional with minFresh := some wanted } now).verdict =
        .notFound ↔
      ∃ deadline, entry.expiresAt = some deadline ∧ now.secondsUntil deadline < wanted := by
  rw [← failsMinFresh_iff]
  change readVerdict _ _ _ _ _ = _ ↔ _
  rw [readVerdict_of_minFresh]
  cases failsMinFresh entry.expiresAt (some wanted) now <;> decide

end Lifetimes

/-- Lifetimes are asked for by the measure that they are stated in. Take any
entry and a read that asks for a number of seconds and nothing else, as a
request does with a number of 64 bits in its `min-fresh` directive. If the
entry states a lifetime, the read finds nothing exactly if it asks for more.
If the entry states that nothing is left, a read that asks for any time finds
nothing. An entry that states nothing does not expire and is served. Whoever
asks for a second or more finds nothing exactly if the deadline comes too
early, to the nanosecond. -/
theorem min_fresh_agrees_with_max_age (entry : Entry) (now : Instant) (wanted : Int) :
    let conditions := { Conditions.unconditional with minFresh := some wanted }
    let verdict := (evaluateRead entry conditions now).verdict
    let stated := cacheControl entry.expiresAt now
    (Text.leastInt64 ≤ wanted → wanted ≤ Text.greatestInt64 →
      ∀ request, Conditions.ofRequest request = .unconditional →
        Conditions.ofRequest (request.withHeader Field.cacheControl
          ("min-fresh=" ++ Text.intText wanted)) = conditions) ∧
    (∀ seconds, stated = some ("max-age=" ++ Text.intText seconds) →
      (verdict = .notFound ↔ seconds < wanted)) ∧
    (stated = some "no-cache" → 1 ≤ wanted → verdict = .notFound) ∧
    (stated = none → verdict = .serve) ∧
    (1 ≤ wanted → (verdict = .notFound ↔ ∃ deadline, entry.expiresAt = some deadline ∧
      deadline.nanos - now.nanos < wanted * nanosPerSecond)) := by
  intro conditions verdict stated
  refine ⟨fun least greatest request free => ?_, fun seconds lifetime => ?_,
    fun past positive => ?_, fun endless => ?_, fun positive => ?_⟩
  · exact (Conditions.ofRequest_minFresh least greatest).trans (by rw [free])
  · obtain ⟨deadline, known, rfl, -⟩ := cacheControl_eq_maxAge_iff.1 lifetime
    refine evaluateRead_eq_notFound_iff.trans ?_
    rw [known]
    simp
  · obtain ⟨deadline, known, short⟩ := cacheControl_eq_noCache_iff.1 past
    exact evaluateRead_eq_notFound_iff.2 ⟨deadline, known, by omega⟩
  · change readVerdict _ _ _ _ _ = _
    rw [readVerdict_of_minFresh, cacheControl_eq_none_iff.1 endless]
    rfl
  · exact evaluateRead_eq_notFound_iff.trans
      (exists_congr fun _ => and_congr_right fun _ => Instant.secondsUntil_lt_iff positive)

end CacheGate
