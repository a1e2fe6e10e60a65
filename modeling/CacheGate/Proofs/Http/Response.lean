import CacheGate.AccessError

/-!
# What a response says

Setting a header changes that header alone. `Status.Succeeds` are the two
statuses of a request that was carried out; no failure has one of them.
-/

namespace CacheGate.Http

/-! ## Header fields -/

namespace Headers

variable {α : Type} {headers : Headers α} {name other : String} {value : α}

theorem lookup_filter_ne (fields : List (String × α)) (differs : other ≠ name) :
    (fields.filter fun field => field.1 != name).lookup other = fields.lookup other := by
  induction fields with
  | nil => rfl
  | cons field fields ih =>
    obtain ⟨held, old⟩ := field
    by_cases same : held = name
    · subst same
      rw [List.filter_cons_of_neg (by simp), List.lookup_cons, beq_eq_false_iff_ne.2 differs]
      exact ih
    · rw [List.filter_cons_of_pos (by simp [same]), List.lookup_cons, List.lookup_cons, ih]

theorem get?_insert_self : (headers.insert name value).get? name = some value := by
  unfold get? insert
  have absent : (headers.fields.filter fun field => field.1 != Text.lowered name).lookup
      (Text.lowered name) = none := by
    rw [List.lookup_eq_none_iff]
    intro field member
    exact bne_iff_ne.2 (bne_iff_ne.1 (List.mem_filter.1 member).2).symm
  simp [List.lookup_append, absent]

theorem get?_insert_of_ne (differs : Text.lowered other ≠ Text.lowered name) :
    (headers.insert name value).get? other = headers.get? other := by
  unfold get? insert
  rw [List.lookup_append, lookup_filter_ne headers.fields differs, List.lookup_cons,
    beq_eq_false_iff_ne.2 differs, List.lookup_nil, Option.or_none]

/-- The fields without those of one name. -/
def erase (headers : Headers α) (name : String) : Headers α :=
  ⟨headers.fields.filter fun field => field.1 != Text.lowered name⟩

theorem get?_erase_of_ne (differs : Text.lowered other ≠ Text.lowered name) :
    (headers.erase name).get? other = headers.get? other :=
  lookup_filter_ne headers.fields differs

/-- Nothing is left of a field that was set. -/
theorem erase_insert_self : (headers.insert name value).erase name = headers.erase name := by
  simp [erase, insert]

/-- Another field may be set before or after. -/
theorem erase_insert_of_ne (differs : Text.lowered other ≠ Text.lowered name) :
    (headers.insert other value).erase name = (headers.erase name).insert other value := by
  have kept : [(Text.lowered other, value)].filter (fun field => field.1 != Text.lowered name) =
      [(Text.lowered other, value)] := by
    simp [differs]
  simp only [erase, insert, List.filter_append, kept, List.filter_filter, Bool.and_comm]

end Headers

/-! ## Responses -/

namespace Response

variable {response : Response} {name other value : String}

@[simp]
theorem setHeader_status : (response.setHeader name value).status = response.status := by
  unfold setHeader
  split <;> rfl

theorem setHeader_body : (response.setHeader name value).body = response.body := by
  unfold setHeader
  split <;> rfl

@[simp]
theorem diagnostic_status : (response.diagnostic value).status = response.status :=
  setHeader_status

theorem get?_setHeader_self (sendable : isFieldText value = true) :
    (response.setHeader name value).headers.get? name = some value := by
  unfold setHeader
  rw [if_pos sendable]
  exact Headers.get?_insert_self

theorem get?_setHeader_of_ne (differs : Text.lowered other ≠ Text.lowered name) :
    (response.setHeader name value).headers.get? other = response.headers.get? other := by
  unfold setHeader
  split
  · exact Headers.get?_insert_of_ne differs
  · rfl

end Response

/-! ## Success -/

/-- Whether the request was carried out. -/
def Status.Succeeds (status : Status) : Prop := status = .ok ∨ status = .created

instance (status : Status) : Decidable status.Succeeds :=
  inferInstanceAs (Decidable (_ ∨ _))

end CacheGate.Http

namespace CacheGate

open Http

theorem AccessError.not_succeeds_response (error : AccessError) :
    ¬ error.response.status.Succeeds := by
  change ¬ error.status.Succeeds
  cases error with
  | store error => cases error <;> (rintro (same | same) <;> cases same)
  | _ => rintro (same | same) <;> cases same

end CacheGate
