import CacheGate.Proofs.Serve.Alike
import CacheGate.Proofs.Serve.ReadTag
import CacheGate.Proofs.Store.DeclaredTypes
import Mathlib.Logic.Function.Basic

/-!
# Declared types of keys in requests

`Traffic` are requests that are under way on one in-memory store. They make
their steps in any order, and the clock may change between any two of them, so
every run is a schedule of turns.

Whatever types keys are declared with, nobody notices: two runs whose requests
differ in `Key-Content-Type` headers only are answered alike, and leave stores
that cannot be told apart (`Service.declared_key_types_are_inert`).
-/

namespace CacheGate

open Time Http

/-! ## Steps of a handler -/

namespace Handler

variable {α β : Type}

/-- Goes on until a store call has been answered, or the clock has been read. -/
def step : Handler α → World → World × Handler α
  | .done value, world => (world, .done value)
  | .ask call next, world => (world.perform call, next (world.answer call))
  | .clock next, world => (world, next world.now)
  | .log _ rest, world => rest.step world
  | .count _ rest, world => rest.step world

/-- The value of a handler that has made its last step. -/
def value? : Handler α → Option α
  | .done value => some value
  | .ask .. => none
  | .clock _ => none
  | .log _ rest => rest.value?
  | .count _ rest => rest.value?

end Handler

/-- Two worlds that differ in the types that keys are declared with at most. -/
structure World.SameButKeyTypes (left right : World) : Prop where
  now : left.now = right.now
  memory : left.memory.plain = right.memory.plain

namespace World.SameButKeyTypes

variable {left right : World} {call other : Call}

theorem inStep (same : left.SameButKeyTypes right) (alike : call.Alike Key.SameContent other) :
    call.InStep Key.SameContent other (left.answer call) (right.answer other) := by
  unfold World.answer
  rw [same.now]
  exact (Memory.perform_alike same.memory _ alike).1

theorem perform (same : left.SameButKeyTypes right) (alike : call.Alike Key.SameContent other) :
    (left.perform call).SameButKeyTypes (right.perform other) := by
  refine ⟨same.now, ?_⟩
  unfold World.perform
  rw [same.now]
  exact (Memory.perform_alike same.memory _ alike).2

/-- Keys with the same bytes address the same entry. -/
theorem answer_entry (same : left.SameButKeyTypes right) {key again : Key}
    (keys : key.SameContent again) (context : ExecutionContext) (cache : String) :
    right.answer (.entry context cache again) = left.answer (.entry context cache key) := by
  unfold World.answer
  rw [same.now]
  exact (Memory.Performed.eq_of_plain (Memory.entry_alike same.memory keys context)).1.symm

/-- Keys with the same bytes are placed on the same owner. -/
theorem answer_distribution (same : left.SameButKeyTypes right) {key again : Key}
    (keys : key.SameContent again) (context : ExecutionContext) (cache : String) :
    right.answer (.distribution context cache again) =
      left.answer (.distribution context cache key) := by
  unfold World.answer
  rw [same.now]
  exact (Memory.Performed.eq_of_plain (Memory.distribution_alike same.memory keys context)).1.symm

/-- Each content is listed once, and the same contents are listed. -/
theorem answer_keys (same : left.SameButKeyTypes right) {subject : Subject} {cache : String}
    {listed : List Key} (found : left.answer (.keys subject cache) = .ok listed) :
    (listed.map Key.content).Nodup ∧ ∃ others : List Key,
      right.answer (.keys subject cache) = .ok others ∧
        others.map Key.content = listed.map Key.content := by
  constructor
  · cases known : left.memory.configuration? cache with
    | none =>
      have unknown : left.memory.perform left.now (.keys subject cache) = _ :=
        Memory.perform_of_unknown known
      rw [World.answer, unknown] at found
      cases found
    | some configuration =>
      obtain ⟨keys, answered, distinct, -⟩ := Memory.answer_keys known left.now subject
      obtain rfl := Except.ok.inj (answered.symm.trans found)
      exact distinct
  · have inStep := same.inStep (.keys : (Call.keys subject cache).Alike Key.SameContent _)
    rw [found] at inStep
    generalize right.answer (.keys subject cache) = others at inStep ⊢
    cases inStep with
    | @ok _ others related =>
      exact ⟨others, rfl, (Service.map_content_eq (fun _ _ same => same) related).symm⟩

end World.SameButKeyTypes

namespace Handler.Lockstep

variable {α β : Type} {values : α → β → Prop} {handler : Handler α} {other : Handler β}
  {left right : World}

/-- Two handlers make one step each, and are still in lockstep. -/
theorem step (lockstep : Lockstep Key.SameContent values handler other)
    (same : left.SameButKeyTypes right) :
    (handler.step left).1.SameButKeyTypes (other.step right).1 ∧
      Lockstep Key.SameContent values (handler.step left).2 (other.step right).2 := by
  induction lockstep with
  | done related => exact ⟨same, .done related⟩
  | ask alike next => exact ⟨same.perform alike, next _ _ (same.inStep alike)⟩
  | clock next =>
    refine ⟨same, ?_⟩
    unfold Handler.step
    rw [same.now]
    exact next right.now
  | logLeft _ ih => exact ih
  | logRight _ ih => exact ih
  | count _ ih => exact ih

/-- Either both handlers are done, with related values, or neither is. -/
theorem value? (lockstep : Lockstep keys values handler other) :
    Option.Rel values handler.value? other.value? := by
  induction lockstep with
  | done related => exact .some related
  | ask | clock => exact .none
  | logLeft _ ih | logRight _ ih | count _ ih => exact ih

end Handler.Lockstep

/-! ## Requests under way -/

/-- Requests that are under way on one store. -/
structure Traffic (ι : Type) where
  world : World
  handlers : ι → Handler Response

/-- What comes next: a request makes a step, or the clock changes. -/
inductive Turn (ι : Type) where
  | request (who : ι)
  | clock (now : Instant)
  deriving DecidableEq

namespace Traffic

variable {ι : Type} {left right : Traffic ι}

/-- The answer to a request, as far as it is sent, once it has been given. -/
def answer? (traffic : Traffic ι) (who : ι) : Option Response :=
  (traffic.handlers who).value?.map Response.sent

/-- Requests that go in lockstep, on stores that differ in declared types at most. -/
structure Alike (left right : Traffic ι) : Prop where
  world : left.world.SameButKeyTypes right.world
  handlers (who : ι) : Handler.Lockstep Key.SameContent
    (fun answer reply : Response => answer.sent = reply.sent) (left.handlers who)
    (right.handlers who)

theorem Alike.answer?_eq (alike : left.Alike right) (who : ι) :
    left.answer? who = right.answer? who := by
  have related := (alike.handlers who).value?
  unfold answer?
  generalize (left.handlers who).value? = answer at related ⊢
  generalize (right.handlers who).value? = reply at related ⊢
  cases related with
  | some same => exact congrArg some same
  | none => rfl

variable [DecidableEq ι]

def next (traffic : Traffic ι) : Turn ι → Traffic ι
  | .request who =>
    ⟨((traffic.handlers who).step traffic.world).1,
      Function.update traffic.handlers who ((traffic.handlers who).step traffic.world).2⟩
  | .clock now => { traffic with world := { traffic.world with now } }

/-- What a schedule of turns leads to. -/
def after (traffic : Traffic ι) (schedule : List (Turn ι)) : Traffic ι :=
  schedule.foldl next traffic

theorem Alike.next (alike : left.Alike right) (turn : Turn ι) :
    (left.next turn).Alike (right.next turn) := by
  cases turn with
  | clock now => exact ⟨⟨rfl, alike.world.memory⟩, alike.handlers⟩
  | request who =>
    obtain ⟨world, handler⟩ := (alike.handlers who).step alike.world
    refine ⟨world, fun other => ?_⟩
    unfold Traffic.next
    dsimp only
    by_cases same : other = who
    · subst same
      rw [Function.update_self, Function.update_self]
      exact handler
    · rw [Function.update_of_ne same, Function.update_of_ne same]
      exact alike.handlers other

theorem Alike.after (alike : left.Alike right) (schedule : List (Turn ι)) :
    (left.after schedule).Alike (right.after schedule) := by
  induction schedule generalizing left right with
  | nil => exact alike
  | cons turn schedule ih => exact ih (alike.next turn)

end Traffic

/-! ## Requests that differ in declared types -/

/-- Two requests that differ in their `Key-Content-Type` headers at most, and
declare readable types or none. -/
structure Http.Request.DiffersInKeyType (left right : Request) : Prop where
  method : left.method = right.method
  path : left.path = right.path
  query : left.query = right.query
  body : left.body = right.body
  subject : left.subject = right.subject
  headers : left.headers.erase Field.keyContentType = right.headers.erase Field.keyContentType
  readable : ∃ media, left.keyContentType = .ok media
  readableToo : ∃ media, right.keyContentType = .ok media

theorem Http.Request.DiffersInKeyType.alike {left right : Request}
    (differs : left.DiffersInKeyType right) : left.Alike Key.SameContent right where
  query := differs.query
  body := differs.body
  subject := differs.subject
  header? name other := by
    have same := congrArg (Headers.get? · name) differs.headers
    simp only [Headers.get?_erase_of_ne other] at same
    unfold header?
    rw [same]
  key raw := by
    obtain ⟨media, read⟩ := differs.readable
    obtain ⟨other, readToo⟩ := differs.readableToo
    unfold requestKey
    rw [read, readToo]
    split
    · exact .error rfl
    · exact .ok rfl

namespace Service

/-- Requests that are all about to begin. -/
def traffic {ι : Type} (service : Service) (start : World) (requests : ι → Request) : Traffic ι :=
  ⟨start, fun who => service.dispatch (requests who)⟩

/-- Declared types of keys are inert. Take any requests on an in-memory store,
and add, drop or replace `Key-Content-Type` headers of any of them, such that
all of them can be read before and after. Whatever the order of their steps
and of changes of the clock, every request is answered as before. In the end
the same keys are listed, each content once, and keys with the same bytes
address the same entry and are placed on the same owner, whatever types they
are declared with. Searches are answered by a handler of their own, which must
not look at declared types. -/
theorem declared_key_types_are_inert {ι : Type} [DecidableEq ι] (service : Service)
    (blind : ∀ cache left right, Request.DiffersInKeyType left right →
      service.queries cache left = service.queries cache right)
    (start : World) (requests changed : ι → Request)
    (differ : ∀ who, (requests who).DiffersInKeyType (changed who)) (schedule : List (Turn ι)) :
    let ran := (service.traffic start requests).after schedule
    let reran := (service.traffic start changed).after schedule
    (∀ who, reran.answer? who = ran.answer? who) ∧
    (∀ (subject : Subject) (cache : String) (listed : List Key),
      ran.world.answer (.keys subject cache) = .ok listed →
        (listed.map Key.content).Nodup ∧ ∃ others : List Key,
          reran.world.answer (.keys subject cache) = .ok others ∧
            others.map Key.content = listed.map Key.content) ∧
    ∀ (context : ExecutionContext) (cache : String) (key other : Key),
      key.content = other.content →
        reran.world.answer (.entry context cache other) =
            ran.world.answer (.entry context cache key) ∧
          reran.world.answer (.distribution context cache other) =
            ran.world.answer (.distribution context cache key) := by
  have alike : (service.traffic start requests).Alike (service.traffic start changed) :=
    ⟨⟨rfl, rfl⟩, fun who => dispatch_lockstep ⟨rfl, rfl⟩ (differ who).alike (differ who).method
      (differ who).path (fun _ _ same => same)
      (fun cache => .of_eq .refl (fun _ => rfl) (blind cache _ _ (differ who))) (.refl _)⟩
  have left := alike.after schedule
  exact ⟨fun who => (left.answer?_eq who).symm, fun _ _ _ found => left.world.answer_keys found,
    fun context cache key other keys =>
      ⟨left.world.answer_entry keys context cache, left.world.answer_distribution keys context cache⟩⟩

end Service

/-! ## A run -/

/-- A PUT and a GET of the entry `c/k` and a listing of `c`, which declare the
key with these types. -/
def declaring (types : Fin 3 → List (String × Bytes)) : Fin 3 → Request
  | 0 => { Request.of .put "c/k" with headers := ⟨types 0⟩, body := some (Utf8.encode "v1") }
  | 1 => { Request.of .get "c/k" with headers := ⟨types 1⟩ }
  | 2 => { Request.of .get "c" with headers := ⟨types 2⟩ }

/-- The key is written as JSON, and read without a declaration. -/
def declaredWrite : Fin 3 → Request :=
  declaring fun who => if who = 0 then [(Field.keyContentType, Utf8.encode "application/json")] else []

/-- The key is written without a declaration, and read as an image. -/
def declaredRead : Fin 3 → Request :=
  declaring fun who => if who = 0 then [] else [(Field.keyContentType, Utf8.encode "image/png")]

/-- The listing begins before the PUT, and ends after the GET. -/
def overlapping : List (Turn (Fin 3)) :=
  [2, 0, 0, 0, 1, 1, 1, 1, 1, 2].map .request

/-- The value is read and the key is listed, whatever it is declared as. -/
theorem key_of_other_type_is_read_and_listed :
    let ran := (plainService.traffic emptyWorld declaredWrite).after overlapping
    let reran := (plainService.traffic emptyWorld declaredRead).after overlapping
    (ran.answer? 1).map Response.body = some (Utf8.encode "v1") ∧
      (ran.answer? 2).map Response.body = some (Utf8.encode "[\"k\"]") ∧
      ∀ who, reran.answer? who = ran.answer? who := by
  have differ : ∀ who, (declaredWrite who).DiffersInKeyType (declaredRead who) := by
    intro who
    match who with
    | 0 | 1 | 2 => exact ⟨rfl, rfl, rfl, rfl, rfl, by decide +kernel, ⟨_, rfl⟩, ⟨_, rfl⟩⟩
  have inert := Service.declared_key_types_are_inert plainService (fun _ _ _ _ => rfl) emptyWorld
    declaredWrite declaredRead differ overlapping
  exact ⟨by decide +kernel, by decide +kernel, inert.1⟩

end CacheGate
