import MechanicsHttpClient.Guarantees.CacheHistory
import MechanicsHttpClient.Runtime.Execution

/-!
# Recording an HTTP/3 failure

src/request.rs:234-241, 337-382, 400-429 and 479-504. `insert_negative` adds the
configured duration to a clock reading while it holds the write lock. The sum may
exceed what an `Instant` can hold: then it unwinds with the lock poisoned and the
Alt-Svc entry in place. `http3_negative_cache_duration` accepts every duration.
-/

namespace MechanicsHttpClient.Guarantees

open MechanicsHttpClient.Runtime
open MechanicsHttpClient.Source

/-- No lock of the shared state is poisoned. -/
structure Sound (shared : SharedState) : Prop where
  httpsRr : shared.httpsRr.poisoned = false
  altSvc : shared.altSvc.poisoned = false
  negative : shared.negative.poisoned = false
  endpoint : shared.endpoint.poisoned = false

/-- A failure of `origin` is on record for `d` from the reading `now`, and nothing
else has changed. -/
structure Recorded {α : Type} (origin : Origin) (now : Instant) (d : Duration)
    (before : SharedState) (result : Option α) (after : SharedState) : Prop where
  returns : result ≠ none
  sound : Sound after
  hit : ∀ t : Instant, t.nanos < now.nanos + d.nanos → (after.negativeCacheHit origin t).1 = true
  evicted : after.altSvc.value origin = none
  others : ∀ o, o ≠ origin → after.negative.value o = before.negative.value o ∧
    after.altSvc.value o = before.altSvc.value o
  httpsRr : after.httpsRr = before.httpsRr

/-- The state after the first critical section of `insert_negative`. -/
def insertedState (before : SharedState) (origin : Origin) (expiresAt : Instant) : SharedState :=
  { before with negative := ⟨before.negative.value.insert origin expiresAt, false⟩ }

/-- The state that it leaves when it returns. -/
def recordedState (before : SharedState) (origin : Origin) (expiresAt : Instant) : SharedState :=
  { insertedState before origin expiresAt with
    altSvc := ⟨before.altSvc.value.remove origin, false⟩ }

/-- The state that it leaves when it unwinds. -/
def poisonedState (before : SharedState) : SharedState :=
  { before with negative := ⟨before.negative.value, true⟩ }

/-- An operation whose answer the shared state determines. -/
theorem executes_answered {α : Type} {client : Client} {clock : Nat} {before after : SharedState}
    {result : Option α} {op : Op} [DecidableEq op.Ans] {k : op.Ans → Prog sig α} (ans : op.Ans)
    (middle : SharedState)
    (responds : ∀ given, respond op clock before given = answered (ans, middle) given) :
    Executes (sends client) clock before (.call op k) result after ↔
      Executes (sends client) clock middle (k ans) result after := by
  refine Executes.call_iff.trans ?_
  constructor
  · rintro ⟨given, moved, responded, executed⟩
    obtain ⟨rfl, rfl⟩ := answered_iff.mp ((responds given).symm.trans responded)
    exact executed
  · intro executed
    exact ⟨ans, middle, (responds ans).trans (answered_iff.mpr ⟨rfl, rfl⟩), executed⟩

section Insert

variable {client : Client} {origin : Origin} {now : Instant} {before after : SharedState}
  {clock : Nat} {result : Option Unit}

theorem insertNegative_executes {expiresAt : Instant} (sound : Sound before)
    (sum : now.checkedAdd client.http3NegativeCacheDuration = some expiresAt) :
    Executes (sends client) clock before (Prog.ofSync (insertNegative client origin now)) result
        after ↔
      result = some () ∧ after = recordedState before origin expiresAt := by
  have inserts : ∀ given, respond (.negativeInsert origin now client.http3NegativeCacheDuration)
      clock before given = answered (.ok (), insertedState before origin expiresAt) given := by
    intro given
    simp [respond, SharedState.negativeInsert, sound.negative, sum, insertedState]
  have removes : ∀ given, respond (.altSvcRemove origin) clock
      (insertedState before origin expiresAt) given =
      answered ((), recordedState before origin expiresAt) given := by
    intro given
    simp [respond, SharedState.altSvcRemove, sound.altSvc, insertedState, recordedState]
  exact (executes_answered _ _ inserts).trans
    ((executes_answered _ _ removes).trans Executes.ret_iff)

theorem insertNegative_overflows (sound : Sound before)
    (sum : now.checkedAdd client.http3NegativeCacheDuration = none) :
    Executes (sends client) clock before (Prog.ofSync (insertNegative client origin now)) result
        after ↔
      result = none ∧ after = poisonedState before := by
  have inserts : ∀ given, respond (.negativeInsert origin now client.http3NegativeCacheDuration)
      clock before given = answered (.error .instantOverflow, poisonedState before) given := by
    intro given
    simp [respond, SharedState.negativeInsert, sound.negative, sum, poisonedState]
  exact (executes_answered _ _ inserts).trans Executes.panic_iff

theorem recordedState_recorded {α : Type} {expiresAt : Instant} {value : α} {d : Duration}
    (sound : Sound before) (sum : expiresAt.nanos = now.nanos + d.nanos) :
    Recorded origin now d before (some value) (recordedState before origin expiresAt) where
  returns := by simp
  sound := ⟨sound.httpsRr, rfl, rfl, sound.endpoint⟩
  hit := by
    intro t inside
    have fresh : t.nanos < expiresAt.nanos := by omega
    simp [SharedState.negativeCacheHit, Lock.lookupFresh, recordedState, insertedState, fresh]
  evicted := Cache.remove_self _ origin
  others := by
    intro o other
    exact ⟨Cache.insert_other _ _ other, Cache.remove_other _ other⟩
  httpsRr := rfl

end Insert

/-- A program runs to exactly one end; there the failure is on record if and only
if its deadline is an `Instant`. -/
def RecordsIfRepresentable {α : Type} (client : Client) (clock : Nat) (before : SharedState)
    (origin : Origin) (now : Instant) (caller : Prog sig α) : Prop :=
  ∃ result after,
    (∀ result' after', Executes (sends client) clock before caller result' after' ↔
      result' = result ∧ after' = after) ∧
    (Recorded origin now client.http3NegativeCacheDuration before result after ↔
      now.nanos + client.http3NegativeCacheDuration.nanos < instantLimit)

section Callers

variable {client : Client} {before : SharedState} {α β : Type}

/-- What is read is the clock. -/
theorem instantNow_executes {now : Instant} {f : Instant → Prog sig α} {result : Option α}
    {after : SharedState} :
    Executes (sends client) now.nanos before (.call .instantNow f) result after ↔
      Executes (sends client) now.nanos before (f now) result after := by
  refine Executes.call_iff.trans ?_
  constructor
  · rintro ⟨ans, middle, read, executed⟩
    simp only [sends, respond] at read
    split at read
    · rename_i same
      have isNow : ans = now := by
        cases ans
        cases now
        cases same
        rfl
      cases read
      subst isNow
      exact executed
    · cases read
  · intro executed
    exact ⟨now, before, if_pos rfl, executed⟩

theorem insertNegative_records (sound : Sound before) (clock : Nat) (origin : Origin)
    (now : Instant) : RecordsIfRepresentable client clock before origin now
      (Prog.ofSync (insertNegative client origin now)) := by
  cases sum : now.checkedAdd client.http3NegativeCacheDuration with
  | some expiresAt =>
    have total := Instant.checkedAdd_eq_some.mp sum
    have bound := expiresAt.inRange
    refine ⟨some (), recordedState before origin expiresAt,
      fun _ _ => insertNegative_executes sound sum, ?_⟩
    constructor
    · intro _
      omega
    · intro _
      exact recordedState_recorded sound total
  | none =>
    have exceeds := Instant.checkedAdd_eq_none.mp sum
    refine ⟨none, poisonedState before, fun _ _ => insertNegative_overflows sound sum, ?_⟩
    constructor
    · intro recorded
      exact absurd rfl recorded.returns
    · intro bound
      omega

/-- A caller that returns a value afterwards. -/
theorem RecordsIfRepresentable.returning {clock : Nat} {origin : Origin} {now : Instant}
    {caller : Prog sig α} (records : RecordsIfRepresentable client clock before origin now caller)
    (value : β) : RecordsIfRepresentable client clock before origin now
      (caller.bind fun _ => .ret value) := by
  obtain ⟨result, after, only, recorded⟩ := records
  have ends : Executes (sends client) clock before caller result after :=
    (only result after).mpr ⟨rfl, rfl⟩
  cases result with
  | none =>
    refine ⟨none, after, fun result' after' => (Executes.bind_iff caller).trans ?_, ?_⟩
    · constructor
      · rintro (⟨first, middle, executed, rest⟩ | ⟨unwound, executed⟩)
        · cases ((only _ _).mp executed).1
        · exact ⟨unwound, ((only _ _).mp executed).2⟩
      · rintro ⟨rfl, rfl⟩
        exact .inr ⟨rfl, ends⟩
    · rw [← recorded]
      constructor <;> exact fun found => absurd rfl found.returns
  | some first =>
    refine ⟨some value, after, fun result' after' => (Executes.bind_iff caller).trans ?_, ?_⟩
    · constructor
      · rintro (⟨other, middle, executed, rest⟩ | ⟨unwound, executed⟩)
        · obtain ⟨-, rfl⟩ := (only _ _).mp executed
          exact Executes.ret_iff.mp rest
        · cases ((only _ _).mp executed).1
      · rintro ⟨rfl, rfl⟩
        exact .inl ⟨first, after', ends, .ret _ _⟩
    · rw [← recorded]
      constructor
      · intro found
        exact ⟨by simp, found.sound, found.hit, found.evicted, found.others, found.httpsRr⟩
      · intro found
        exact ⟨by simp, found.sound, found.hit, found.evicted, found.others, found.httpsRr⟩

/-- The end of a caller whose deadline is an `Instant`. -/
theorem RecordsIfRepresentable.records {clock : Nat} {origin : Origin} {now : Instant}
    {caller : Prog sig α} (h : RecordsIfRepresentable client clock before origin now caller)
    (representable : now.nanos + client.http3NegativeCacheDuration.nanos < instantLimit) :
    ∃ result after, Executes (sends client) clock before caller result after ∧
      Recorded origin now client.http3NegativeCacheDuration before result after := by
  obtain ⟨result, after, only, recorded⟩ := h
  exact ⟨result, after, (only result after).mpr ⟨rfl, rfl⟩, recorded.mpr representable⟩

end Callers

/-- From any state without poisoned locks, the retry loop, the timeout branch of
`send` and the drop of an attempt put a failure on record if and only if the
reading plus the configured duration is an `Instant`. -/
theorem failure_recorded_iff_representable {client : Client} {before : SharedState}
    (sound : Sound before) (origin : Origin) (now : Instant) :
    (∀ clock, RecordsIfRepresentable client clock before origin now
      (giveUp client origin now)) ∧
    (∀ builder, builder.client = client →
      RecordsIfRepresentable client now.nanos before origin now (h3TimedOut builder origin)) ∧
    RecordsIfRepresentable client now.nanos before origin now
      (Prog.ofSync (cancellationGuardDrop client origin)) := by
  refine ⟨?_, ?_, ?_⟩
  · intro clock
    exact (insertNegative_records sound clock origin now).returning _
  · intro builder same
    subst same
    obtain ⟨result, after, only, recorded⟩ :=
      (insertNegative_records sound now.nanos origin now).returning
        (Except.error Error.timeout : Except Error (Option Response))
    refine ⟨result, after, fun result' after' => ?_, recorded⟩
    exact instantNow_executes.trans (only result' after')
  · have atOnce : RecordsIfRepresentable client now.nanos before origin now
        (Prog.ofSync (insertNegative client origin now)) :=
      insertNegative_records sound now.nanos origin now
    obtain ⟨result, after, only, recorded⟩ := atOnce
    refine ⟨result, after, fun result' after' => ?_, recorded⟩
    refine Iff.trans ?_ (only result' after')
    refine Executes.call_iff.trans ?_
    constructor
    · rintro ⟨_, middle, same, executed⟩
      cases same
      exact instantNow_executes.mp executed
    · intro executed
      exact ⟨(), before, rfl, instantNow_executes.mpr executed⟩

namespace Example

theorem new_sound : Sound SharedState.new := ⟨rfl, rfl, rfl, rfl⟩

/-- The longest `Duration` in whole seconds. -/
def forever : Duration := Duration.fromSecs 18446744073709551615

def remembering : Client := { client with http3NegativeCacheDuration := forever }

def neighbour : Origin := ⟨"p.example".toList, 443⟩

/-- Two origins have an alternative, and the other one has a failure on record. -/
def learnt : SharedState :=
  { SharedState.new with
    altSvc := ⟨((SharedState.new.altSvc.value.insert origin (entryOn none)).insert neighbour
      (entryOn none)), false⟩
    negative := ⟨SharedState.new.negative.value.insert neighbour tomorrow, false⟩ }

theorem learnt_sound : Sound learnt := ⟨rfl, rfl, rfl, rfl⟩

end Example

/-- All three callers put a failure on record, for an origin that has an alternative. -/
theorem failure_recorded_iff_representable_learnt :
    (∃ result after, Executes (sends Example.client) 7 Example.learnt
        (giveUp Example.client Example.origin Example.start) result after ∧
      Recorded Example.origin Example.start Example.client.http3NegativeCacheDuration
        Example.learnt result after) ∧
    (∃ result after, Executes (sends Example.client) Example.start.nanos Example.learnt
        (h3TimedOut (Example.builder Example.client) Example.origin) result after ∧
      Recorded Example.origin Example.start Example.client.http3NegativeCacheDuration
        Example.learnt result after) ∧
    ∃ result after, Executes (sends Example.client) Example.start.nanos Example.learnt
        (Prog.ofSync (cancellationGuardDrop Example.client Example.origin)) result after ∧
      Recorded Example.origin Example.start Example.client.http3NegativeCacheDuration
        Example.learnt result after := by
  have representable : Example.start.nanos + Example.client.http3NegativeCacheDuration.nanos <
      instantLimit := by decide
  obtain ⟨retry, timedOut, guard⟩ := failure_recorded_iff_representable Example.learnt_sound
    Example.origin Example.start
  exact ⟨(retry 7).records representable, (timedOut _ rfl).records representable,
    guard.records representable⟩

/-- The builder takes the duration, and the first failure unwinds: its lock is
poisoned, and the origin is not remembered at all. -/
theorem failure_lost_forever :
    ClientBuilder.build ⟨.ok (), .ok ()⟩ (ClientBuilder.new.apply
      (.http3NegativeCacheDuration Example.forever)) = .ok Example.remembering ∧
    Sound SharedState.new ∧
    Executes (sends Example.remembering) 0 SharedState.new
      (giveUp Example.remembering Example.origin Example.start) none
      (poisonedState SharedState.new) ∧
    (poisonedState SharedState.new).negative.poisoned = true ∧
    ∀ t, ((poisonedState SharedState.new).negativeCacheHit Example.origin t).1 = false := by
  have sum : Example.start.checkedAdd Example.remembering.http3NegativeCacheDuration = none := by
    rw [Instant.checkedAdd_eq_none]
    decide
  refine ⟨rfl, Example.new_sound, ?_, rfl, fun _ => rfl⟩
  exact Executes.bind_iff _ |>.mpr
    (.inr ⟨rfl, (insertNegative_overflows Example.new_sound sum).mpr ⟨rfl, rfl⟩⟩)

end MechanicsHttpClient.Guarantees
