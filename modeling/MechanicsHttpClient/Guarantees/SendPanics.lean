import MechanicsHttpClient.Guarantees.NegativeInsert
import MechanicsHttpClient.Guarantees.OriginIsolation
import MechanicsHttpClient.Guarantees.SendOutcome

/-!
# How a send panics

Adding a duration to an `Instant` is all that can panic once the headers have been
merged: in `insert_negative`, also when the drop guard of an attempt runs it, and in
the parser of Alt-Svc headers. The first panics while it holds a lock, the second does
not. The merging itself panics on a map that is full (`HeadersFit`).
-/

namespace MechanicsHttpClient.Guarantees

open MechanicsHttpClient.Runtime
open MechanicsHttpClient.Source

def Panicked {ρ : Type} (body : Body sig ρ) : Prop :=
  body = .running .panic ∨ body = .dropping .panic

section Step

variable {plan : Plan} {position next : Position}

/-- Hyper's response leads to its Alt-Svc header or to the end. -/
theorem hyper_arrives {request : Request RequestBody} {parts : ResponseParts}
    {incoming : BodyHandle}
    (taken : plan.protocol.step position (.done (.hyperRequest request) (.ok (parts, incoming))) =
      some next) : next.stage = plan.arrived (Response.new parts incoming) := by
  obtain ⟨stage, expired⟩ := position
  rcases Plan.step_cases taken with
    ⟨after, moved, rfl, -⟩ | ⟨after, op, ans, no, -, -⟩ | ⟨after, op, ans, no, -, -, -⟩ |
    ⟨j, deadline, no, -, -, -⟩
  · cases stage with
    | attempting round leg wait =>
      cases Plan.attemptMove_step moved with
      | goesOn forward kept plain called => cases plain
      | fails started plain called => cases plain
    | looking aim now wait =>
      rw [Plan.move] at moved
      obtain ⟨_, no, -⟩ := Await.step_answered moved
      cases no
    | transmitting wait =>
      rw [Plan.move] at moved
      obtain ⟨_, same, rfl⟩ := Await.step_answered moved
      cases same
      rfl
    | leaving response => cases response <;> cases moved
    | _ => cases moved
  · cases no
  · cases no
  · cases no

/-- A negative entry whose deadline overflows unwinds. -/
theorem overflow_unwinds {origin : Origin} {now : Instant} {duration : Duration} {panic : Panic}
    (taken : plan.protocol.step position
      (.call (.negativeInsert origin now duration) (.error panic)) = some next) :
    next.stage = .unwound := by
  obtain ⟨stage, expired⟩ := position
  rcases Plan.step_cases taken with
    ⟨after, moved, rfl, -⟩ | ⟨after, op, ans, -, cleaned, rfl⟩ |
    ⟨after, op, ans, -, -, cut, rfl⟩ | ⟨j, deadline, no, -, -, -⟩
  · cases stage with
    | attempting round leg wait =>
      cases Plan.attemptMove_step moved with
      | goesOn forward kept plain called => cases plain
      | fails started plain called => cases plain
    | looking aim now wait =>
      rw [Plan.move] at moved
      exact absurd moved Await.step_called
    | transmitting wait =>
      rw [Plan.move] at moved
      exact absurd moved Await.step_called
    | leaving response =>
      cases response with
      | some response =>
        obtain ⟨ans, same, -⟩ := Move.step_call_iff.mp moved
        cases same
      | none =>
        obtain ⟨ans, same, -⟩ := Move.step_call_iff.mp moved
        cases same
    | arming aim => cases moved
    | dropped aim => exact absurd moved Move.step_stop
    | ended result => exact absurd moved Move.step_stop
    | unwound => exact absurd moved Move.step_stop
    | _ =>
      obtain ⟨ans, same, rfl⟩ := Move.step_call_iff.mp moved
      cases same
      all_goals rfl
  · unfold Plan.cleanup at cleaned
    split at cleaned
    · obtain ⟨ans, same, -⟩ := Move.step_call_iff.mp cleaned
      cases same
    · exact absurd cleaned Move.step_stop
  · unfold Plan.afterCut at cut
    split at cut
    · obtain ⟨ans, same, -⟩ := Move.step_call_iff.mp cut
      cases same
    · obtain ⟨ans, same, -⟩ := Move.step_call_iff.mp cut
      cases same
    · exact absurd cut Move.step_stop
  · cases no

/-- An Alt-Svc header whose expiry overflows unwinds. -/
theorem learning_unwinds {expired : Bool} {response : Response} {origin : Origin}
    {value : HeaderValue} {now : Instant} {panic : Panic}
    (taken : plan.protocol.step ⟨.learning response origin value, expired⟩ (.call .instantNow now) =
      some next)
    (overflow : AltSvc.parseHeader value now origin.port = .error panic) :
    next.stage = .unwound := by
  rcases Plan.step_cases taken with
    ⟨after, moved, rfl, -⟩ | ⟨after, op, ans, -, cleaned, rfl⟩ |
    ⟨after, op, ans, -, -, cut, rfl⟩ | ⟨j, deadline, no, -, -, -⟩
  · obtain ⟨read, same, rfl⟩ := Move.step_call_iff.mp moved
    cases same
    rw [overflow]
  · exact absurd cleaned Move.step_stop
  · exact absurd cut Move.step_stop
  · cases no

end Step

theorem past_snoc (log : List (Entry sig)) (e : Entry sig) :
    Protocol.past (log ++ [e]) = e.label :: Protocol.past log := by
  simp [Protocol.past]

theorem past_cons {log : List (Entry sig)} {label : Label sig} {older : List (Label sig)}
    (ends : Protocol.past log = label :: older) :
    ∃ front e, log = front ++ [e] ∧ e.label = label ∧ Protocol.past front = older := by
  rcases List.eq_nil_or_concat' log with rfl | ⟨front, e, rfl⟩
  · cases ends
  · rw [past_snoc] at ends
    exact ⟨front, e, rfl, (List.cons.inj ends).1, (List.cons.inj ends).2⟩

theorem overflowed_unwinds {plan : Plan} {position : Position} {log : List (Entry sig)}
    (ran : plan.protocol.run ⟨plan.start, false⟩ log = some position)
    (overflowed : Overflowed plan (Protocol.past log)) : position.stage = .unwound := by
  generalize ends : Protocol.past log = past at overflowed
  cases overflowed with
  | negative origin now duration panic =>
    obtain ⟨front, e, rfl, isLast, -⟩ := past_cons ends
    obtain ⟨middle, -, taken⟩ := Protocol.run_snoc ran
    rw [isLast] at taken
    exact overflow_unwinds taken
  | altSvc answer advertises overflow =>
    obtain ⟨front, e, rfl, isLast, rest⟩ := past_cons ends
    obtain ⟨⟨stage, expired⟩, reached, taken⟩ := Protocol.run_snoc ran
    cases answer with
    | received older parts incoming =>
      obtain ⟨front', e', rfl, isAnswer, -⟩ := past_cons rest
      obtain ⟨before, -, arrives⟩ := Protocol.run_snoc reached
      rw [isAnswer] at arrives
      have learns : stage = _ := (hyper_arrives arrives).trans advertises
      subst learns
      rw [isLast] at taken
      exact learning_unwinds taken overflow

/-- Nothing comes after a panic. -/
theorem unwound_stops {plan : Plan} {expired : Bool} {label : Label sig} {next : Position} :
    plan.protocol.step ⟨.unwound, expired⟩ label ≠ some next := by
  intro taken
  rcases Plan.step_cases taken with
    ⟨after, moved, -, -⟩ | ⟨after, op, ans, -, cleaned, -⟩ | ⟨after, op, ans, -, -, cut, -⟩ |
    ⟨j, deadline, -, -, no, -⟩
  · exact Move.step_stop moved
  · exact Move.step_stop cleaned
  · exact Move.step_stop cut
  · cases no

section Locks

variable {clock : Nat} {shared shared' : SharedState}

theorem lookupFresh_poison {β : Type} (lock : Lock (Cache β)) (origin : Origin) (fresh : β → Bool) :
    (lock.lookupFresh origin fresh).2.poisoned = lock.poisoned := by
  unfold Lock.lookupFresh
  cases poisoned : lock.poisoned with
  | true => simp [poisoned]
  | false =>
    cases lock.value origin with
    | none => rfl
    | some value => cases good : fresh value <;> simp [good, poisoned]

/-- What an instruction does to the locks themselves. -/
structure LocksAfter (label : Label sig) (shared shared' : SharedState) : Prop where
  negative : shared'.negative.poisoned = (shared.negative.poisoned || overflows label)
  altSvc : shared'.altSvc.poisoned = shared.altSvc.poisoned
  httpsRr : shared'.httpsRr.poisoned = shared.httpsRr.poisoned
  endpoint : shared'.endpoint.poisoned = shared.endpoint.poisoned

theorem LocksAfter.same {label : Label sig} (plain : overflows label = false) :
    LocksAfter label shared shared := by
  refine ⟨?_, rfl, rfl, rfl⟩
  rw [plain, Bool.or_false]

theorem negativeInsert_locks {origin : Origin} {now : Instant} {duration : Duration}
    {ans : Except Panic Unit}
    (isAns : (shared.negativeInsert origin now duration).1 = ans) :
    LocksAfter (.call (.negativeInsert origin now duration) ans) shared
      (shared.negativeInsert origin now duration).2 := by
  subst isAns
  unfold SharedState.negativeInsert
  cases poisoned : shared.negative.poisoned with
  | true => exact .same rfl
  | false =>
    cases now.checkedAdd duration with
    | some expiresAt => exact ⟨by simp [poisoned, overflows], rfl, rfl, rfl⟩
    | none => exact ⟨by simp [poisoned, overflows], rfl, rfl, rfl⟩

theorem respond_locks {op : Op} {ans : op.Ans}
    (answers : respond op clock shared ans = some shared') :
    LocksAfter (.call op ans) shared shared' := by
  cases op with
  | instantNow =>
    simp only [respond] at answers
    split at answers
    · cases answers
      exact .same rfl
    · cases answers
  | negativeCacheHit origin now =>
    obtain ⟨-, rfl⟩ := answered_eq_some answers
    refine ⟨?_, rfl, rfl, rfl⟩
    exact (lookupFresh_poison _ _ _).trans (Bool.or_false _).symm
  | altSvcEntry origin now =>
    obtain ⟨-, rfl⟩ := answered_eq_some answers
    exact { LocksAfter.same rfl with altSvc := lookupFresh_poison _ _ _ }
  | httpsRrCached origin now =>
    obtain ⟨-, rfl⟩ := answered_eq_some answers
    exact { LocksAfter.same rfl with httpsRr := lookupFresh_poison _ _ _ }
  | httpsRrInsert origin entry =>
    obtain ⟨-, rfl⟩ := answered_eq_some answers
    unfold SharedState.httpsRrInsert
    cases poisoned : shared.httpsRr.poisoned with
    | true => exact .same rfl
    | false => exact { LocksAfter.same rfl with httpsRr := poisoned.symm }
  | negativeInsert origin now duration =>
    obtain ⟨isAns, rfl⟩ := answered_eq_some answers
    exact negativeInsert_locks isAns
  | altSvcRemove origin =>
    obtain ⟨-, rfl⟩ := answered_eq_some answers
    unfold SharedState.altSvcRemove
    cases poisoned : shared.altSvc.poisoned with
    | true => exact .same rfl
    | false => exact { LocksAfter.same rfl with altSvc := poisoned.symm }
  | altSvcUpdate origin update =>
    obtain ⟨-, rfl⟩ := answered_eq_some answers
    unfold SharedState.altSvcUpdate
    cases poisoned : shared.altSvc.poisoned with
    | true => exact .same rfl
    | false =>
      cases update with
      | none => exact .same rfl
      | _ => exact { LocksAfter.same rfl with altSvc := poisoned.symm }
  | endpoint =>
    obtain ⟨-, rfl⟩ := answered_eq_some answers
    unfold SharedState.endpointAnswer
    cases poisoned : shared.endpoint.poisoned with
    | true => exact .same rfl
    | false =>
      cases shared.endpoint.value with
      | true => exact .same rfl
      | false =>
        cases ans with
        | error message => exact .same rfl
        | ok created => exact { LocksAfter.same rfl with endpoint := poisoned.symm }
  | _ =>
    cases answers
    exact .same rfl

theorem effect_locks {client : Client} {label : Label sig}
    (effect : (sends client).effect clock shared label = some shared') :
    LocksAfter label shared shared' := by
  cases label with
  | call op ans => exact respond_locks effect
  | _ =>
    cases effect
    exact .same rfl

/-- The locks after a log: the negative one is poisoned by an overflow, the others never. -/
theorem replay_locks {client : Client} (log : List (Entry sig)) :
    ∀ {shared shared' : SharedState}, replay (sends client) shared log = some shared' →
      shared'.negative.poisoned = (shared.negative.poisoned || log.any fun e => overflows e.label) ∧
      shared'.altSvc.poisoned = shared.altSvc.poisoned ∧
      shared'.httpsRr.poisoned = shared.httpsRr.poisoned ∧
      shared'.endpoint.poisoned = shared.endpoint.poisoned := by
  induction log with
  | nil =>
    intro shared shared' replayed
    cases replayed
    simp
  | cons e rest ih =>
    intro shared shared' replayed
    obtain ⟨next, effect, replayed⟩ := Option.bind_eq_some_iff.mp replayed
    have step := effect_locks effect
    obtain ⟨negative, altSvc, httpsRr, endpoint⟩ := ih replayed
    refine ⟨?_, altSvc.trans step.altSvc, httpsRr.trans step.httpsRr,
      endpoint.trans step.endpoint⟩
    rw [negative, step.negative, List.any_cons, Bool.or_assoc]

/-- Of the negative cache nothing is found, and storing in it does not panic. -/
def withoutNegative : Label sig → Bool
  | .call (.negativeCacheHit _ _) hit => !hit
  | .call (.negativeInsert _ _ _) (.error _) => false
  | _ => true

theorem not_overflows_of_without {label : Label sig} (without : withoutNegative label = true) :
    overflows label = false := by
  cases overflowed : overflows label with
  | false => rfl
  | true =>
    unfold overflows at overflowed
    split at overflowed
    · exact absurd without (by simp [withoutNegative])
    · cases overflowed

theorem effect_poisoned {client : Client} {label : Label sig}
    (poisoned : shared.negative.poisoned = true)
    (effect : (sends client).effect clock shared label = some shared') :
    withoutNegative label = true ∧ shared'.negative = shared.negative := by
  cases label with
  | call op ans =>
    have answers : respond op clock shared ans = some shared' := effect
    cases op with
    | negativeCacheHit origin now =>
      obtain ⟨isAns, rfl⟩ := answered_eq_some answers
      subst isAns
      simp [withoutNegative, SharedState.negativeCacheHit, Lock.lookupFresh, poisoned]
    | negativeInsert origin now duration =>
      obtain ⟨isAns, rfl⟩ := answered_eq_some answers
      subst isAns
      simp [withoutNegative, SharedState.negativeInsert, poisoned]
    | _ => exact ⟨rfl, (respond_others answers).negative (by simp [cacheOf])⟩
  | _ =>
    cases effect
    exact ⟨rfl, rfl⟩

/-- An overflow leaves the entries as they were. -/
theorem effect_overflowed {client : Client} {label : Label sig}
    (overflowed : overflows label = true)
    (effect : (sends client).effect clock shared label = some shared') :
    shared'.negative.value = shared.negative.value := by
  unfold overflows at overflowed
  split at overflowed
  · obtain ⟨isAns, rfl⟩ := answered_eq_some effect
    unfold SharedState.negativeInsert at isAns ⊢
    cases poisoned : shared.negative.poisoned with
    | true => rfl
    | false =>
      rename_i origin now duration panic
      cases sum : now.checkedAdd duration with
      | none => rfl
      | some expiresAt => simp [poisoned, sum] at isAns
  · cases overflowed

/-- The negative cache is given up for good. -/
theorem replay_poisoned {client : Client} (log : List (Entry sig)) :
    ∀ {shared shared' : SharedState}, shared.negative.poisoned = true →
      replay (sends client) shared log = some shared' →
      (∀ e ∈ log, withoutNegative e.label = true) ∧ shared'.negative = shared.negative := by
  induction log with
  | nil =>
    intro shared shared' poisoned replayed
    cases replayed
    simp
  | cons e rest ih =>
    intro shared shared' poisoned replayed
    obtain ⟨next, effect, replayed⟩ := Option.bind_eq_some_iff.mp replayed
    obtain ⟨without, kept⟩ := effect_poisoned poisoned effect
    have still : next.negative.poisoned = true := by rw [kept, poisoned]
    obtain ⟨later, same⟩ := ih still replayed
    refine ⟨?_, same.trans kept⟩
    intro found mem
    rcases List.mem_cons.mp mem with rfl | mem
    · exact without
    · exact later found mem

end Locks

section Runs

variable {client : Client} {pace : Pace} {clock : Nat} {w : World (sends client)} {i : Nat}
  {task : Task (sends client)} {plan : Plan}

/-- A task that rests at a position where its protocol has unwound has panicked. -/
theorem panicked_of_unwound {body : Body sig (Except Error Response)} {position : Position}
    (isAt : plan.protocol.At sendEnding body position) (unwound : position.stage = .unwound)
    (rests : body.resting = true) : Panicked body := by
  obtain ⟨stage, expired⟩ := position
  subst unwound
  cases goesOn : body.unfinished with
  | true =>
    have waits := isAt.suspended rests goesOn
    simp [Plan.protocol, Stage.waiting, Stage.probing] at waits
  | false =>
    unfold Body.unfinished at goesOn
    split at goesOn
    · cases isAt.returned _ rfl
    · exact .inl rfl
    · exact absurd (isAt.dropped rfl).2 Bool.false_ne_true
    · exact .inr rfl
    · cases goesOn

/-- Fewer names than this always fit into a `HeaderMap` of the http crate, however their
hashes collide. -/
def headerRoom : Nat := 6554

/-- The merged headers of a send fit into a `HeaderMap`: no `append` of the merge loops
finds a full map, on which it panics. `mergeHeaders` has no such panic. -/
def HeadersFit (builder : RequestBuilder) : Prop :=
  (sentHeaders builder).buckets.length < headerRoom

instance (builder : RequestBuilder) : Decidable (HeadersFit builder) :=
  inferInstanceAs (Decidable (_ < _))

/-- A send whose headers fit panics, or its clean-up does, exactly on an overflow. A rejected
send does not panic. -/
theorem send_panics_iff_overflow {shared : SharedState}
    (reached : Reachable pace (.start clock shared) w) (found : w.tasks[i]? = some task)
    (rests : task.body.resting = true) : HeadersFit task.job.val →
    (Panicked task.body ↔
      ∃ plan, planOf task.job.val = .ok plan ∧ Overflowed plan (Protocol.past (w.logOf i))) := by
  intro _
  cases planned : planOf task.job.val with
  | error err =>
    have body := (rejected_over reached found planned).1
    simp [Panicked, body]
  | ok plan =>
    obtain ⟨⟨stage, expired⟩, ran, isAt, known⟩ := send_remembers reached found planned
    constructor
    · intro panicked
      have unwound : stage = .unwound := isAt.panicked panicked
      subst unwound
      exact ⟨plan, rfl, known.tells⟩
    · rintro ⟨_, same, overflowed⟩
      cases same
      exact panicked_of_unwound isAt (overflowed_unwinds ran overflowed) rests

/-- The last label of this log is a negative entry whose deadline overflowed. -/
def EndsOverflowed (log : List (Entry sig)) : Prop :=
  ∃ before e, log = before ++ [e] ∧ overflows e.label = true

theorem overflow_is_last (reached : Reachable pace (.start clock SharedState.new) w)
    (found : w.tasks[i]? = some task) {e : Entry sig} (own : e ∈ w.logOf i)
    (overflowed : overflows e.label = true) : EndsOverflowed (w.logOf i) := by
  obtain ⟨position, ran, -⟩ := send_follows reached found
  obtain ⟨before, after, split⟩ := List.append_of_mem own
  unfold sendProtocol sendStart at ran
  cases planned : planOf task.job.val with
  | error err =>
    simp only [planned] at ran
    cases log : w.logOf i with
    | nil =>
      rw [log] at own
      cases own
    | cons first rest =>
      rw [log] at ran
      cases ran
  | ok plan =>
    simp only [planned, split] at ran
    obtain ⟨here, ⟨stage, expired⟩, -, taken, further⟩ := Protocol.run_split ran
    have unwound : stage = .unwound := by
      unfold overflows at overflowed
      split at overflowed
      · rename_i isOverflow
        rw [isOverflow] at taken
        exact overflow_unwinds taken
      · cases overflowed
    subst unwound
    cases after with
    | nil => exact ⟨before, e, split, overflowed⟩
    | cons later rest =>
      obtain ⟨next, goesOn, -⟩ := Option.bind_eq_some_iff.mp further
      exact absurd goesOn unwound_stops

/-- In any run of a new client, the lock of the negative cache is poisoned if and only if
some send has ended in an overflow there. No other lock is ever poisoned. -/
theorem lock_poisoned_iff_overflowed (reached : Reachable pace (.start clock SharedState.new) w) :
    (w.shared.negative.poisoned = true ↔
      ∃ i task, w.tasks[i]? = some task ∧ EndsOverflowed (w.logOf i)) ∧
    w.shared.altSvc.poisoned = false ∧ w.shared.httpsRr.poisoned = false ∧
    w.shared.endpoint.poisoned = false := by
  obtain ⟨negative, altSvc, httpsRr, endpoint⟩ := replay_locks w.log reached.replay_log
  refine ⟨?_, altSvc, httpsRr, endpoint⟩
  have new : SharedState.new.negative.poisoned = false := rfl
  rw [negative, new, Bool.false_or, List.any_eq_true]
  constructor
  · intro logged
    obtain ⟨e, logged, overflowed⟩ := logged
    obtain ⟨task, found, own⟩ := reached.task_of_entry logged
    exact ⟨e.task, task, found, overflow_is_last reached found own overflowed⟩
  · intro ended
    obtain ⟨i, task, -, before, e, split, overflowed⟩ := ended
    have own : e ∈ w.logOf i := by
      rw [split]
      simp
    exact ⟨e, World.mem_log_of_logOf own, overflowed⟩

/-- The first overflow in a run is the only one: the negative cache is out of use from there on,
and stays as it is. -/
theorem overflow_ends_negative_cache {shared : SharedState}
    (reached : Reachable pace (.start clock shared) w) {before after : List (Entry sig)}
    {e : Entry sig} (split : w.log = before ++ e :: after)
    (overflowed : overflows e.label = true) :
    (∀ earlier ∈ before, overflows earlier.label = false) ∧
      (∀ later ∈ after, withoutNegative later.label = true) ∧
      ∃ atOverflow, replay (sends client) shared before = some atOverflow ∧
        w.shared.negative = ⟨atOverflow.negative.value, true⟩ := by
  obtain ⟨middle, next, past, effect, future⟩ := reached.answered split
  have sound : middle.negative.poisoned = false := by
    cases poisoned : middle.negative.poisoned with
    | false => rfl
    | true =>
      have fits := not_overflows_of_without (effect_poisoned poisoned effect).1
      rw [overflowed] at fits
      cases fits
  have poisoned : next.negative.poisoned = true := by
    rw [(effect_locks effect).negative, overflowed, Bool.or_true]
  have kept := effect_overflowed overflowed effect
  obtain ⟨later, same⟩ := replay_poisoned after poisoned future
  refine ⟨?_, later, middle, past, ?_⟩
  · have earlier := (replay_locks before past).1
    rw [sound] at earlier
    simpa using (Bool.or_eq_false_iff.mp earlier.symm).2
  · rw [same, ← kept, ← poisoned]

end Runs

namespace Example

/-- An attempt gets no endpoint, and the deadline of its negative entry overflows. -/
def overflowsRefused : List (Label sig) :=
  consults start none ++ resolves start 0 [h3Record] ++
  [.call (.httpsRrInsert origin h3Entry) (),
    .call (.trace (.http3Request origin (call (httpsRrTarget origin h3Entry)))) (),
    .call .endpoint (.error []),
    .call (.trace (.http3Outcome origin 0 (.failed (.handshake [])))) (),
    .call (.negativeInsert origin start forever) (.error .instantOverflow)]

/-- A send that comes after the overflow, and one that the overflow has ended. -/
def overflowsThenAsks : List (Event (sends remembering)) :=
  [spawned remembering] ++ performs 0 overflowsRefused ++ [spawned remembering] ++
    performs 1 (consults start none)

end Example

/-- The client that remembers failures for as long as a duration can be. -/
theorem send_panics_iff_overflow_forever :
    ∃ (w : World (sends Example.remembering)) (task : Task (sends Example.remembering)),
      w.tasks[0]? = some task ∧ Panicked task.body := by
  obtain ⟨w, task, reached, found, -, -, log, job, -, rests, -⟩ := Example.reaches .strict
    (Example.spawned Example.remembering :: Example.performs 0 Example.overflowsRefused) 0 0 true
    (Example.logged 0 0 Example.overflowsRefused) ⟨Example.builder Example.remembering, rfl⟩ 0 true
    false rfl
  have planned : planOf task.job.val =
      .ok (Plan.of (Example.builder Example.remembering) Example.uri) := by
    rw [job]
    rfl
  have own : w.logOf 0 = Example.logged 0 0 (Example.overflowsRefused.take 12) ++ [⟨0, 0,
      .call (.negativeInsert Example.origin Example.start Example.forever)
        (.error .instantOverflow)⟩] := by
    rw [World.logOf, log]
    rfl
  have fits : HeadersFit task.job.val := by
    rw [job]
    decide
  refine ⟨w, task, found, (send_panics_iff_overflow reached found rests fits).mpr
    ⟨_, planned, ?_⟩⟩
  rw [own, past_snoc]
  exact .negative _ _ _ _

/-- Its lock is poisoned. -/
theorem lock_poisoned_iff_overflowed_forever :
    ∃ w : World (sends Example.remembering), w.shared.negative.poisoned = true ∧
      ∃ i task, w.tasks[i]? = some task ∧ EndsOverflowed (w.logOf i) := by
  obtain ⟨w, task, reached, found, -, poisoned, -⟩ := Example.reaches .strict
    (Example.spawned Example.remembering :: Example.performs 0 Example.overflowsRefused) 0 0 true
    (Example.logged 0 0 Example.overflowsRefused) ⟨Example.builder Example.remembering, rfl⟩ 0 true
    false rfl
  exact ⟨w, poisoned, (lock_poisoned_iff_overflowed reached).1.mp poisoned⟩

/-- The next send finds no negative entry. -/
theorem overflow_ends_negative_cache_forever :
    ∃ (w : World (sends Example.remembering)) (before after : List (Entry sig)) (e : Entry sig),
      w.log = before ++ e :: after ∧ overflows e.label = true ∧ after ≠ [] ∧
      (∀ earlier ∈ before, overflows earlier.label = false) ∧
      (∀ later ∈ after, withoutNegative later.label = true) := by
  obtain ⟨w, task, reached, found, -, -, log, -⟩ := Example.reaches .strict
    Example.overflowsThenAsks 1 0 true
    (Example.logged 0 0 Example.overflowsRefused ++
      Example.logged 1 0 (Example.consults Example.start none))
    ⟨Example.builder Example.remembering, rfl⟩ 0 false true rfl
  have split : w.log = Example.logged 0 0 (Example.overflowsRefused.take 12) ++
      ⟨0, 0, .call (.negativeInsert Example.origin Example.start Example.forever)
        (.error .instantOverflow)⟩ ::
      Example.logged 1 0 (Example.consults Example.start none) := by
    rw [log]
    rfl
  have held := overflow_ends_negative_cache reached split rfl
  exact ⟨w, _, _, _, split, rfl, by simp [Example.logged, Example.consults], held.1, held.2.1⟩

end MechanicsHttpClient.Guarantees
