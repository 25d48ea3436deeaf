import MechanicsHttpClient.Runtime.Dropping
import MechanicsHttpClient.Guarantees.SendOutcome

/-!
# How a dropped send ends

The point at which a send is dropped is a suspension point of its protocol. Only in an
attempt is there anything left to do, and the protocol has one way through it:
`Relinquishes` says what stood in the log at the drop and what has come to it since. The
origin of every attempt is the one that the send aims at (`aimed_run`).
-/

namespace MechanicsHttpClient.Guarantees

open MechanicsHttpClient.Runtime
open MechanicsHttpClient.Source

/-- What a dropped send has done since, when `past` was done before: nothing when it waited
for the HTTPS records or for hyper, and the clean-up of the one attempt that was in flight,
for the origin of that attempt, otherwise. -/
inductive Relinquishes (plan : Plan) (past : List (Label sig)) : List (Entry sig) → Prop where
  | lookup {aim : Aim} (aimed : plan.aim = some aim) (older : List (Label sig))
      (waits : past = .issue (.lookupHttps aim.origin.host) :: older)
      (idle : inFlight past = none) : Relinquishes plan past []
  | hyper (older : List (Label sig)) (waits : past = .issue (.hyperRequest plan.tcpRequest) :: older)
      (idle : inFlight past = none) : Relinquishes plan past []
  | attempt {aim : Aim} (aimed : plan.aim = some aim) (busy : inFlight past = some aim.origin)
      (i traced : Nat) (now : Instant) (stored removed : Nat) :
      Relinquishes plan past
        [⟨i, traced, .call (.trace (.http3Dropped aim.origin)) ()⟩,
          ⟨i, now.nanos, .call .instantNow now⟩,
          ⟨i, stored, .call (.negativeInsert aim.origin now plan.negativeFor) (.ok ())⟩,
          ⟨i, removed, .call (.altSvcRemove aim.origin) ()⟩]

/-- What HTTP/3 is being tried for. -/
def Stage.aim : Stage → Option Aim
  | .arming aim => some aim
  | .entering aim => some aim
  | .reading aim => some aim
  | .checking aim _ => some aim
  | .recalling aim _ => some aim
  | .routing aim _ _ => some aim
  | .opening round => some round.aim
  | .attempting round _ _ => some round.aim
  | .closing round _ => some round.aim
  | .blaming round => some round.aim
  | .evicting round => some round.aim
  | .caching aim _ => some aim
  | .looking aim _ _ => some aim
  | .storing aim _ _ => some aim
  | .dropping aim => some aim
  | .condemning aim _ => some aim
  | .uprooting aim => some aim
  | .dropped aim => some aim
  | .timedOut aim _ => some aim
  | .expelling aim => some aim
  | _ => none

/-- The stage aims where `aim` does, if it aims anywhere. -/
def Stage.Within (stage : Stage) (aim : Aim) : Prop := stage.aim = none ∨ stage.aim = some aim

section Aims

variable {plan : Plan} {round : Round} {label : Label sig}

theorem AttemptStep.within {leg : Leg} {wait : Wait} {next : Stage}
    (step : AttemptStep plan round leg wait label next) : next.Within round.aim := by
  cases step with
  | opens stream =>
    obtain ⟨leg, same, -⟩ := round.opened_eq stream
    rw [same]
    exact .inr rfl
  | _ => exact .inr rfl

theorem Round.next_within (round : Round) (result : Except Http3AttemptError Response) :
    (round.next result).Within round.aim := by
  unfold Round.next
  split
  · exact .inl rfl
  · exact .inr rfl
  · split
    · exact .inr rfl
    · exact .inr rfl

theorem Round.abandon_within (round : Round) : round.abandon.Within round.aim := by
  unfold Round.abandon
  split
  · exact .inr rfl
  · exact .inl rfl

theorem advertised_within (aim : Aim) (now : Instant) (entry : HttpsRr.HttpsRrEntry) :
    (Plan.advertised aim now entry).Within aim := by
  unfold Plan.advertised
  split
  · exact .inr rfl
  · exact .inl rfl

/-- A row of the table does not change the aim. -/
theorem aim_move {stage after : Stage} (moved : (plan.move stage).step label = some after) :
    after.aim = none ∨ after.aim = stage.aim := by
  cases stage with
  | arming aim =>
    obtain ⟨-, rfl⟩ := Move.step_arm_iff.mp moved
    exact .inr rfl
  | entering aim =>
    obtain ⟨_, -, rfl⟩ := Move.step_call_iff.mp moved
    exact .inr rfl
  | reading aim =>
    obtain ⟨now, -, rfl⟩ := Move.step_call_iff.mp moved
    exact .inr rfl
  | checking aim now =>
    obtain ⟨hit, -, rfl⟩ := Move.step_call_iff.mp moved
    cases hit with
    | true => exact .inl rfl
    | false => exact .inr rfl
  | recalling aim now =>
    obtain ⟨found, -, rfl⟩ := Move.step_call_iff.mp moved
    cases found with
    | some entry => exact .inr rfl
    | none => exact .inr rfl
  | routing aim now entry =>
    obtain ⟨_, -, rfl⟩ := Move.step_call_iff.mp moved
    exact .inr rfl
  | opening round =>
    obtain ⟨_, -, rfl⟩ := Move.step_call_iff.mp moved
    exact .inr rfl
  | attempting round leg wait => exact (Plan.attemptMove_step moved).within
  | closing round result =>
    obtain ⟨_, -, rfl⟩ := Move.step_call_iff.mp moved
    exact round.next_within result
  | blaming round =>
    obtain ⟨stored, -, rfl⟩ := Move.step_call_iff.mp moved
    cases stored with
    | ok _ => exact .inr rfl
    | error panic => exact .inl rfl
  | evicting round =>
    obtain ⟨_, -, rfl⟩ := Move.step_call_iff.mp moved
    exact round.abandon_within
  | caching aim now =>
    obtain ⟨cached, -, rfl⟩ := Move.step_call_iff.mp moved
    cases cached with
    | some entry => exact advertised_within aim now entry
    | none => exact .inr rfl
  | looking aim now wait =>
    rw [Plan.move] at moved
    rcases Await.step_cases moved with
      ⟨timer, deadline, -, -, -, rfl⟩ | ⟨-, -, rfl⟩ | ⟨ans, -, -, rfl⟩ |
      ⟨timer, j, deadline, -, -, -, rfl⟩
    · exact .inr rfl
    · exact .inr rfl
    · rcases ans with e | records
      · exact .inl rfl
      · simp only
        split
        · exact .inr rfl
        · exact .inl rfl
    · exact .inl rfl
  | storing aim now entry =>
    obtain ⟨_, -, rfl⟩ := Move.step_call_iff.mp moved
    exact advertised_within aim now entry
  | leaving response =>
    cases response with
    | some response =>
      obtain ⟨_, -, rfl⟩ := Move.step_call_iff.mp moved
      exact .inl rfl
    | none =>
      obtain ⟨_, -, rfl⟩ := Move.step_call_iff.mp moved
      exact .inl rfl
  | transmitting wait =>
    rw [Plan.move] at moved
    rcases Await.step_cases moved with
      ⟨timer, deadline, -, -, -, rfl⟩ | ⟨-, -, rfl⟩ | ⟨ans, -, -, rfl⟩ |
      ⟨timer, j, deadline, -, -, -, rfl⟩
    · exact .inl rfl
    · exact .inl rfl
    · rcases ans with err | ⟨parts, incoming⟩
      · exact .inl rfl
      · simp only [Plan.answered, Plan.arrived]
        split
        · exact .inl rfl
        · exact .inl rfl
    · exact .inl rfl
  | learning response origin value =>
    obtain ⟨now, -, rfl⟩ := Move.step_call_iff.mp moved
    cases AltSvc.parseHeader value now origin.port with
    | ok update => exact .inl rfl
    | error panic => exact .inl rfl
  | updating response origin update =>
    obtain ⟨_, -, rfl⟩ := Move.step_call_iff.mp moved
    exact .inl rfl
  | dropping aim =>
    obtain ⟨now, -, rfl⟩ := Move.step_call_iff.mp moved
    exact .inr rfl
  | condemning aim now =>
    obtain ⟨stored, -, rfl⟩ := Move.step_call_iff.mp moved
    cases stored with
    | ok _ => exact .inr rfl
    | error panic => exact .inl rfl
  | uprooting aim =>
    obtain ⟨_, -, rfl⟩ := Move.step_call_iff.mp moved
    exact .inr rfl
  | timedOut aim now =>
    obtain ⟨stored, -, rfl⟩ := Move.step_call_iff.mp moved
    cases stored with
    | ok _ => exact .inr rfl
    | error panic => exact .inl rfl
  | expelling aim =>
    obtain ⟨_, -, rfl⟩ := Move.step_call_iff.mp moved
    exact .inl rfl
  | dropped aim => exact absurd moved Move.step_stop
  | ended result => exact absurd moved Move.step_stop
  | unwound => exact absurd moved Move.step_stop

theorem aim_step {position next : Position}
    (taken : plan.protocol.step position label = some next) :
    next.stage.aim = none ∨ next.stage.aim = position.stage.aim := by
  obtain ⟨stage, expired⟩ := position
  rcases Plan.step_cases taken with
    ⟨after, moved, rfl, -⟩ | ⟨after, op, ans, -, cleaned, rfl⟩ |
    ⟨after, op, ans, -, -, cut, rfl⟩ | ⟨j, deadline, -, -, -, rfl⟩
  · exact aim_move moved
  · unfold Plan.cleanup at cleaned
    split at cleaned
    · obtain ⟨_, -, rfl⟩ := Move.step_call_iff.mp cleaned
      exact .inr rfl
    · exact absurd cleaned Move.step_stop
  · unfold Plan.afterCut at cut
    split at cut
    · obtain ⟨now, -, rfl⟩ := Move.step_call_iff.mp cut
      exact .inr rfl
    · obtain ⟨now, -, rfl⟩ := Move.step_call_iff.mp cut
      exact .inr rfl
    · exact absurd cut Move.step_stop
  · exact .inr rfl

/-- Whatever a send is doing for HTTP/3, it is doing it for its aim. -/
theorem aimed_run {position : Position} {log : List (Entry sig)}
    (ran : plan.protocol.run ⟨plan.start, false⟩ log = some position) :
    position.stage.aim = none ∨ position.stage.aim = plan.aim := by
  refine Protocol.run_remembers (I := fun _ position => position.stage.aim = none ∨
    position.stage.aim = plan.aim) ?_ ran ?_
  · intro past position label next taken before
    rcases aim_step taken with none | same
    · exact .inl none
    · rw [same]
      exact before
  · unfold Plan.start
    cases aim : plan.aim with
    | none => exact .inl rfl
    | some aim =>
      simp only
      split
      · exact .inr rfl
      · exact .inr rfl

end Aims

section Cleanup

variable {plan : Plan}

/-- A suspended send that is not in an attempt has nothing to call. -/
theorem suspended_calls {stage : Stage} {op : Op} {ans : op.Ans} {next : Position}
    (waiting : stage.waiting = true)
    (taken : plan.protocol.step ⟨stage, false⟩ (.call op ans) = some next) :
    ∃ round leg, stage = .attempting round leg .issued ∧
      (.call op ans : Label sig) = .call (.trace (.http3Dropped round.origin)) () ∧
      next = ⟨.dropping round.aim, false⟩ := by
  rcases Plan.step_cases taken with
    ⟨after, moved, -, -⟩ | ⟨after, op, ans, -, cleaned, rfl⟩ |
    ⟨after, op, ans, -, no, -, -⟩ | ⟨j, deadline, no, -, -, -⟩
  · unfold Stage.waiting Stage.probing at waiting
    split at waiting
    · rw [Plan.move] at moved
      exact absurd moved Await.step_called
    · split at waiting
      · rename_i round leg _
        cases (Plan.attemptMove_step moved).due
      · rw [Plan.move] at moved
        exact absurd moved Await.step_called
      · cases waiting
  · unfold Plan.cleanup at cleaned
    split at cleaned
    · rename_i round leg
      obtain ⟨_, same, rfl⟩ := Move.step_call_iff.mp cleaned
      exact ⟨round, leg, rfl, same, rfl⟩
    · exact absurd cleaned Move.step_stop
  · cases no
  · cases no

/-- The rest of a clean-up, and of the table where the request's timeout has not expired. -/
theorem moved_of_call {stage : Stage} {op : Op} {ans : op.Ans} {next : Position}
    (quiet : Plan.cleanup stage = .stop)
    (taken : plan.protocol.step ⟨stage, false⟩ (.call op ans) = some next) :
    ∃ after, (plan.move stage).step (.call op ans) = some after ∧ next = ⟨after, false⟩ := by
  rcases Plan.step_cases taken with
    ⟨after, moved, rfl, -⟩ | ⟨after, op, ans, -, cleaned, -⟩ |
    ⟨after, op, ans, -, no, -, -⟩ | ⟨j, deadline, no, -, -, -⟩
  · exact ⟨after, moved, rfl⟩
  · rw [quiet] at cleaned
    exact absurd cleaned Move.step_stop
  · cases no
  · cases no

/-- A synchronous run of the protocol, step by step. -/
theorem run_calls {position final : Position} {log : List (Entry sig)}
    (ran : plan.protocol.run position log = some final)
    (calls : ∀ e ∈ log, ∃ op ans, e.label = .call op ans) :
    (log = [] ∧ final = position) ∨ ∃ i t op ans rest next,
      log = ⟨i, t, .call op ans⟩ :: rest ∧
      plan.protocol.step position (.call op ans) = some next ∧
      plan.protocol.run next rest = some final ∧
      ∀ e ∈ rest, ∃ op ans, e.label = .call op ans := by
  cases log with
  | nil => exact .inl ⟨rfl, (Option.some.inj ran).symm⟩
  | cons e rest =>
    obtain ⟨i, t, label⟩ := e
    obtain ⟨op, ans, rfl⟩ := calls _ List.mem_cons_self
    obtain ⟨next, taken, ran⟩ := Option.bind_eq_some_iff.mp ran
    exact .inr ⟨i, t, op, ans, rest, next, rfl, taken, ran,
      fun e mem => calls e (List.mem_cons_of_mem _ mem)⟩

/-- The one way through the clean-up of an attempt. -/
theorem cleanup_run {aim : Aim} {final : Position} {log : List (Entry sig)}
    (ran : plan.protocol.run ⟨.dropping aim, false⟩ log = some final)
    (calls : ∀ e ∈ log, ∃ op ans, e.label = .call op ans)
    (done : final.expired = false ∧ final.stage.abandoned = true) :
    ∃ i t now j stored k removed, log =
      [⟨i, t, .call .instantNow now⟩,
        ⟨j, stored, .call (.negativeInsert aim.origin now plan.negativeFor) (.ok ())⟩,
        ⟨k, removed, .call (.altSvcRemove aim.origin) ()⟩] := by
  rcases run_calls ran calls with ⟨rfl, rfl⟩ | ⟨i, t, op, ans, rest, next, rfl, taken, ran, calls⟩
  · exact absurd done.2 Bool.false_ne_true
  obtain ⟨after, moved, rfl⟩ := moved_of_call rfl taken
  obtain ⟨now, read, rfl⟩ := Move.step_call_iff.mp moved
  rcases run_calls ran calls with ⟨rfl, rfl⟩ | ⟨j, t', op', ans', rest, next, rfl, taken, ran, calls⟩
  · exact absurd done.2 Bool.false_ne_true
  obtain ⟨after, moved, rfl⟩ := moved_of_call rfl taken
  obtain ⟨stored, insert, rfl⟩ := Move.step_call_iff.mp moved
  cases stored with
  | error panic =>
    -- the overflow of the deadline unwinds, and nothing follows it
    rcases run_calls ran calls with ⟨-, rfl⟩ | ⟨_, _, op, ans, rest, next, rfl, taken, -, -⟩
    · exact absurd done.2 Bool.false_ne_true
    · obtain ⟨after, moved, -⟩ := moved_of_call rfl taken
      exact absurd moved Move.step_stop
  | ok _ =>
    rcases run_calls ran calls with
      ⟨rfl, rfl⟩ | ⟨k, t'', op'', ans'', rest, next, rfl, taken, ran, calls⟩
    · exact absurd done.2 Bool.false_ne_true
    obtain ⟨after, moved, rfl⟩ := moved_of_call rfl taken
    obtain ⟨_, removed, rfl⟩ := Move.step_call_iff.mp moved
    rcases run_calls ran calls with ⟨rfl, -⟩ | ⟨_, _, op, ans, rest, next, rfl, taken, -, -⟩
    · exact ⟨i, t, now, j, t', k, t'', by rw [read, insert, removed]⟩
    · obtain ⟨after, moved, -⟩ := moved_of_call rfl taken
      exact absurd moved Move.step_stop

/-- From a suspension point to the end of the drop. -/
theorem relinquishes_run {past : List (Label sig)} {position final : Position}
    {log : List (Entry sig)} {i : Nat} (known : Remembers plan past position)
    (aimed : position.stage.aim = none ∨ position.stage.aim = plan.aim)
    (waits : plan.protocol.waits position = true)
    (ran : plan.protocol.run position log = some final)
    (calls : ∀ e ∈ log, ∃ op ans, e.label = .call op ans)
    (own : ∀ e ∈ log, e.task = i)
    (clocked : ∀ e ∈ log, ∀ now, e.label = .call .instantNow now → now.nanos = e.time)
    (done : final.expired = false ∧ final.stage.abandoned = true) :
    Relinquishes plan past log := by
  obtain ⟨stage, expired⟩ := position
  simp only [Plan.protocol, Bool.and_eq_true, Bool.not_eq_true'] at waits
  obtain ⟨rfl, waiting⟩ := waits
  have flight : inFlight past = stage.flies := known.flight
  have tells : stage.Tells plan false past := known.tells
  rcases run_calls ran calls with
    ⟨rfl, rfl⟩ | ⟨i', t, op, ans, rest, next, rfl, taken, ran, calls⟩
  · unfold Stage.waiting Stage.probing at waiting
    split at waiting
    · obtain ⟨older, waits⟩ := tells rfl
      exact .hyper older waits flight
    · split at waiting
      · exact absurd done.2 Bool.false_ne_true
      · rcases aimed with none | same
        · cases none
        · obtain ⟨older, waits⟩ := tells rfl
          exact .lookup same.symm older waits flight
      · cases waiting
  · obtain ⟨round, leg, rfl, traced, rfl⟩ := suspended_calls waiting taken
    obtain ⟨i₂, read, now, i₃, stored, i₄, removed, rfl⟩ := cleanup_run ran calls done
    have aims : plan.aim = some round.aim := by
      rcases aimed with none | same
      · cases none
      · exact same.symm
    simp only [List.mem_cons, List.not_mem_nil, or_false, forall_eq_or_imp, forall_eq] at own
    obtain ⟨own₁, own₂, own₃, own₄⟩ := own
    have reading : now.nanos = read :=
      clocked ⟨i₂, read, .call .instantNow now⟩ (by simp) now rfl
    rw [traced, own₁, own₂, own₃, own₄, ← reading]
    exact .attempt aims flight i t now stored removed

end Cleanup

section Runs

variable {client : Client} {pace : Pace} {clock : Nat} {shared : SharedState}
  {w : World (sends client)} {i : Nat} {task : Task (sends client)}

/-- A clock reading is the clock. -/
theorem clock_read (reached : Reachable pace (.start clock shared) w) {e : Entry sig}
    (logged : e ∈ w.log) {now : Instant} (read : e.label = .call .instantNow now) :
    now.nanos = e.time := by
  obtain ⟨before, after, split⟩ := List.append_of_mem logged
  obtain ⟨middle, shared', -, answered, -⟩ := reached.answered split
  rw [read] at answered
  by_contra other
  exact absurd answered (by simp [System.effect, sends, respond, other])

/-- A dropped send was never rejected. -/
theorem dropped_planned (reached : Reachable pace (.start clock shared) w)
    (found : w.tasks[i]? = some task) (gone : task.body = .dropping (.ret ())) :
    ∃ plan, planOf task.job.val = .ok plan := by
  cases planned : planOf task.job.val with
  | ok plan => exact ⟨plan, rfl⟩
  | error err =>
    have body := (rejected_over reached found planned).1
    rw [gone] at body
    cases body

/-- A send that has been dropped and is gone: since the drop it has cleaned up after the
one attempt that was in flight, or has done nothing. -/
theorem dropped_send_relinquishes (reached : Reachable pace (.start clock shared) w)
    (found : w.tasks[i]? = some task) (gone : task.body = .dropping (.ret ())) :
    ∃ plan w₀ w₁ since, planOf task.job.val = .ok plan ∧
      Reachable pace (.start clock shared) w₀ ∧ w₀.next pace (.drop i) = some w₁ ∧
      Reachable pace w₁ w ∧ w.logOf i = w₀.logOf i ++ since ∧
      Relinquishes plan (Protocol.past (w₀.logOf i)) since ∧
      (∀ e ∈ since, w₀.clock ≤ e.time) ∧
      (pace.instant = true → ∀ e ∈ since, e.time = w₀.clock) := by
  obtain ⟨w₀, w₁, since, reached₀, dropped, later, known⟩ := reached.dropped found gone
  obtain ⟨plan, planned⟩ := dropped_planned reached found gone
  obtain ⟨before, found₀, rests, unfinished, sameJob⟩ := known.job
  obtain ⟨position, ran₀, isAt₀, remembers⟩ := send_remembers reached₀ found₀ (sameJob ▸ planned)
  obtain ⟨final, ran, isAt, -⟩ := send_remembers reached found planned
  rw [known.log, Protocol.run_append, ran₀, Option.bind_some] at ran
  refine ⟨plan, w₀, w₁, since, planned, reached₀, dropped, later, known.log, ?_, known.later,
    known.atOnce⟩
  have logged : ∀ e ∈ since, e ∈ w.logOf i := by
    intro e mem
    rw [known.log]
    exact List.mem_append_right _ mem
  refine relinquishes_run (i := i) remembers (aimed_run ran₀) (isAt₀.suspended rests unfinished) ran
    known.calls ?_ ?_ (isAt.dropped gone)
  · intro e mem
    have own := (List.mem_filter.mp (logged e mem)).2
    simpa using own
  · intro e mem now read
    exact clock_read reached (World.mem_log_of_logOf (logged e mem)) read

end Runs

namespace Example

/-- Dropped while the addresses of the host are looked up. -/
def droppedInAttempt : List (Event (sends hurried)) :=
  spawned hurried :: performs 0 awaitsAddresses ++ .drop 0 :: performs 0
    [.call (.trace (.http3Dropped origin)) (), .call .instantNow start,
      .call (.negativeInsert origin start hurried.http3NegativeCacheDuration) (.ok ()),
      .call (.altSvcRemove origin) ()]

end Example

/-- The attempt that is dropped leaves a negative entry, at the instant of the drop. -/
theorem dropped_send_relinquishes_attempt :
    ∃ (w w₀ : World (sends Example.hurried)) (plan : Plan) (since : List (Entry sig)),
      planOf (Example.builder Example.hurried) = .ok plan ∧
      w.logOf 0 = w₀.logOf 0 ++ since ∧ Relinquishes plan (Protocol.past (w₀.logOf 0)) since ∧
      (∀ e ∈ since, e.time = w₀.clock) ∧
      ∃ e ∈ w.logOf 0, e.label = .call (.trace (.http3Dropped Example.origin)) () := by
  obtain ⟨w, task, reached, found, log, job, isOver⟩ := Example.ends .strict
    Example.droppedInAttempt 0
    (Example.logged 0 0 Example.awaitsAddresses ++ Example.logged 0 0
      [.call (.trace (.http3Dropped Example.origin)) (), .call .instantNow Example.start,
        .call (.negativeInsert Example.origin Example.start
          Example.hurried.http3NegativeCacheDuration) (.ok ()),
        .call (.altSvcRemove Example.origin) ()])
    ⟨Example.builder Example.hurried, rfl⟩ none rfl
  obtain ⟨plan, w₀, w₁, since, planned, -, -, -, grown, relinquished, -, atOnce⟩ :=
    dropped_send_relinquishes reached found (Example.ended_dropped isOver)
  rw [job] at planned
  refine ⟨w, w₀, plan, since, planned, grown, relinquished, atOnce rfl, ?_⟩
  rw [World.logOf, log]
  exact ⟨⟨0, 0, .call (.trace (.http3Dropped Example.origin)) ()⟩,
    by simp [Example.logged], rfl⟩

end MechanicsHttpClient.Guarantees
