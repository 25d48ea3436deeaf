import MechanicsHttpClient.Guarantees.NegativeWindow
import MechanicsHttpClient.Guarantees.RequestDeadline
import MechanicsHttpClient.Guarantees.SendProtocol

/-!
# How long a send can be pending

src/request.rs:201-250. The request's timeout is armed for each of the two phases
of `send`. Whatever happens inside them, and whatever the HTTP/3 phase does after
its timeout, a send with a timeout is over once it has passed twice, and once it
has passed where HTTP/3 is not tried.
-/

namespace MechanicsHttpClient.Guarantees

open MechanicsHttpClient.Runtime
open MechanicsHttpClient.Source

section Phases

variable {builder : RequestBuilder} {uri : Uri} {d : Duration}

theorem insertNegative_lasts (client : Client) (origin : Origin) (now : Instant) :
    (Prog.ofSync (insertNegative client origin now)).Lasts .everything 0 :=
  Prog.Lasts.ofSync 0 _ (insertNegative_uses True.intro True.intro True.intro)

theorem h3TimedOut_lasts (origin : Origin) : (h3TimedOut builder origin).Lasts .everything 0 := by
  refine Prog.Lasts.mono (Nat.le_refl (0 + 0)) (Prog.Lasts.bind (Prog.Lasts.perform True.intro 0) ?_)
  intro now
  refine Prog.Lasts.mono (Nat.le_refl (0 + 0))
    (Prog.Lasts.bind (insertNegative_lasts builder.client origin now) ?_)
  exact fun _ => Prog.Lasts.ret _ 0

theorem h3Result_lasts (timed : builder.effectiveTimeout = some d) (origin : Origin)
    (request : Request Unit) (body : Option Bytes) :
    (h3Result builder origin (h3Attempt builder origin request body)).Lasts .everything d.nanos := by
  have uses : (h3Attempt builder origin request body).Uses .everything := by
    have tried := (tryHttp3_inside builder.client origin request body).mono
      insideTryHttp3.within_everything
    refine Prog.Uses.bind ?_ _ tried
    intro result
    refine Prog.Uses.bind ?_ _ (Prog.Uses.perform True.intro)
    exact fun _ => True.intro
  unfold h3Result
  rw [timed]
  refine Prog.Lasts.mono (Nat.le_refl (d.nanos + 0))
    (Prog.Lasts.bind (Prog.Lasts.timeout True.intro uses) ?_)
  intro result
  cases result with
  | some result => exact Prog.Lasts.ret result 0
  | none => exact h3TimedOut_lasts origin

theorem tcpPhase_lasts (timed : builder.effectiveTimeout = some d) (headers : HeaderMap) :
    (tcpPhase builder uri headers).Lasts .everything d.nanos := by
  unfold tcpPhase
  rw [timed]
  refine Prog.Lasts.mono (Nat.le_refl (d.nanos + 0))
    (Prog.Lasts.bind (Prog.Lasts.timeout True.intro (Prog.Uses.suspend True.intro)) ?_)
  intro result
  rcases result with _ | err | ⟨parts, incoming⟩
  · exact Prog.Lasts.ret _ 0
  · exact Prog.Lasts.ret _ 0
  · have learns := maybeUpdateAltSvc_lasts uri (Response.new parts incoming)
    refine Prog.Lasts.mono (Nat.le_refl (0 + 0)) (Prog.Lasts.bind (learns.widen deadlineQuiet.within_everything) ?_)
    exact fun _ => Prog.Lasts.ret _ 0

end Phases

/-- Once for each phase that is entered. -/
def pendingBound (builder : RequestBuilder) : Option Nat :=
  builder.effectiveTimeout.map fun d =>
    match planOf builder with
    | .ok plan => if plan.aim.isSome then 2 * d.nanos else d.nanos
    | .error _ => 0

/-- Where HTTP/3 is not tried the first phase does nothing. -/
theorem http3Phase_lasts {builder : RequestBuilder} {d : Duration}
    (timed : builder.effectiveTimeout = some d) (uri : Uri) (headers : HeaderMap) :
    (http3Phase builder uri headers).Lasts .everything
      (if (Plan.of builder uri).aim.isSome then d.nanos else 0) := by
  unfold http3Phase Plan.of
  cases builder.client.http3Enabled with
  | false => exact Prog.Lasts.ret _ 0
  | true =>
    cases Origin.fromUri uri with
    | none => exact Prog.Lasts.ret _ 0
    | some origin =>
      cases builder.body.replayableForH3 with
      | none => exact Prog.Lasts.ret _ 0
      | some body => exact h3Result_lasts timed origin _ body

/-- What `send` does with the outcome of its first phase. -/
def secondPhase (builder : RequestBuilder) (uri : Uri) :
    Option Response → Prog sig (Except Error Response)
  | some response => .ret (.ok response)
  | none => tcpPhase builder uri (sentHeaders builder)

theorem send_lasts {builder : RequestBuilder} {bound : Nat}
    (bounded : pendingBound builder = some bound) : (send builder).Lasts .everything bound := by
  obtain ⟨d, timed, rfl⟩ := Option.map_eq_some_iff.mp bounded
  unfold send planOf
  cases builder.deferredError with
  | some err => exact Prog.Lasts.ret _ 0
  | none =>
    cases builder.uri with
    | error err => exact Prog.Lasts.ret _ 0
    | ok uri =>
      have first := http3Phase_lasts timed uri (sentHeaders builder)
      have second : ∀ overHttp3, (secondPhase builder uri overHttp3).Lasts .everything d.nanos := by
        intro overHttp3
        cases overHttp3 with
        | some response => exact (Prog.Lasts.ret _ _).mono (Nat.zero_le _)
        | none => exact tcpPhase_lasts timed _
      refine (first.andThen second).mono ?_
      simp only [Except.map]
      split <;> omega

/-- In a strict run a send with a timeout is never pending when its timeout has passed twice
since it was started, nor when it has passed once if HTTP/3 is not tried for it. -/
theorem send_pending_bounded {client : Client} {clock : Nat} {shared : SharedState}
    {w : World (sends client)} (reached : Reachable .strict (.start clock shared) w) {i : Nat}
    {task : Task (sends client)} (found : w.tasks[i]? = some task)
    (unfinished : task.body.unfinished = true) {bound : Nat}
    (bounded : pendingBound task.job.val = some bound) : w.clock ≤ task.spawned + bound := by
  have lasts : ∀ (job : (sends client).Job) d, pendingBound job.val = some d →
      ((sends client).program job).Lasts .everything d := fun _ _ known => send_lasts known
  exact reached.lasts lasts found unfinished bounded

namespace Example

/-- The response is given up on when the first timeout is due, and hyper takes the second. -/
def waitsTwice : List (Event (sends impatient)) :=
  spawned impatient :: performs 0 (.arm .request 1000000000 :: awaitsResponse) ++
  [.tick 1000000000] ++ performs 0
    [.done .recvResponse (.error ()),
      .call (.trace (.http3Outcome origin 0 (.failed (.stream false)))) (),
      .call (.negativeInsert origin start impatient.http3NegativeCacheDuration) (.ok ()),
      .call (.altSvcRemove origin) (), .call (.trace .tryHttp3Left) (),
      .arm .request 2000000000, .issue (.hyperRequest hyperRequest)] ++ [.tick 2000000000]

end Example

/-- The bound is reached. -/
theorem send_pending_bounded_reached :
    ∃ (w : World (sends Example.impatient)) (task : Task (sends Example.impatient)),
      w.tasks[0]? = some task ∧ task.body.unfinished = true ∧ w.clock = 2000000000 ∧
      w.clock ≤ task.spawned + 2000000000 := by
  obtain ⟨w, task, reached, found, clock, -, -, job, -, -, unfinished⟩ := Example.reaches
    .strict Example.waitsTwice 0 2000000000 false _ ⟨Example.builder Example.impatient, rfl⟩ 0 true
    true rfl
  have bounded : pendingBound task.job.val = some 2000000000 := by
    rw [job]
    rfl
  exact ⟨w, task, found, unfinished, clock, send_pending_bounded reached found unfinished bounded⟩

end MechanicsHttpClient.Guarantees
