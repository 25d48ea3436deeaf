import MechanicsHttpClient.Guarantees.StageBudget

/-!
# What a send may use up

Both routes may fail, each after a second attempt, and the request may still go
to hyper. What that adds up to is bounded whatever the peers, the caches and the
timers do: each stage of the protocol has a budget (`Stage.budget`), and every
step pays for what it uses out of it (`step_spends`).
-/

namespace MechanicsHttpClient.Guarantees

open MechanicsHttpClient.Runtime
open MechanicsHttpClient.Source

section Step

variable {plan : Plan} {round : Round} {label : Label sig} {resource : Resource}

/-- An await pays for its timer, its start and its end. -/
theorem awaits_spend {await : Await sig Stage} {here : Wait → Stage} {wait : Wait} {after : Stage}
    (arms : Covers (here .due).budget (here .armed).budget)
    (starts : wait ≠ .issued → resource.weight (.issue await.op) + (here .issued).budget resource ≤
      (here wait).budget resource)
    (settles : ∀ ans, resource.weight (.done await.op ans) + (await.settled ans).budget resource ≤
      (here .issued).budget resource)
    (expires : ∀ timer, await.timer = some timer → timer ≠ .request →
      Covers (here .issued).budget await.elapsed.budget)
    (moved : (await.move here wait).step label = some after) (unfired : requestFires label = false) :
    resource.weight label + after.budget resource ≤ (here wait).budget resource := by
  rcases Await.step_cases moved with
    ⟨timer, deadline, rfl, own, rfl, rfl⟩ | ⟨early, rfl, rfl⟩ | ⟨ans, rfl, rfl, rfl⟩ |
    ⟨timer, j, deadline, rfl, own, rfl, rfl⟩
  · exact arms.pays fun resource other => quiet_counts rfl other
  · exact starts early
  · exact settles ans
  · have isOther : timer ≠ .request := by
      intro isRequest
      subst isRequest
      cases unfired
    refine (expires timer own isOther).pays ?_
    intro resource other
    cases resource with
    | labels => exact absurd rfl other
    | _ => rfl

theorem looking_starts {wait : Wait} (early : wait ≠ .issued) (host : Str) :
    resource.weight (.issue (.lookupHttps host)) + lookingBudget .issued resource ≤
      lookingBudget wait resource := by
  cases wait with
  | due => cases resource <;> simp [Resource.weight, Resource.counts, lookingBudget, labelsLeft,
      toStart, startsAttempt, opensStream, asksForHttps, startsHyper]
  | armed => cases resource <;> simp [Resource.weight, Resource.counts, lookingBudget, labelsLeft,
      toStart, startsAttempt, opensStream, asksForHttps, startsHyper]
  | issued => exact absurd rfl early

theorem transmitting_starts {wait : Wait} (early : wait ≠ .issued) (request : Request RequestBody) :
    resource.weight (.issue (.hyperRequest request)) + transmittingBudget .issued resource ≤
      transmittingBudget wait resource := by
  cases wait with
  | due => cases resource <;> simp [Resource.weight, Resource.counts, transmittingBudget, labelsLeft,
      toStart, startsAttempt, opensStream, asksForHttps, startsHyper]
  | armed => cases resource <;> simp [Resource.weight, Resource.counts, transmittingBudget, labelsLeft,
      toStart, startsAttempt, opensStream, asksForHttps, startsHyper]
  | issued => exact absurd rfl early

theorem move_spends {stage after : Stage} (moved : (plan.move stage).step label = some after)
    (unfired : requestFires label = false) :
    resource.weight label + after.budget resource ≤ stage.budget resource := by
  cases stage with
  | arming aim =>
    obtain ⟨⟨deadline, rfl⟩, rfl⟩ := Move.step_arm_iff.mp moved
    exact (Covers.plus 5 altSvcBudget).pays fun resource other => quiet_counts rfl other
  | entering aim =>
    obtain ⟨_, rfl, rfl⟩ := Move.step_call_iff.mp moved
    exact (Covers.plus 4 altSvcBudget).pays_call rfl
  | reading aim =>
    obtain ⟨now, rfl, rfl⟩ := Move.step_call_iff.mp moved
    exact (Covers.plus 3 altSvcBudget).pays_call rfl
  | checking aim now =>
    obtain ⟨hit, rfl, rfl⟩ := Move.step_call_iff.mp moved
    cases hit with
    | true =>
      have covers : Covers (plus 3 altSvcBudget) (plus 1 tcpBudget) := by decide
      exact covers.pays_call rfl
    | false => exact (Covers.plus 2 altSvcBudget).pays_call rfl
  | recalling aim now =>
    obtain ⟨found, rfl, rfl⟩ := Move.step_call_iff.mp moved
    cases found with
    | some entry => exact (Covers.plus 1 altSvcBudget).pays_call rfl
    | none =>
      have covers : Covers (plus 2 altSvcBudget) httpsRrBudget := by decide
      exact covers.pays_call rfl
  | routing aim now entry =>
    obtain ⟨_, rfl, rfl⟩ := Move.step_call_iff.mp moved
    have covers : Covers (plus 1 altSvcBudget) (Round.openingBudget ⟨aim, now, .altSvc entry, 0⟩) := by
      intro resource
      cases resource <;> exact Nat.le_refl _
    exact covers.pays_call rfl
  | opening round =>
    obtain ⟨_, rfl, rfl⟩ := Move.step_call_iff.mp moved
    cases resource with
    | labels =>
      simp only [Stage.budget, Round.openingBudget, Round.withoutStream, Round.legBudget, Leg.stream,
        Leg.ahead, labelsLeft, Resource.weight, Resource.counts, if_true]
      omega
    | attempts => exact Nat.le_refl _
    | _ => exact Nat.le_of_eq (Nat.zero_add _)
  | attempting round leg wait => exact (Plan.attemptMove_step moved).spends
  | closing round result =>
    obtain ⟨_, rfl, rfl⟩ := Move.step_call_iff.mp moved
    exact (round.next_covers result).pays_call rfl
  | blaming round =>
    obtain ⟨stored, rfl, rfl⟩ := Move.step_call_iff.mp moved
    cases stored with
    | ok _ => exact (Covers.plus 1 round.givenUp).pays_call rfl
    | error panic =>
      have covers : Covers (plus 2 round.givenUp) (labelsOnly 0) := by
        intro resource
        cases resource with
        | labels =>
          simp only [plus, labelsOnly]
          omega
        | _ => exact Nat.zero_le _
      exact covers.pays_call rfl
  | evicting round =>
    obtain ⟨_, rfl, rfl⟩ := Move.step_call_iff.mp moved
    have covers : Covers (plus 1 round.givenUp) round.givenUp := by
      intro resource
      cases resource <;> exact Nat.le_refl _
    exact (covers.before round.abandon_le).pays_call rfl
  | caching aim now =>
    obtain ⟨cached, rfl, rfl⟩ := Move.step_call_iff.mp moved
    cases cached with
    | some entry =>
      have covers : Covers httpsRrBudget advertisedBudget := by decide
      exact (covers.before (advertised_le aim now entry)).pays_call rfl
    | none =>
      have covers : Covers httpsRrBudget (lookingBudget .due) := by decide
      exact covers.pays_call rfl
  | looking aim now wait =>
    rw [Plan.move] at moved
    have arms : Covers (lookingBudget .due) (lookingBudget .armed) := by decide
    have ends : Covers (lookingBudget .issued) (plus 1 tcpBudget) := by decide
    have stores : Covers (lookingBudget .issued) (plus 1 advertisedBudget) := by decide
    refine awaits_spend arms (fun early => looking_starts early _) ?_ ?_ moved unfired
    · intro ans
      rcases ans with e | records
      · exact ends.pays_done rfl
      · simp only
        split
        · exact stores.pays_done rfl
        · exact ends.pays_done rfl
    · intro timer own other
      exact ends
  | storing aim now entry =>
    obtain ⟨_, rfl, rfl⟩ := Move.step_call_iff.mp moved
    have covers : Covers (plus 1 advertisedBudget) advertisedBudget := by decide
    exact (covers.before (advertised_le aim now entry)).pays_call rfl
  | leaving response =>
    cases response with
    | some response =>
      obtain ⟨_, rfl, rfl⟩ := Move.step_call_iff.mp moved
      have covers : Covers (plus 1 tcpBudget) (labelsOnly 0) := by decide
      exact covers.pays_call rfl
    | none =>
      obtain ⟨_, rfl, rfl⟩ := Move.step_call_iff.mp moved
      have covers : Covers (plus 1 tcpBudget) (transmittingBudget .due) := by decide
      exact covers.pays_call rfl
  | transmitting wait =>
    rw [Plan.move] at moved
    have arms : Covers (transmittingBudget .due) (transmittingBudget .armed) := by decide
    have ends : Covers (transmittingBudget .issued) (labelsOnly 2) := by decide
    refine awaits_spend arms (fun early => transmitting_starts early _) ?_ ?_ moved unfired
    · intro ans
      rcases ans with err | ⟨parts, incoming⟩
      · have fails : Covers (transmittingBudget .issued) (labelsOnly 0) := by decide
        exact fails.pays_done rfl
      · exact (ends.before (arrived_le plan _)).pays_done rfl
    · intro timer own other
      split at own
      · exact absurd (Option.some.inj own).symm other
      · cases own
  | learning response origin value =>
    obtain ⟨now, rfl, rfl⟩ := Move.step_call_iff.mp moved
    cases AltSvc.parseHeader value now origin.port with
    | ok update => exact (labelsOnly_covers (by decide)).pays_call rfl
    | error panic => exact (labelsOnly_covers (by decide)).pays_call rfl
  | updating response origin update =>
    obtain ⟨_, rfl, rfl⟩ := Move.step_call_iff.mp moved
    exact (labelsOnly_covers (by decide)).pays_call rfl
  | dropping aim =>
    obtain ⟨now, rfl, rfl⟩ := Move.step_call_iff.mp moved
    exact (labelsOnly_covers (by decide)).pays_call rfl
  | condemning aim now =>
    obtain ⟨stored, rfl, rfl⟩ := Move.step_call_iff.mp moved
    cases stored with
    | ok _ => exact (labelsOnly_covers (by decide)).pays_call rfl
    | error panic => exact (labelsOnly_covers (by decide)).pays_call rfl
  | uprooting aim =>
    obtain ⟨_, rfl, rfl⟩ := Move.step_call_iff.mp moved
    exact (labelsOnly_covers (by decide)).pays_call rfl
  | timedOut aim now =>
    obtain ⟨stored, rfl, rfl⟩ := Move.step_call_iff.mp moved
    cases stored with
    | ok _ => exact (labelsOnly_covers (by decide)).pays_call rfl
    | error panic => exact (labelsOnly_covers (by decide)).pays_call rfl
  | expelling aim =>
    obtain ⟨_, rfl, rfl⟩ := Move.step_call_iff.mp moved
    exact (labelsOnly_covers (by decide)).pays_call rfl
  | dropped aim => exact absurd moved Move.step_stop
  | ended result => exact absurd moved Move.step_stop
  | unwound => exact absurd moved Move.step_stop

/-- Where the table notices it, the stage stays. -/
theorem move_fires {stage after : Stage} (moved : (plan.move stage).step label = some after)
    (fires : requestFires label = true) : after = stage := by
  unfold requestFires at fires
  split at fires
  · cases stage with
    | attempting round leg wait => cases (Plan.attemptMove_step moved).unfired
    | looking aim now wait =>
      rw [Plan.move] at moved
      obtain ⟨-, own, -⟩ := Await.step_fired moved
      cases own
    | transmitting wait =>
      rw [Plan.move] at moved
      obtain ⟨rfl, -, rfl⟩ := Await.step_fired moved
      rfl
    | leaving response => cases response <;> cases moved
    | _ => cases moved
  · cases fires

/-- A dropped attempt can be cleaned up, and what follows a cut be done, out of any budget of
an attempt. -/
theorem Round.leg_reserve (round : Round) (leg : Leg) (wait : Wait) :
    Covers (round.legBudget leg (labelsLeft wait)) (labelsOnly 6) := by
  have left := labelsLeft_pos wait
  have tcp := round.tcp_le_givenUp .labels
  simp only [plus, tcpBudget] at tcp
  intro resource
  unfold Round.legBudget
  cases resource with
  | labels =>
    cases leg.stream with
    | some stream =>
      simp only [plus, labelsOnly, Round.withStream]
      omega
    | none =>
      simp only [plus, labelsOnly, Round.withoutStream]
      omega
  | _ => exact Nat.zero_le _

theorem cleanup_spends {stage after : Stage} {op : Op} {ans : op.Ans}
    (cleaned : (Plan.cleanup stage).step (.call op ans) = some after) :
    resource.weight (.call op ans) + after.budget resource ≤ stage.budget resource := by
  unfold Plan.cleanup at cleaned
  split at cleaned
  · rename_i round leg
    obtain ⟨_, same, rfl⟩ := Move.step_call_iff.mp cleaned
    cases same
    exact (round.leg_reserve leg .issued).pays_call rfl
  · exact absurd cleaned Move.step_stop

theorem afterCut_spends {stage after : Stage} {op : Op} {ans : op.Ans}
    (cut : (Plan.afterCut stage).step (.call op ans) = some after) :
    resource.weight (.call op ans) + after.budget resource ≤ stage.budget resource := by
  unfold Plan.afterCut at cut
  split at cut
  · obtain ⟨_, same, rfl⟩ := Move.step_call_iff.mp cut
    cases same
    have covers : Covers (lookingBudget .issued) (labelsOnly 2) := by decide
    exact covers.pays_call rfl
  · obtain ⟨_, same, rfl⟩ := Move.step_call_iff.mp cut
    cases same
    exact (labelsOnly_covers (by decide)).pays_call rfl
  · exact absurd cut Move.step_stop

theorem plus_le {labels : Nat} {before after : Resource → Nat}
    (spent : resource.weight label + after resource ≤ before resource) :
    resource.weight label + plus labels after resource ≤ plus labels before resource := by
  cases resource with
  | labels =>
    simp only [plus]
    omega
  | _ => exact spent

/-- The expiry of the request's timeout is paid for once. -/
theorem expiry_spends {stage : Stage} (fires : requestFires label = true) :
    resource.weight label + (⟨stage, true⟩ : Position).budget resource ≤
      (⟨stage, false⟩ : Position).budget resource := by
  unfold requestFires at fires
  split at fires
  · have covers : Covers (plus 1 stage.budget) (plus 0 stage.budget) := Covers.plus 0 stage.budget
    refine covers.pays ?_
    intro resource other
    cases resource with
    | labels => exact absurd rfl other
    | _ => rfl
  · cases fires

theorem step_spends {position next : Position}
    (taken : plan.protocol.step position label = some next) :
    resource.weight label + next.budget resource ≤ position.budget resource := by
  obtain ⟨stage, expired⟩ := position
  rcases Plan.step_cases taken with
    ⟨after, moved, rfl, called⟩ | ⟨after, op, ans, rfl, cleaned, rfl⟩ |
    ⟨after, op, ans, rfl, rfl, cut, rfl⟩ | ⟨j, deadline, rfl, rfl, probing, rfl⟩
  · cases fires : requestFires label with
    | false =>
      rw [Bool.or_false]
      exact plus_le (move_spends moved fires)
    | true =>
      cases expired with
      | true =>
        obtain ⟨op, ans, rfl⟩ := called rfl
        cases fires
      | false =>
        rw [move_fires moved fires]
        exact expiry_spends fires
  · exact plus_le (cleanup_spends cleaned)
  · exact plus_le (afterCut_spends cut)
  · exact expiry_spends rfl

end Step

/-- Two attempts on each route, and one stream. -/
def probingLimit : Resource → Nat
  | .labels => 138
  | .attempts => 4
  | .streams => 2
  | .lookups => 1
  | .hyperRequests => 1

def tcpLimit : Resource → Nat
  | .labels => 6
  | .hyperRequests => 1
  | _ => 0

/-- A rejected send does nothing, and one that HTTP/3 is not tried for only asks hyper. -/
def workLimit (builder : RequestBuilder) : Resource → Nat :=
  match planOf builder with
  | .ok plan => if plan.aim.isSome then probingLimit else tcpLimit
  | .error _ => fun _ => 0

theorem start_budget (plan : Plan) (resource : Resource) :
    (⟨plan.start, false⟩ : Position).budget resource ≤
      (if plan.aim.isSome then probingLimit else tcpLimit) resource := by
  unfold Plan.start
  cases plan.aim with
  | some aim =>
    cases plan.timed with
    | true => cases resource <;> exact Nat.le_refl _
    | false =>
      cases resource with
      | labels => exact Nat.le_succ 137
      | _ => exact Nat.le_refl _
  | none => cases resource <;> exact Nat.le_refl _

/-- In every run, and at every point of it, a send has started at most four attempts over
HTTP/3, opened at most two streams, asked for HTTPS records at most once and hyper at most
once; its whole log has at most 138 labels. Without HTTP/3 only hyper is asked, once. -/
theorem send_work_bounded {client : Client} {pace : Pace} {clock : Nat} {shared : SharedState}
    {w : World (sends client)} (reached : Reachable pace (.start clock shared) w) {i : Nat}
    {task : Task (sends client)} (found : w.tasks[i]? = some task) (resource : Resource) :
    (w.logOf i).countP (fun e => resource.counts e.label) ≤ workLimit task.job.val resource := by
  obtain ⟨position, ran, -⟩ := send_follows reached found
  unfold sendProtocol sendStart at ran
  unfold workLimit
  cases planned : planOf task.job.val with
  | ok plan =>
    simp only [planned] at ran ⊢
    have spent := Protocol.run_spends (fun _ _ _ taken => @step_spends plan _ resource _ _ taken) ran
    have bounded := start_budget plan resource
    have counted := Protocol.total_indicator resource.counts (w.logOf i)
    unfold Resource.weight at spent
    omega
  | error err =>
    simp only [planned] at ran ⊢
    cases log : w.logOf i with
    | nil => simp
    | cons e rest =>
      rw [log] at ran
      cases ran

namespace Example

def connects : List (Label sig) :=
  dials 0 origin.host ++
  [.arm .connect 500000000, .issue .connecting, .done .connecting (.ok ()),
    .arm .setup 500000000, .issue .h3Build, .done .h3Build (.ok ()),
    .arm .streamOpen 150000000, .issue (.sendRequest h3Request)]

/-- The first attempt is refused its stream, the second gets one and loses it. -/
def failsTwice (target : Http3RequestTarget) : List (Label sig) :=
  .call (.trace (.http3Request origin (call target))) () :: connects ++
  [.done (.sendRequest h3Request) (.error ()),
    .call (.trace (.http3Outcome origin 0 (.failed (.stream true)))) (),
    .call (.trace (.http3Request origin (call target))) ()] ++ connects ++
  [.done (.sendRequest h3Request) (.ok 0), .arm .upload 500000000, .issue .finish,
    .done .finish (.error ()),
    .call (.trace (.http3Outcome origin 1 (.failed (.stream false)))) ()] ++ paysForRoute

/-- Both routes fail, and the request goes to hyper. -/
def exhaustsRoutes : List (Label sig) :=
  consults start (some (entryOn none)) ++
  .call (.trace (.altSvcRoute origin none 443)) () ::
    failsTwice (altSvcTarget origin (entryOn none)) ++
  resolves start 0 [h3Record] ++ .call (.httpsRrInsert origin h3Entry) () ::
    failsTwice (httpsRrTarget origin h3Entry) ++ goesToTcp

def learnsThenExhausts : List (Event (sends client)) :=
  spawned client :: performs 0 (learns ownPort (entryOn none)) ++
  spawned client :: performs 1 exhaustsRoutes

end Example

set_option maxRecDepth 2000 in
/-- The limits are reached: two routes that fail twice each. -/
theorem send_work_bounded_reached :
    ∃ w : World (sends Example.client), ∀ resource,
      (w.logOf 1).countP (fun e => resource.counts e.label) ≤ probingLimit resource ∧
      (resource = .labels ∨
        (w.logOf 1).countP (fun e => resource.counts e.label) = probingLimit resource) := by
  obtain ⟨w, task, reached, found, -, -, log, job, -⟩ := Example.reaches .strict
    Example.learnsThenExhausts 1 0 false
    (Example.logged 0 0 (Example.learns Example.ownPort (Example.entryOn none)) ++
      Example.logged 1 0 Example.exhaustsRoutes)
    ⟨Example.builder Example.client, rfl⟩ 0 true true rfl
  have own : w.logOf 1 = Example.logged 1 0 Example.exhaustsRoutes := by
    rw [World.logOf, log]
    rfl
  have limit : workLimit task.job.val = probingLimit := by
    rw [job]
    rfl
  refine ⟨w, fun resource => ?_⟩
  have bounded := send_work_bounded reached found resource
  rw [limit] at bounded
  refine ⟨bounded, ?_⟩
  rw [own]
  cases resource with
  | labels => exact .inl rfl
  | _ => exact .inr (by decide)

end MechanicsHttpClient.Guarantees
