import MechanicsHttpClient.Guarantees.AttemptConformance

/-!
# Sends conform to their protocol

`send` satisfies the monitor of its protocol, part by part in the order of the
source: the two routes, `try_http3` under the request's timeout, and the request
to hyper. What the program does with timeouts and drop guards the table does with
stages.
-/

namespace MechanicsHttpClient.Guarantees

open MechanicsHttpClient.Runtime
open MechanicsHttpClient.Source

variable {pace : Pace} {plan : Plan} {t : Nat}

section TryHttp3

variable {client : Client} {aim : Aim} {now : Instant}

theorem httpsRrEntry_conforms :
    (httpsRrEntry aim.origin now).Sat plan.protocol.monitor pace
      (probePart aim fun
        | some entry => Plan.advertised aim now entry
        | none => .leaving none) t ⟨.caching aim now, false⟩ := by
  unfold httpsRrEntry
  refine Plan.sat_call rfl ?_
  intro cached t
  cases cached with
  | some entry => rfl
  | none =>
    refine Prog.Sat.bind _ (Protocol.sat_timed_bind
      (Plan.awaits_inner (.looking aim now) (fun _ => rfl) ?_ rfl) ?_ ?_ ?_)
    · simp
    · intro records t' deadline
      cases records with
      | error e => rfl
      | ok records =>
        simp only
        cases HttpsRr.selectRecord aim.origin.port none records with
        | none => rfl
        | some entry =>
          refine Plan.sat_call rfl ?_
          intro _ t
          rfl
    · intro t'
      rfl
    · intro t'
      exact .inr ⟨now, rfl⟩

theorem tryHttpsRrRoute_conforms
    (same : plan.negativeFor = client.http3NegativeCacheDuration) :
    (tryHttpsRrRoute client aim.origin plan.http3Request aim.body now).Sat plan.protocol.monitor
      pace (routePart aim (.leaving none)) t ⟨.caching aim now, false⟩ := by
  refine tryHttpsRrRoute_sat (httpsRrEntry_conforms.mono ?_ (fun _ _ => id) fun _ _ => id)
  intro found t position returned
  cases returned
  constructor
  · intro entry isFound h3
    subst isFound
    simp only [Plan.advertised, h3, if_true]
    exact @staleRetry_conforms _ _ _ ⟨aim, now, .httpsRr entry, 0⟩ _ same rfl
  · intro none
    cases found with
    | none => rfl
    | some entry => simp [routePart, Plan.advertised, none entry rfl]

theorem tryAltSvcRoute_conforms
    (same : plan.negativeFor = client.http3NegativeCacheDuration) :
    (tryAltSvcRoute client aim.origin plan.http3Request aim.body now).Sat plan.protocol.monitor
      pace (routePart aim (.caching aim now)) t ⟨.recalling aim now, false⟩ := by
  unfold tryAltSvcRoute
  refine Plan.sat_call rfl ?_
  intro found t
  cases found with
  | none => rfl
  | some entry =>
    refine Plan.sat_call rfl ?_
    intro _ t
    exact @staleRetry_conforms _ _ _ ⟨aim, now, .altSvc entry, 0⟩ _ same rfl

theorem tryHttp3_conforms (same : plan.negativeFor = client.http3NegativeCacheDuration) :
    (tryHttp3 client aim.origin plan.http3Request aim.body).Sat plan.protocol.monitor pace
      (routePart aim (.leaving none)) t ⟨.entering aim, false⟩ := by
  unfold tryHttp3
  refine Plan.sat_call rfl ?_
  intro _ t
  refine Plan.sat_call rfl ?_
  intro now t
  refine Plan.sat_call rfl ?_
  intro hit t
  cases hit with
  | true => rfl
  | false =>
    refine Prog.Sat.andThen _ ((tryAltSvcRoute_conforms same).mono ?_ (fun _ _ => id) fun _ _ => id)
    intro result t position returned
    rcases result with err | _ | response
    · exact returned.elim
    · cases returned
      refine Prog.Sat.andThen _ ((tryHttpsRrRoute_conforms same).mono ?_ (fun _ _ => id)
        fun _ _ => id)
      intro result t position returned
      rcases result with err | _ | response
      · exact returned.elim
      · exact returned
      · exact returned
    · exact returned

end TryHttp3

/-- From before to after the expiry of the request's timeout. -/
def Expires (before after : Position) : Prop :=
  before.expired = false ∧ after = ⟨before.stage, true⟩

theorem Plan.cuts : plan.protocol.Cuts Expires := by
  intro before after op ans next expires taken
  obtain ⟨fresh, rfl⟩ := expires
  simp only [Plan.protocol, Plan.next, fresh, Bool.false_eq_true, if_false, Option.or_none,
    Option.map_eq_some_iff] at taken
  obtain ⟨stage, found, rfl⟩ := taken
  refine ⟨⟨stage, true⟩, ?_, rfl, rfl⟩
  simp only [Plan.protocol, Plan.next, ← Option.or_assoc, found, Option.some_or, Option.map_some,
    Bool.true_or]

/-- The timeout is noticed wherever the send may be suspended. -/
theorem Plan.fires (timed : plan.timed = true) {position : Position}
    (waits : plan.protocol.waits position = true) (j deadline : Nat) :
    ∃ after, plan.protocol.step position (.fire j .request deadline) = some after ∧
      Expires position after := by
  obtain ⟨stage, expired⟩ := position
  simp only [Plan.protocol, Bool.and_eq_true, Bool.not_eq_true'] at waits
  obtain ⟨rfl, waiting⟩ := waits
  refine ⟨⟨stage, true⟩, ?_, rfl, rfl⟩
  cases probing : stage.probing with
  | true => simp [Plan.protocol, Plan.next, requestFires, timed, probing]
  | false =>
    have transmitting : stage = .transmitting .issued := by
      unfold Stage.waiting at waiting
      split at waiting
      · rfl
      · rw [probing] at waiting
        cases waiting
    subst transmitting
    have row : (plan.move (.transmitting .issued)).step (.fire j .request deadline) =
        some (.transmitting .issued) := by
      simp only [Plan.move, Await.move, timed, if_true, Option.map_some]
      exact @Move.step_fire sig _ _ _ _ _ j deadline
    simp [Plan.protocol, Plan.next, requestFires, probing, row]

section Timeout

variable {builder : RequestBuilder} {uri : Uri} {aim : Aim}

/-- The ends of the first phase: over, or on to hyper. -/
def http3Part : Post Position (Except Error (Option Response)) where
  returned
    | .ok (some response), _, position => position.verdict = some (.ok response)
    | .ok none, _, position => position = ⟨.transmitting .due, false⟩
    | .error err, _, position => position.verdict = some (.error err)
  panicked _ position := position.stage = .unwound
  dropped _ := sendEnding.dropped

theorem h3TimedOut_conforms {position : Position} (dropped : DroppedProbing aim position)
    (same : plan.negativeFor = builder.client.http3NegativeCacheDuration) :
    (h3TimedOut builder aim.origin).Sat plan.protocol.monitor pace http3Part t
      ⟨position.stage, true⟩ := by
  have reads : ∀ now, plan.protocol.step ⟨position.stage, true⟩ (.call .instantNow now) =
      some ⟨.timedOut aim now, true⟩ := by
    intro now
    rcases dropped with rfl | ⟨now', rfl⟩
    · exact Plan.resumes rfl rfl rfl
    · exact Plan.resumes rfl rfl rfl
  refine Protocol.sat_call reads ?_
  intro now t
  refine Prog.Sat.bind _ (Prog.Sat.ofSync _ (insertNegative_conforms (.expelling aim) ?_ rfl
    (fun _ => rfl) (fun _ => rfl)))
  rw [← same]
  rfl

theorem DroppedProbing.ends {position : Position} (dropped : DroppedProbing aim position) :
    sendEnding.dropped position := by
  rcases dropped with rfl | ⟨now, rfl⟩
  · exact ⟨rfl, rfl⟩
  · exact ⟨rfl, rfl⟩

/-- `h3_attempt`, wherever it may be dropped. -/
theorem h3Attempt_conforms (same : plan.negativeFor = builder.client.http3NegativeCacheDuration) :
    (h3Attempt builder aim.origin plan.http3Request aim.body).Sat plan.protocol.monitor pace
      ⟨http3Part.returned, http3Part.panicked, fun _ => DroppedProbing aim⟩ t
      ⟨.entering aim, false⟩ := by
  refine Prog.Sat.bind _ ((tryHttp3_conforms same).mono ?_ (fun _ _ => id) fun _ _ => id)
  intro result t position returned
  rcases result with err | _ | response
  · exact returned.elim
  · cases returned
    refine Plan.sat_call rfl ?_
    intro _ t
    rfl
  · cases returned
    refine Plan.sat_call rfl ?_
    intro _ t
    rfl

theorem h3Result_conforms (same : plan.negativeFor = builder.client.http3NegativeCacheDuration)
    (timed : plan.timed = builder.effectiveTimeout.isSome) :
    (h3Result builder aim.origin (h3Attempt builder aim.origin plan.http3Request aim.body)).Sat
      plan.protocol.monitor pace http3Part t
      ⟨if plan.timed then .arming aim else .entering aim, false⟩ := by
  unfold h3Result
  cases limit : builder.effectiveTimeout with
  | none =>
    rw [limit] at timed
    simp only [timed, Option.isSome_none, Bool.false_eq_true, if_false]
    exact (h3Attempt_conforms same).mono (fun _ _ _ => id) (fun _ _ => id)
      fun _ _ dropped => dropped.ends
  | some d =>
    rw [limit] at timed
    simp only [timed, Option.isSome_some, if_true]
    refine Prog.Sat.bind _ (Protocol.sat_timeout ⟨.entering aim, false⟩ Plan.cuts ?_ ?_ ?_ ?_)
    · exact fun position waits j deadline => Plan.fires timed waits j deadline
    · intro t before after expires broken
      obtain ⟨-, rfl⟩ := expires
      exact broken
    · intro deadline
      exact Plan.follows (by simp [Plan.move, Move.step]) (fun no => nomatch no)
    · intro t'
      refine (h3Attempt_conforms same).mono (fun _ _ _ => id) (fun _ _ => id) ?_
      intro t position dropped
      refine ⟨?_, dropped.ends⟩
      intro after expires
      obtain ⟨-, rfl⟩ := expires
      exact h3TimedOut_conforms dropped same

theorem maybeUpdateAltSvc_conforms (response : Response) (same : plan.uri = uri) :
    (maybeUpdateAltSvc uri response).Sat plan.protocol.monitor pace
      ⟨fun _ => sendEnding.post.returned (.ok response), sendEnding.post.panicked,
        sendEnding.post.dropped⟩ t ⟨plan.arrived response, false⟩ := by
  unfold maybeUpdateAltSvc Plan.arrived
  rw [same]
  cases Origin.fromUri uri with
  | none => rfl
  | some origin =>
    cases response.headers.get HeaderName.altSvc with
    | none => rfl
    | some value =>
      refine Plan.sat_call rfl ?_
      intro now t
      cases AltSvc.parseHeader value now origin.port with
      | error panic =>
        rfl
      | ok update =>
        refine Plan.sat_call rfl ?_
        intro _ t
        rfl

theorem tcpPhase_conforms :
    (tcpPhase builder uri (sentHeaders builder)).Sat (Plan.of builder uri).protocol.monitor pace
      sendEnding.post t ⟨.transmitting .due, false⟩ := by
  unfold tcpPhase
  refine Prog.Sat.bind _ ?_
  cases limit : builder.effectiveTimeout with
  | some d =>
    have table : ∀ wait, (Plan.of builder uri).move (.transmitting wait) =
        @Await.move sig _ ⟨.hyperRequest (Plan.of builder uri).tcpRequest, some .request,
          (Plan.of builder uri).answered, .transmitting .issued⟩ .transmitting wait := by
      intro wait
      simp only [Plan.move, Plan.of, limit, Option.isSome_some, if_true]
    have awaits : (Plan.of builder uri).protocol.Awaits
        (.hyperRequest (Plan.of builder uri).tcpRequest) (some .request)
        (fun ans => ⟨(Plan.of builder uri).answered ans, false⟩) ⟨.transmitting .issued, true⟩
        fun wait => ⟨.transmitting wait, false⟩ := Plan.awaits table (by simp) (fun _ => rfl) rfl
    refine Protocol.sat_timed awaits ?_ (fun _ => rfl) (fun _ => ⟨rfl, rfl⟩)
    intro ans t'
    rcases ans with err | ⟨parts, incoming⟩
    · rfl
    · exact Prog.Sat.bind _ (maybeUpdateAltSvc_conforms _ rfl)
  | none =>
    have table : ∀ wait, (Plan.of builder uri).move (.transmitting wait) =
        @Await.move sig _ ⟨.hyperRequest (Plan.of builder uri).tcpRequest, none,
          (Plan.of builder uri).answered, .transmitting .issued⟩ .transmitting wait := by
      intro wait
      simp only [Plan.move, Plan.of, limit, Option.isSome_none, Bool.false_eq_true, if_false]
    have awaits := Plan.awaits_inner .transmitting table (by simp) rfl
    refine Prog.Sat.bind _ (Protocol.sat_suspend awaits ?_ (fun _ => ⟨rfl, rfl⟩))
    intro ans t'
    rcases ans with err | ⟨parts, incoming⟩
    · rfl
    · exact Prog.Sat.bind _ (maybeUpdateAltSvc_conforms _ rfl)

end Timeout

theorem http3Phase_conforms {builder : RequestBuilder} {uri : Uri} :
    (http3Phase builder uri (sentHeaders builder)).Sat (Plan.of builder uri).protocol.monitor pace
      http3Part t ⟨(Plan.of builder uri).start, false⟩ := by
  have skipped : (Plan.of builder uri).aim = none → (Prog.ret (.ok none)).Sat
      (Plan.of builder uri).protocol.monitor pace http3Part t
      ⟨(Plan.of builder uri).start, false⟩ := by
    intro none
    simp only [Plan.start, none]
    rfl
  unfold http3Phase
  split
  · rename_i enabled
    split
    · rename_i origin body https replayable
      have aimed : (Plan.of builder uri).aim = some ⟨origin, body⟩ := by
        simp only [Plan.of, enabled, if_true, https, replayable]
      simp only [Plan.start, aimed]
      exact @h3Result_conforms pace (Plan.of builder uri) t builder ⟨origin, body⟩ rfl rfl
    · rename_i notBoth
      refine skipped ?_
      simp only [Plan.of, enabled, if_true]
  · rename_i disabled
    refine skipped ?_
    simp only [Plan.of]
    exact if_neg disabled

theorem send_conforms (builder : RequestBuilder) (t : Nat) :
    (send builder).Sat (sendProtocol builder).monitor pace sendEnding.post t
      (sendStart builder) := by
  unfold send sendProtocol sendStart planOf
  cases builder.deferredError with
  | some err => rfl
  | none =>
    cases builder.uri with
    | error err => rfl
    | ok uri =>
      refine Prog.Sat.andThen _ (http3Phase_conforms.mono ?_ (fun _ _ => id) fun _ _ => id)
      intro result t position returned
      rcases result with err | _ | response
      · exact returned
      · cases returned
        exact tcpPhase_conforms
      · exact returned

theorem send_follows {client : Client} {clock : Nat} {shared : SharedState}
    {w : World (sends client)} (h : Reachable pace (.start clock shared) w) {i : Nat}
    {task : Task (sends client)} (found : w.tasks[i]? = some task) :
    ∃ position, (sendProtocol task.job.val).run (sendStart task.job.val) (w.logOf i) =
        some position ∧
      (sendProtocol task.job.val).At sendEnding task.body position := by
  have conforms : ∀ (job : (sends client).Job) t, ((sends client).program job).Sat
      (sendProtocol job.val).monitor pace ((fun _ => sendEnding) job).post t
      (sendStart job.val) := fun job t => send_conforms job.val t
  exact Reachable.conforms conforms h found

/-- In every interleaved run of a client's sends, with drops anywhere and any answers, the
log of each send is a run of its protocol. Where the protocol ends up says whether the send
may be suspended there, and what it has returned. -/
theorem sends_conform {client : Client} {clock : Nat} {shared : SharedState}
    {w : World (sends client)} (h : Reachable pace (.start clock shared) w) {i : Nat}
    {task : Task (sends client)} (found : w.tasks[i]? = some task) :
    ∃ position, (sendProtocol task.job.val).run (sendStart task.job.val) (w.logOf i) =
        some position ∧
      (sendProtocol task.job.val).At sendEnding task.body position :=
  send_follows h found

namespace Example

/-- The result of a task that is over, or that it was dropped. -/
def ended {ρ : Type} : Body sig ρ → Option (Option ρ)
  | .running (.ret result) => some (some result)
  | .dropping (.ret _) => some none
  | _ => none

theorem ended_returned {ρ : Type} {body : Body sig ρ} {result : ρ}
    (isOver : ended body = some (some result)) : body = .running (.ret result) := by
  unfold ended at isOver
  split at isOver
  · cases isOver
    rfl
  · cases isOver
  · cases isOver

theorem ended_dropped {ρ : Type} {body : Body sig ρ} (isOver : ended body = some none) :
    body = .dropping (.ret ()) := by
  unfold ended at isOver
  split at isOver
  · cases isOver
  · rfl
  · cases isOver

def ending {client : Client} (i : Nat) (w : World (sends client)) :
    Option (List (Entry sig) × (sends client).Job × Option (Except Error Response)) :=
  w.tasks[i]?.bind fun task => (ended task.body).map fun result => (w.log, task.job, result)

theorem ends {client : Client} (pace : Pace) (events : List (Event (sends client))) (i : Nat)
    (log : List (Entry sig)) (job : (sends client).Job) (result : Option (Except Error Response))
    (ran : ((World.start 0 SharedState.new).run pace events).bind (ending i) =
      some (log, job, result)) :
    ∃ (w : World (sends client)) (task : Task (sends client)),
      Reachable pace (.start 0 SharedState.new) w ∧ w.tasks[i]? = some task ∧ w.log = log ∧
      task.job = job ∧ ended task.body = some result := by
  obtain ⟨w, reached, seen⟩ := Option.bind_eq_some_iff.mp ran
  obtain ⟨task, found, shown⟩ := Option.bind_eq_some_iff.mp seen
  obtain ⟨result', isOver, same⟩ := Option.map_eq_some_iff.mp shown
  cases same
  exact ⟨w, task, .of_run _ .refl reached, found, rfl, rfl, isOver⟩

/-- Hyper's answer to a send that learns an alternative. -/
def advertised : Response := Response.new ⟨200, advertising ownPort⟩ 0

end Example

/-- A send that learns an alternative from its response. -/
theorem sends_conform_learning :
    ∃ (w : World (sends Example.client)) (position : Position),
      (sendProtocol (Example.builder Example.client)).run
        (sendStart (Example.builder Example.client)) (w.logOf 0) = some position ∧
      position.verdict = some (.ok Example.advertised) := by
  obtain ⟨w, task, reached, found, -, job, isOver⟩ := Example.ends .strict
    (Example.spawned Example.client ::
      Example.performs 0 (Example.learns Example.ownPort (Example.entryOn none))) 0
    (Example.logged 0 0 (Example.learns Example.ownPort (Example.entryOn none)))
    ⟨Example.builder Example.client, rfl⟩ (some (.ok Example.advertised)) rfl
  obtain ⟨position, ran, isAt⟩ := sends_conform reached found
  rw [job] at ran
  exact ⟨w, position, ran, isAt.returned _ (Example.ended_returned isOver)⟩

end MechanicsHttpClient.Guarantees
