import MechanicsHttpClient.Guarantees.Footprint
import MechanicsHttpClient.Runtime.Recording

/-!
# How a monitor follows a send

Rules for the phases of `send`, in the order of the source. Each says what has
to be shown of the parts for a monitor to follow the whole, so that a guarantee
only argues about the operations its monitor looks at.
-/

namespace MechanicsHttpClient.Guarantees

open MechanicsHttpClient.Runtime
open MechanicsHttpClient.Source

variable {σ : Type} {m : Monitor sig σ} {pace : Pace} {t : Nat} {s : σ}

/-- The two critical sections of `insert_negative`; the first may unwind. -/
theorem insertNegative_sat {client : Client} {origin : Origin} {now : Instant} {P : Post σ Unit}
    (stored : ∀ t₁ ans, Elapses pace t t₁ →
      m.assume s t₁ (.call (.negativeInsert origin now client.http3NegativeCacheDuration) ans) →
      m.check s t₁ (.call (.negativeInsert origin now client.http3NegativeCacheDuration) ans) ∧
      ∀ s₁, s₁ = m.next s t₁
          (.call (.negativeInsert origin now client.http3NegativeCacheDuration) ans) →
        (∀ panic, ans = .error panic → P.panicked t₁ s₁) ∧
        (ans = .ok () → ∀ t₂, Elapses pace t₁ t₂ →
          m.check s₁ t₂ (.call (.altSvcRemove origin) ()) ∧
          P.returned () t₂ (m.next s₁ t₂ (.call (.altSvcRemove origin) ())))) :
    (insertNegative client origin now).Sat m pace P t s := by
  intro t₁ ans elapsed₁ admitted₁
  obtain ⟨passes₁, goes⟩ := stored t₁ ans elapsed₁ admitted₁
  refine ⟨passes₁, ?_⟩
  cases ans with
  | error panic => exact (goes _ rfl).1 panic rfl
  | ok _ =>
    intro t₂ _ elapsed₂ _
    exact (goes _ rfl).2 rfl t₂ elapsed₂

/-- `insert_negative` where the monitor follows neither section. -/
theorem insertNegative_ignored {client : Client} {origin : Origin} {now : Instant}
    {P : Post σ Unit}
    (ignores : ∀ s t label, (∃ ans, label = .call (.altSvcRemove origin) ans) ∨
      (∃ ans, label = .call (.negativeInsert origin now client.http3NegativeCacheDuration) ans) →
      m.next s t label = s ∧ m.check s t label)
    (returned : ∀ t', t ≤ t' → P.returned () t' s) (panicked : ∀ t', t ≤ t' → P.panicked t' s) :
    (insertNegative client origin now).Sat m pace P t s := by
  refine insertNegative_sat ?_
  intro t₁ ans elapsed₁ _
  obtain ⟨still, passes⟩ := ignores s t₁ _ (.inr ⟨ans, rfl⟩)
  refine ⟨passes, ?_⟩
  intro s₁ same
  rw [still] at same
  subst same
  refine ⟨fun _ _ => panicked t₁ elapsed₁.1, ?_⟩
  intro _ t₂ elapsed₂
  obtain ⟨still, passes⟩ := ignores s₁ t₂ _ (.inl ⟨(), rfl⟩)
  refine ⟨passes, ?_⟩
  rw [still]
  exact returned t₂ (Nat.le_trans elapsed₁.1 elapsed₂.1)

/-- What is left to do after the first phase. -/
def AfterHttp3 (m : Monitor sig σ) (pace : Pace) (P : Post σ (Except Error Response))
    (builder : RequestBuilder) (uri : Uri) : Except Error (Option Response) → Nat → σ → Prop
  | .ok (some response) => P.returned (.ok response)
  | .ok none => (tcpPhase builder uri (sentHeaders builder)).Sat m pace P
  | .error err => P.returned (.error err)

/-- A builder with an error returns it at once. -/
theorem send_sat {P : Post σ (Except Error Response)} {builder : RequestBuilder}
    (failed : ∀ err, builder.deferredError = some err ∨ builder.uri = .error err →
      P.returned (.error err) t s)
    (sent : ∀ uri, builder.deferredError = none → builder.uri = .ok uri →
      (http3Phase builder uri (sentHeaders builder)).Sat m pace
        ⟨AfterHttp3 m pace P builder uri, P.panicked, P.dropped⟩ t s) :
    (send builder).Sat m pace P t s := by
  unfold send
  split
  · exact failed _ (.inl ‹_›)
  · rename_i fine
    split
    · exact failed _ (.inr ‹_›)
    · rename_i uri parsed
      refine Prog.Sat.andThen _ ((sent uri fine parsed).mono ?_ (fun _ _ => id) fun _ _ => id)
      intro result t s returned
      rcases result with err | _ | response
      · exact returned
      · exact returned
      · exact returned

/-- The first phase is skipped, or it awaits `h3_attempt`. -/
theorem http3Phase_sat {P : Post σ (Except Error (Option Response))} {builder : RequestBuilder}
    {uri : Uri} {headers : HeaderMap} (parsed : builder.uri = .ok uri)
    (skipped : (∀ origin body, ¬ TriesHttp3 builder origin body) → P.returned (.ok none) t s)
    (tried : ∀ origin body, TriesHttp3 builder origin body →
      (h3Result builder origin (h3Attempt builder origin ⟨builder.method, uri, headers, ()⟩
        body)).Sat m pace P t s) :
    (http3Phase builder uri headers).Sat m pace P t s := by
  unfold http3Phase
  split
  · rename_i enabled
    split
    · rename_i origin body https replayable
      exact tried origin body ⟨enabled, by simp [originOf, parsed, https], replayable⟩
    · rename_i notBoth
      refine skipped fun origin body tries => ?_
      refine notBoth origin body ?_ tries.body
      simpa [originOf, parsed] using tries.origin
  · rename_i disabled
    exact skipped fun origin body tries => disabled tries.enabled

theorem h3Attempt_sat {P : Post σ (Except Error (Option Response))} {builder : RequestBuilder}
    {origin : Origin} {request : Request Unit} {body : Option Bytes}
    (tried : (tryHttp3 builder.client origin request body).Sat m pace
      ⟨fun result t s => ∀ t₁, Elapses pace t t₁ →
        m.check s t₁ (.call (.trace .tryHttp3Left) ()) ∧
        P.returned result t₁ (m.next s t₁ (.call (.trace .tryHttp3Left) ())),
        P.panicked, P.dropped⟩ t s) :
    (h3Attempt builder origin request body).Sat m pace P t s := by
  refine Prog.Sat.bind _ (tried.mono ?_ (fun _ _ => id) fun _ _ => id)
  intro result t s left
  refine Prog.Sat.perform_bind ?_
  intro t₁ _ elapsed _
  exact left t₁ elapsed

/-- For a monitor that takes no notice of the request's timer at its own timeout,
but may restrict when it fires: an attempt under the timeout may be cut wherever
it can be dropped and the timer is admitted. -/
theorem h3Result_armed {P : Post σ (Except Error (Option Response))} {I : σ → Prop}
    {builder : RequestBuilder} {origin : Origin}
    {attempt : Prog sig (Except Error (Option Response))}
    (ignores : ∀ d, builder.effectiveTimeout = some d → ∀ s t,
      m.next s t (.arm .request (t + d.nanos)) = s ∧ m.check s t (.arm .request (t + d.nanos)) ∧
      m.Ignores .request (t + d.nanos))
    (fires : ∀ s t j deadline, m.assume s t (.fire j .request deadline) → I s)
    (keeps : ∀ s t l, I s → I (m.next s t l))
    (attempted : ∀ t', Elapses pace t t' → attempt.Sat m pace
      ⟨P.returned, P.panicked, fun t s =>
        (I s → (h3TimedOut builder origin).Sat m pace P t s) ∧ P.dropped t s⟩ t' s) :
    (h3Result builder origin attempt).Sat m pace P t s := by
  unfold h3Result
  split
  · exact (attempted t (Elapses.refl pace t)).mono (fun _ _ _ => id) (fun _ _ => id)
      fun _ _ => And.right
  · rename_i d timed
    refine Prog.Sat.bind _ (Prog.Sat.timeout_admitted fires keeps ?_)
    intro t' elapsed _
    obtain ⟨still, passes, ignored⟩ := ignores d timed s t'
    refine ⟨passes, ignored, ?_⟩
    rw [still]
    exact attempted t' elapsed

/-- The same, whatever its deadline. -/
theorem h3Result_admitted {P : Post σ (Except Error (Option Response))} {I : σ → Prop}
    {builder : RequestBuilder} {origin : Origin}
    {attempt : Prog sig (Except Error (Option Response))}
    (ignores : ∀ s t deadline, m.next s t (.arm .request deadline) = s ∧
      m.check s t (.arm .request deadline) ∧ m.Ignores .request deadline)
    (fires : ∀ s t j deadline, m.assume s t (.fire j .request deadline) → I s)
    (keeps : ∀ s t l, I s → I (m.next s t l))
    (attempted : ∀ t', Elapses pace t t' → attempt.Sat m pace
      ⟨P.returned, P.panicked, fun t s =>
        (I s → (h3TimedOut builder origin).Sat m pace P t s) ∧ P.dropped t s⟩ t' s) :
    (h3Result builder origin attempt).Sat m pace P t s :=
  h3Result_armed (fun _ _ s t => ignores s t _) fires keeps attempted

/-- The same, wherever it is cut. -/
theorem h3Result_sat {P : Post σ (Except Error (Option Response))} {builder : RequestBuilder}
    {origin : Origin} {attempt : Prog sig (Except Error (Option Response))}
    (ignores : ∀ s t deadline, m.next s t (.arm .request deadline) = s ∧
      m.check s t (.arm .request deadline) ∧ m.Ignores .request deadline)
    (attempted : ∀ t', Elapses pace t t' → attempt.Sat m pace
      ⟨P.returned, P.panicked, fun t s =>
        (h3TimedOut builder origin).Sat m pace P t s ∧ P.dropped t s⟩ t' s) :
    (h3Result builder origin attempt).Sat m pace P t s := by
  have anywhere : ∀ s : σ, (fun _ : σ => True) s := fun _ => True.intro
  refine h3Result_admitted ignores (fun s _ _ _ _ => anywhere s) (fun s _ _ _ => anywhere s) ?_
  intro t' elapsed
  exact (attempted t' elapsed).mono (fun _ _ _ => id) (fun _ _ => id)
    fun _ _ dropped => ⟨fun _ => dropped.1, dropped.2⟩

/-- The loop gives HTTP/3 up after this outcome. -/
def givesUp (attempt : Nat) : Http3Outcome → Bool
  | .responded => false
  | .failed (.handshake _) => true
  | .failed (.stream retryWithoutH3) => h3StreamFailureAction retryWithoutH3 attempt = .useTcp

/-- The origin for which the loop gives HTTP/3 up here. -/
def gaveUp : Label sig → Option Origin
  | .call (.trace (.http3Outcome origin attempt outcome)) _ =>
    if givesUp attempt outcome then some origin else none
  | _ => none

theorem gaveUp_cases {label : Label sig} {origin : Origin} (h : gaveUp label = some origin) :
    ∃ attempt outcome, label = .call (.trace (.http3Outcome origin attempt outcome)) () ∧
      givesUp attempt outcome = true := by
  unfold gaveUp at h
  split at h
  · rename_i o attempt outcome _
    split at h
    · cases h
      exact ⟨attempt, outcome, rfl, ‹_›⟩
    · cases h
  · cases h

section TryHttp3

variable {client : Client} {origin : Origin} {request : Request Unit} {body : Option Bytes}
  {now : Instant} {P : Post σ (Except Error (Option Response))}

/-- What is left to do after the Alt-Svc route. -/
def AfterAltSvc (m : Monitor sig σ) (pace : Pace)
    (P : Post σ (Except Error (Option Response))) (client : Client) (origin : Origin)
    (request : Request Unit) (body : Option Bytes) (now : Instant) :
    Except Error (Option Response) → Nat → σ → Prop
  | .ok none => (tryHttpsRrRoute client origin request body now).Sat m pace P
  | .ok (some response) => P.returned (.ok (some response))
  | .error err => P.returned (.error err)

/-- What is left to do after an attempt. -/
def AfterAttempt (m : Monitor sig σ) (pace : Pace)
    (P : Post σ (Except Error (Option Response))) (client : Client) (target : Http3RequestTarget)
    (request : Request Unit) (body : Option Bytes) (now : Instant) (attempt : Nat)
    (attempts : List Nat) : Except Http3AttemptError Response → Nat → σ → Prop
  | .ok response => P.returned (.ok (some response))
  | .error (.handshake _) => (giveUp client target.origin now).Sat m pace P
  | .error (.stream retryWithoutH3) =>
    match h3StreamFailureAction retryWithoutH3 attempt with
    | .retryFreshH3 => (retryLoop client target request body now attempts).Sat m pace P
    | .useTcp => (giveUp client target.origin now).Sat m pace P

/-- The clock reading, the negative-cache check, and then the two routes: the
second is reached when the first returns nothing. -/
theorem tryHttp3_sat
    (entered : ∀ t₁, Elapses pace t t₁ →
      m.check s t₁ (.call (.trace (.tryHttp3Entered origin)) ()) ∧
      ∀ s₁, s₁ = m.next s t₁ (.call (.trace (.tryHttp3Entered origin)) ()) →
      ∀ t₂ now, Elapses pace t₁ t₂ → m.assume s₁ t₂ (.call .instantNow now) →
        m.check s₁ t₂ (.call .instantNow now) ∧
        ∀ s₂, s₂ = m.next s₁ t₂ (.call .instantNow now) →
        ∀ t₃ hit, Elapses pace t₂ t₃ → m.assume s₂ t₃ (.call (.negativeCacheHit origin now) hit) →
          m.check s₂ t₃ (.call (.negativeCacheHit origin now) hit) ∧
          ∀ s₃, s₃ = m.next s₂ t₃ (.call (.negativeCacheHit origin now) hit) →
            (hit = true → P.returned (.ok none) t₃ s₃) ∧
            (hit = false → (tryAltSvcRoute client origin request body now).Sat m pace
              ⟨AfterAltSvc m pace P client origin request body now, P.panicked, P.dropped⟩
              t₃ s₃)) :
    (tryHttp3 client origin request body).Sat m pace P t s := by
  unfold tryHttp3
  refine Prog.Sat.perform_bind ?_
  intro t₁ _ elapsed₁ _
  obtain ⟨passes₁, reads⟩ := entered t₁ elapsed₁
  refine ⟨passes₁, Prog.Sat.perform_bind ?_⟩
  intro t₂ now elapsed₂ admitted₂
  obtain ⟨passes₂, checks⟩ := reads _ rfl t₂ now elapsed₂ admitted₂
  refine ⟨passes₂, Prog.Sat.perform_bind ?_⟩
  intro t₃ hit elapsed₃ admitted₃
  obtain ⟨passes₃, goes⟩ := checks _ rfl t₃ hit elapsed₃ admitted₃
  refine ⟨passes₃, ?_⟩
  cases hit with
  | true => exact (goes _ rfl).1 rfl
  | false =>
    refine Prog.Sat.andThen _ (((goes _ rfl).2 rfl).mono ?_ (fun _ _ => id) fun _ _ => id)
    intro result t s overAltSvc
    rcases result with err | _ | response
    · exact overAltSvc
    · refine Prog.Sat.andThen _ (Prog.Sat.mono overAltSvc ?_ (fun _ _ => id) fun _ _ => id)
      intro result t s overHttpsRr
      rcases result with err | _ | response
      · exact overHttpsRr
      · exact overHttpsRr
      · exact overHttpsRr
    · exact overAltSvc

theorem tryAltSvcRoute_sat
    (looked : ∀ t₁ found, Elapses pace t t₁ → m.assume s t₁ (.call (.altSvcEntry origin now) found) →
      m.check s t₁ (.call (.altSvcEntry origin now) found) ∧
      ∀ s₁, s₁ = m.next s t₁ (.call (.altSvcEntry origin now) found) →
        (found = none → P.returned (.ok none) t₁ s₁) ∧
        ∀ entry, found = some entry → ∀ t₂, Elapses pace t₁ t₂ →
          m.check s₁ t₂ (.call (.trace (.altSvcRoute origin entry.host entry.port)) ()) ∧
          (requestHttp3WithStaleRetry client (altSvcTarget origin entry) request body now).Sat
            m pace P t₂
            (m.next s₁ t₂ (.call (.trace (.altSvcRoute origin entry.host entry.port)) ()))) :
    (tryAltSvcRoute client origin request body now).Sat m pace P t s := by
  unfold tryAltSvcRoute
  refine Prog.Sat.perform_bind ?_
  intro t₁ found elapsed₁ admitted₁
  obtain ⟨passes₁, goes⟩ := looked t₁ found elapsed₁ admitted₁
  refine ⟨passes₁, ?_⟩
  cases found with
  | none => exact (goes _ rfl).1 rfl
  | some entry =>
    refine Prog.Sat.perform_bind ?_
    intro t₂ _ elapsed₂ _
    exact (goes _ rfl).2 entry rfl t₂ elapsed₂

theorem tryHttpsRrRoute_sat
    (looked : (httpsRrEntry origin now).Sat m pace
      ⟨fun found t s =>
        (∀ entry, found = some entry → entry.hasH3 = true →
          (requestHttp3WithStaleRetry client (httpsRrTarget origin entry) request body now).Sat
            m pace P t s) ∧
        ((∀ entry, found = some entry → entry.hasH3 = false) → P.returned (.ok none) t s),
        P.panicked, P.dropped⟩ t s) :
    (tryHttpsRrRoute client origin request body now).Sat m pace P t s := by
  unfold tryHttpsRrRoute
  refine Prog.Sat.bind _ (looked.mono ?_ (fun _ _ => id) fun _ _ => id)
  intro found t s goes
  cases found with
  | none => exact goes.2 fun _ none => nomatch none
  | some entry =>
    cases h3 : entry.hasH3 with
    | true =>
      simp only [h3, if_true]
      exact goes.1 entry rfl h3
    | false =>
      simp only [h3, Bool.false_eq_true, if_false]
      refine goes.2 ?_
      intro other same
      cases same
      exact h3

/-- One round of the retry loop. -/
theorem retryLoop_sat {target : Http3RequestTarget} {attempt : Nat} {attempts : List Nat}
    (attempted : (guardedAttempt client target request body attempt).Sat m pace
      ⟨AfterAttempt m pace P client target request body now attempt attempts, P.panicked,
        P.dropped⟩ t s) :
    (retryLoop client target request body now (attempt :: attempts)).Sat m pace P t s := by
  unfold retryLoop
  refine Prog.Sat.bind _ (attempted.mono ?_ (fun _ _ => id) fun _ _ => id)
  intro result t s ended
  rcases result with (message | retryWithoutH3) | response
  · exact ended
  · simp only [AfterAttempt] at ended
    cases action : h3StreamFailureAction retryWithoutH3 attempt with
    | retryFreshH3 =>
      rw [action] at ended
      simp only [action]
      exact ended
    | useTcp =>
      rw [action] at ended
      simp only [action]
      exact ended
  · exact ended

/-- An attempt for a monitor that ignores what happens inside: it may be dropped
at any point, and else ends with its outcome. -/
theorem guardedAttempt_sat {target : Http3RequestTarget} {attempt : Nat}
    {P : Post σ (Except Http3AttemptError Response)}
    (ignores : m.IgnoresAll (attemptFootprint (callOf target request body)))
    (started : ∀ t₁, Elapses pace t t₁ →
      m.check s t₁ (.call (.trace (.http3Request target.origin (callOf target request body))) ()) ∧
      ∀ s₁, s₁ = m.next s t₁
          (.call (.trace (.http3Request target.origin (callOf target request body))) ()) →
      ∀ t₂, t₁ ≤ t₂ →
        m.rest s₁ t₂ ∧
        (cancellationGuardDrop client target.origin).Sat m pace P.afterDrop t₂ s₁ ∧
        ∀ result t₃, Elapses pace t₂ t₃ →
          m.check s₁ t₃ (.call (.trace (.http3Outcome target.origin attempt (outcomeOf result))) ()) ∧
          P.returned result t₃
            (m.next s₁ t₃ (.call (.trace (.http3Outcome target.origin attempt (outcomeOf result)))
              ()))) :
    (guardedAttempt client target request body attempt).Sat m pace P t s := by
  unfold guardedAttempt
  refine Prog.Sat.perform_bind ?_
  intro t₁ _ elapsed₁ _
  obtain ⟨passes₁, goes⟩ := started t₁ elapsed₁
  refine ⟨passes₁, Prog.Sat.bind _ (Prog.Sat.guarded _
    (Prog.Sat.of_uses ignores _ (http3Request_uses _) ?_ ?_ ?_ ?_))⟩
  · intro t₂ later
    exact (goes _ rfl t₂ later).1
  · intro result t₂ later
    refine Prog.Sat.perform_bind ?_
    intro t₃ _ elapsed₃ _
    exact (goes _ rfl t₂ later).2.2 result t₃ elapsed₃
  · exact fun no => no.elim
  · intro t₂ later
    exact (goes _ rfl t₂ later).2.1

end TryHttp3

/-- What a monitor knows where no attempt is open, after a failed one, with a
response, after a panic, and where the future has been dropped. -/
structure Stages (σ : Type) where
  idle : Nat → σ → Prop
  failed : Nat → Http3AttemptError → Nat → σ → Prop
  answered : Response → Nat → σ → Prop
  broken : Nat → σ → Prop
  gone : Nat → σ → Prop

namespace Stages

/-- The ends of an attempt. -/
def afterAttempt (stages : Stages σ) (attempt : Nat) :
    Post σ (Except Http3AttemptError Response) where
  returned
    | .ok response => stages.answered response
    | .error err => stages.failed attempt err
  panicked := stages.broken
  dropped := stages.gone

/-- The ends of a part that opens no attempt. -/
def between (stages : Stages σ) {α : Type} : Post σ α :=
  ⟨fun _ => stages.idle, stages.broken, stages.gone⟩

/-- The ends of a route, and of `try_http3`. -/
def after (stages : Stages σ) : Post σ (Except Error (Option Response)) where
  returned
    | .ok none => stages.idle
    | .ok (some response) => stages.answered response
    | .error _ => fun _ _ => False
  panicked := stages.broken
  dropped := stages.gone

/-- The parts of a route lead from stage to stage. -/
structure Kept (stages : Stages σ) (m : Monitor sig σ) (pace : Pace) (client : Client)
    (now : Instant) : Prop where
  attempt : ∀ target request body attempt t s, stages.idle t s →
    (guardedAttempt client target request body attempt).Sat m pace (stages.afterAttempt attempt) t s
  written : ∀ origin attempt err t s, givesUp attempt (.failed err) = true →
    stages.failed attempt err t s →
    (insertNegative client origin now).Sat m pace stages.between t s
  again : ∀ attempt err t s, givesUp attempt (.failed err) = false →
    stages.failed attempt err t s → stages.idle t s
  looked : ∀ origin t s, stages.idle t s →
    (httpsRrEntry origin now).Sat m pace stages.between t s
  routed : ∀ origin host port t s, stages.idle t s → ∀ t', Elapses pace t t' →
    m.check s t' (.call (.trace (.altSvcRoute origin host port)) ()) ∧
    stages.idle t' (m.next s t' (.call (.trace (.altSvcRoute origin host port)) ()))

namespace Kept

variable {stages : Stages σ} {client : Client} {origin : Origin} {request : Request Unit}
  {body : Option Bytes} {now : Instant} {target : Http3RequestTarget}

theorem round {attempt : Nat} {attempts : List Nat} (kept : stages.Kept m pace client now)
    (idle : stages.idle t s)
    (retried : ∀ retryWithoutH3, h3StreamFailureAction retryWithoutH3 attempt = .retryFreshH3 →
      ∀ t s, stages.idle t s →
        (retryLoop client target request body now attempts).Sat m pace stages.after t s) :
    (retryLoop client target request body now (attempt :: attempts)).Sat m pace stages.after t s := by
  refine retryLoop_sat ((kept.attempt target request body attempt t s idle).mono ?_
    (fun _ _ => id) fun _ _ => id)
  intro result t s ended
  have stops : ∀ err, givesUp attempt (.failed err) = true → stages.failed attempt err t s →
      (giveUp client target.origin now).Sat m pace stages.after t s := by
    intro err gives failed
    apply Prog.Sat.bind
    apply Prog.Sat.ofSync
    exact kept.written target.origin attempt err t s gives failed
  rcases result with (message | retryWithoutH3) | response
  · exact stops (.handshake message) rfl ended
  · simp only [AfterAttempt]
    cases action : h3StreamFailureAction retryWithoutH3 attempt with
    | retryFreshH3 =>
      have again : givesUp attempt (.failed (.stream retryWithoutH3)) = false := by
        simp [givesUp, action]
      exact retried retryWithoutH3 action t s (kept.again _ _ t s again ended)
    | useTcp =>
      have gives : givesUp attempt (.failed (.stream retryWithoutH3)) = true := by
        simp [givesUp, action]
      exact stops (.stream retryWithoutH3) gives ended
  · exact ended

/-- The loop has at most two rounds. -/
theorem staleRetry (kept : stages.Kept m pace client now) (idle : stages.idle t s) :
    (requestHttp3WithStaleRetry client target request body now).Sat m pace stages.after t s := by
  refine kept.round idle ?_
  intro _ _ t s idle
  refine kept.round idle ?_
  intro retryWithoutH3 again
  simp [h3StreamFailureAction] at again

theorem httpsRrRoute (kept : stages.Kept m pace client now) (idle : stages.idle t s) :
    (tryHttpsRrRoute client origin request body now).Sat m pace stages.after t s := by
  refine tryHttpsRrRoute_sat ((kept.looked origin t s idle).mono ?_ (fun _ _ => id) fun _ _ => id)
  intro found t s idle
  exact ⟨fun _ _ _ => kept.staleRetry idle, fun _ => idle⟩

/-- The second route is taken where the first has brought nothing. -/
theorem altSvcRoute (kept : stages.Kept m pace client now)
    (looked : ∀ t₁ found, Elapses pace t t₁ →
      m.check s t₁ (.call (.altSvcEntry origin now) found) ∧
      stages.idle t₁ (m.next s t₁ (.call (.altSvcEntry origin now) found))) :
    (tryAltSvcRoute client origin request body now).Sat m pace
      ⟨AfterAltSvc m pace stages.after client origin request body now, stages.broken, stages.gone⟩
      t s := by
  apply tryAltSvcRoute_sat
  intro t₁ found elapsed₁ _
  obtain ⟨passes₁, idle₁⟩ := looked t₁ found elapsed₁
  refine ⟨passes₁, ?_⟩
  intro s₁ same₁
  subst same₁
  refine ⟨fun _ => kept.httpsRrRoute idle₁, ?_⟩
  intro entry _ t₂ elapsed₂
  obtain ⟨passes₂, idle₂⟩ := kept.routed origin entry.host entry.port t₁ _ idle₁ t₂ elapsed₂
  refine ⟨passes₂, (kept.staleRetry idle₂).mono ?_ (fun _ _ => id) fun _ _ => id⟩
  intro result t s ended
  rcases result with err | _ | response
  · exact ended.elim
  · exact kept.httpsRrRoute ended
  · exact ended

end Kept

/-- `try_http3`: what comes before the routes is left to the monitor. -/
theorem tryHttp3 {stages : Stages σ} {client : Client} {origin : Origin} {request : Request Unit}
    {body : Option Bytes}
    (consulted : ∀ t₁, Elapses pace t t₁ →
      m.check s t₁ (.call (.trace (.tryHttp3Entered origin)) ()) ∧
      ∀ s₁, s₁ = m.next s t₁ (.call (.trace (.tryHttp3Entered origin)) ()) →
      ∀ t₂ now, Elapses pace t₁ t₂ → m.assume s₁ t₂ (.call .instantNow now) →
        m.check s₁ t₂ (.call .instantNow now) ∧ stages.Kept m pace client now ∧
        ∀ s₂, s₂ = m.next s₁ t₂ (.call .instantNow now) →
        ∀ t₃ hit, Elapses pace t₂ t₃ →
          m.check s₂ t₃ (.call (.negativeCacheHit origin now) hit) ∧
          ∀ s₃, s₃ = m.next s₂ t₃ (.call (.negativeCacheHit origin now) hit) →
            stages.idle t₃ s₃ ∧
            ∀ t₄ found, Elapses pace t₃ t₄ →
              m.check s₃ t₄ (.call (.altSvcEntry origin now) found) ∧
              stages.idle t₄ (m.next s₃ t₄ (.call (.altSvcEntry origin now) found))) :
    (Source.tryHttp3 client origin request body).Sat m pace stages.after t s := by
  apply tryHttp3_sat
  intro t₁ elapsed₁
  obtain ⟨passes₁, reads⟩ := consulted t₁ elapsed₁
  refine ⟨passes₁, ?_⟩
  intro s₁ same₁ t₂ now elapsed₂ admitted₂
  obtain ⟨passes₂, kept, checks⟩ := reads s₁ same₁ t₂ now elapsed₂ admitted₂
  refine ⟨passes₂, ?_⟩
  intro s₂ same₂ t₃ hit elapsed₃ _
  obtain ⟨passes₃, looks⟩ := checks s₂ same₂ t₃ hit elapsed₃
  refine ⟨passes₃, ?_⟩
  intro s₃ same₃
  obtain ⟨idle, looked⟩ := looks s₃ same₃
  exact ⟨fun _ => idle, fun _ => kept.altSvcRoute looked⟩

/-- The attempt under the request's timeout, on the way to `AfterHttp3`. -/
theorem h3Result (stages : Stages σ) {I : σ → Prop}
    {P : Post σ (Except Error (Option Response))} {builder : RequestBuilder} {origin : Origin}
    {request : Request Unit} {body : Option Bytes}
    (ignores : ∀ s t deadline, m.next s t (.arm .request deadline) = s ∧
      m.check s t (.arm .request deadline) ∧ m.Ignores .request deadline)
    (fires : ∀ s t j deadline, m.assume s t (.fire j .request deadline) → I s)
    (keeps : ∀ s t l, I s → I (m.next s t l))
    (left : ∀ s t, m.next s t (.call (.trace .tryHttp3Left) ()) = s ∧
      m.check s t (.call (.trace .tryHttp3Left) ()))
    (tried : ∀ t', Elapses pace t t' →
      (Source.tryHttp3 builder.client origin request body).Sat m pace stages.after t' s)
    (goesOn : ∀ t s t', stages.idle t s → Elapses pace t t' → P.returned (.ok none) t' s)
    (answered : ∀ response t s t', stages.answered response t s → Elapses pace t t' →
      P.returned (.ok (some response)) t' s)
    (broken : ∀ t s, stages.broken t s → P.panicked t s)
    (gone : ∀ t s, stages.gone t s →
      (I s → (h3TimedOut builder origin).Sat m pace P t s) ∧ P.dropped t s) :
    (Source.h3Result builder origin (h3Attempt builder origin request body)).Sat m pace P t s := by
  refine h3Result_admitted ignores fires keeps ?_
  intro t' elapsed
  refine h3Attempt_sat ((tried t' elapsed).mono ?_ broken gone)
  intro result t s ended t₁ elapsed₁
  obtain ⟨still, passes⟩ := left s t₁
  refine ⟨passes, ?_⟩
  rw [still]
  rcases result with err | _ | response
  · exact ended.elim
  · exact goesOn t s t₁ ended elapsed₁
  · exact answered response t s t₁ ended elapsed₁

end Stages

/-- What is left to do once hyper has answered. -/
def AfterHyper (m : Monitor sig σ) (pace : Pace) (P : Post σ (Except Error Response)) (uri : Uri) :
    Except LegacyError (ResponseParts × BodyHandle) → Nat → σ → Prop
  | .error err, t, s => P.returned (.error (mapLegacyError err)) t s
  | .ok (parts, incoming), t, s =>
    (maybeUpdateAltSvc uri (Response.new parts incoming)).Sat m pace
      ⟨fun _ => P.returned (.ok (Response.new parts incoming)), P.panicked, P.dropped⟩ t s

/-- The second phase, for a monitor that takes no notice of the request's timer at
its own timeout, but may restrict when it fires. -/
theorem tcpPhase_armed {P : Post σ (Except Error Response)} {I : σ → Prop}
    {builder : RequestBuilder} {uri : Uri} {headers : HeaderMap}
    (ignores : ∀ d, builder.effectiveTimeout = some d → ∀ s t,
      m.next s t (.arm .request (t + d.nanos)) = s ∧ m.check s t (.arm .request (t + d.nanos)) ∧
      m.Ignores .request (t + d.nanos))
    (fires : ∀ s t j deadline, m.assume s t (.fire j .request deadline) → I s)
    (keeps : ∀ s t l, I s → I (m.next s t l))
    (awaited : ∀ t', Elapses pace t t' →
      (suspend (.hyperRequest ⟨builder.method, uri, headers, builder.body.intoBody⟩)).Sat m pace
        ⟨AfterHyper m pace P uri, P.panicked,
          fun t s => (I s → P.returned (.error .timeout) t s) ∧ P.dropped t s⟩ t' s) :
    (tcpPhase builder uri headers).Sat m pace P t s := by
  unfold tcpPhase
  refine Prog.Sat.bind _ ?_
  split
  · rename_i d timed
    refine Prog.Sat.timeout_admitted fires keeps ?_
    intro t' elapsed _
    obtain ⟨still, passes, ignored⟩ := ignores d timed s t'
    refine ⟨passes, ignored, ?_⟩
    rw [still]
    refine (awaited t' elapsed).mono ?_ (fun _ _ => id) fun _ _ => id
    intro result t s arrived
    rcases result with err | ⟨parts, incoming⟩
    · exact arrived
    · exact Prog.Sat.bind _ arrived
  · refine Prog.Sat.bind _ ((awaited t (Elapses.refl pace t)).mono ?_ (fun _ _ => id) ?_)
    · intro result t s arrived
      rcases result with err | ⟨parts, incoming⟩
      · exact arrived
      · exact Prog.Sat.bind _ arrived
    · exact fun _ _ => And.right

/-- The same, whatever its deadline. -/
theorem tcpPhase_admitted {P : Post σ (Except Error Response)} {I : σ → Prop}
    {builder : RequestBuilder} {uri : Uri} {headers : HeaderMap}
    (ignores : ∀ s t deadline, m.next s t (.arm .request deadline) = s ∧
      m.check s t (.arm .request deadline) ∧ m.Ignores .request deadline)
    (fires : ∀ s t j deadline, m.assume s t (.fire j .request deadline) → I s)
    (keeps : ∀ s t l, I s → I (m.next s t l))
    (awaited : ∀ t', Elapses pace t t' →
      (suspend (.hyperRequest ⟨builder.method, uri, headers, builder.body.intoBody⟩)).Sat m pace
        ⟨AfterHyper m pace P uri, P.panicked,
          fun t s => (I s → P.returned (.error .timeout) t s) ∧ P.dropped t s⟩ t' s) :
    (tcpPhase builder uri headers).Sat m pace P t s :=
  tcpPhase_armed (fun _ _ s t => ignores s t _) fires keeps awaited

theorem tcpPhase_sat {P : Post σ (Except Error Response)} {builder : RequestBuilder}
    {uri : Uri} {headers : HeaderMap}
    (ignores : ∀ s t deadline, m.next s t (.arm .request deadline) = s ∧
      m.check s t (.arm .request deadline) ∧ m.Ignores .request deadline)
    (awaited : ∀ t', Elapses pace t t' →
      (suspend (.hyperRequest ⟨builder.method, uri, headers, builder.body.intoBody⟩)).Sat m pace
        ⟨AfterHyper m pace P uri, P.panicked,
          fun t s => P.returned (.error .timeout) t s ∧ P.dropped t s⟩ t' s) :
    (tcpPhase builder uri headers).Sat m pace P t s := by
  have anywhere : ∀ s : σ, (fun _ : σ => True) s := fun _ => True.intro
  refine tcpPhase_admitted ignores (fun s _ _ _ _ => anywhere s) (fun s _ _ _ => anywhere s) ?_
  intro t' elapsed
  exact (awaited t' elapsed).mono (fun _ _ _ => id) (fun _ _ => id)
    fun _ _ dropped => ⟨fun _ => dropped.1, dropped.2⟩

/-- Operations of a send outside `try_http3`. -/
def besideOps : Op → Prop
  | .instantNow | .negativeInsert _ _ _ | .altSvcRemove _ | .altSvcUpdate _ _ => True
  | .trace .tryHttp3Left | .hyperRequest _ => True
  | _ => False

def besideTryHttp3 : Alphabet sig := ⟨besideOps, fun timer => timer = .request, True⟩

theorem tcpPhase_beside (builder : RequestBuilder) (uri : Uri) (headers : HeaderMap) :
    (tcpPhase builder uri headers).Uses besideTryHttp3 :=
  tcpPhase_within True.intro rfl True.intro (fun _ _ _ => True.intro) True.intro

/-- A monitor that only looks at `try_http3` follows a send if it follows that. -/
theorem send_settled {Q : σ → Prop} {builder : RequestBuilder}
    (ignores : m.IgnoresAll besideTryHttp3) (rests : ∀ s t, Q s → m.rest s t) (idle : Q s)
    (tried : ∀ uri origin body, builder.uri = .ok uri → TriesHttp3 builder origin body → ∀ t,
      (tryHttp3 builder.client origin ⟨builder.method, uri, sentHeaders builder, ()⟩ body).Sat
        m pace (Post.settled Q) t s) :
    (send builder).Sat m pace (Post.settled Q) t s := by
  have ignoresTimer : ∀ (s : σ) (t deadline : Nat),
      m.next s t (.arm .request deadline) = s ∧ m.check s t (.arm .request deadline) ∧
      m.Ignores .request deadline := by
    intro s t deadline
    obtain ⟨still, passes⟩ := ignores s t (.arm .request deadline) rfl
    exact ⟨still, passes, fun s t j => ignores s t (.fire j .request deadline) rfl⟩
  refine send_sat (fun _ _ => idle) ?_
  intro uri fine parsed
  have ended : ∀ result t s, Q s →
      AfterHttp3 m pace (Post.settled Q) builder uri result t s := by
    intro result t s settled
    rcases result with err | _ | response
    · exact settled
    · exact Prog.Sat.of_uses ignores _ (tcpPhase_beside builder uri _) (fun t _ => rests s t settled)
        (fun _ _ _ => settled) (fun _ _ _ => settled) (fun _ _ => settled)
    · exact settled
  refine http3Phase_sat parsed (fun _ => ended (.ok none) t s idle) ?_
  intro origin body tries
  refine h3Result_sat ignoresTimer ?_
  intro t' _
  refine h3Attempt_sat ((tried uri origin body parsed tries t').mono ?_ (fun _ _ => id) ?_)
  · intro result t s settled t₁ _
    obtain ⟨still, passes⟩ := ignores s t₁ (.call (.trace .tryHttp3Left) ()) True.intro
    refine ⟨passes, ?_⟩
    rw [still]
    exact ended result t₁ s settled
  · intro t s settled
    refine ⟨?_, settled⟩
    have timedOut : (h3TimedOut builder origin).Uses besideTryHttp3 := by
      refine Prog.Uses.bind ?_ _ (Prog.Uses.perform True.intro)
      intro now
      exact Prog.Uses.map _ _ (Prog.Uses.ofSync _
        (insertNegative_uses True.intro True.intro True.intro))
    exact Prog.Sat.of_uses ignores _ timedOut (fun t _ => rests s t settled)
      (fun result t _ => ended result t s settled) (fun _ _ _ => settled) (fun _ _ => settled)

end MechanicsHttpClient.Guarantees
