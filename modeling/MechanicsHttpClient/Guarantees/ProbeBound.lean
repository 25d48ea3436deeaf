import MechanicsHttpClient.Guarantees.Phases
import MechanicsHttpClient.Runtime.Lasting

/-!
# How long HTTP/3 is tried before the fallback

src/http3.rs:50-119, 236-276 and src/request.rs:276-463. Up to the wait for
response headers every await of `try_http3` is under a fixed timeout. Only a
failure at stream open is retried, and only once, so a route costs at most one
attempt cut off there and one full attempt; two routes and one HTTPS RR lookup
give the bound.
-/

namespace MechanicsHttpClient.Guarantees

open MechanicsHttpClient.Runtime
open MechanicsHttpClient.Source

/-- From the address lookup to the connection. -/
def connectCost : Nat := h3DnsLookupTimeout.nanos + 2 * h3ConnectTimeout.nanos

/-- An attempt that is cut off at stream open. -/
def cutCost : Nat := connectCost + h3StreamOpenTimeout.nanos

/-- An attempt that gets as far as the wait for response headers. -/
def fullCost : Nat := cutCost + 2 * h3StreamUploadTimeout.nanos

def routeCost : Nat := cutCost + fullCost

def probeBound : Nat := 2 * routeCost + h3HttpsRrLookupTimeout.nanos

example : probeBound = 7350 * 1000000 := rfl

/-- A send as seen from its probe: inside `try_http3` since some instant, or past
it or waiting for response headers. -/
inductive Probe where
  | outside
  | inside (since : Nat)
  | past

def Probe.next : Probe → Nat → Label sig → Probe
  | .past, _, _ => .past
  | .outside, t, .call (.trace (.tryHttp3Entered _)) _ => .inside t
  | _, _, .call (.trace .tryHttp3Left) _ => .past
  | _, _, .issue .recvResponse => .past
  | probe, _, _ => probe

/-- No more time than the bound has passed inside. -/
def Probe.InBound (probe : Probe) (t : Nat) : Prop :=
  ∀ since, probe = .inside since → t ≤ since + probeBound

def probeMonitor : Monitor sig Probe where
  next := Probe.next
  assume _ _ _ := True
  check _ _ _ := True
  rest := Probe.InBound

/-- Everything that leaves the probe where it is. -/
def probeQuiet : Alphabet sig where
  op
    | .trace (.tryHttp3Entered _) | .trace .tryHttp3Left | .recvResponse => False
    | _ => True
  timer _ := True
  unwinds := True

theorem probeMonitor_ignores : probeMonitor.IgnoresAll probeQuiet := by
  intro probe t label has
  refine ⟨?_, True.intro⟩
  cases label with
  | call op ans =>
    cases op with
    | trace point =>
      cases point with
      | tryHttp3Entered origin => exact has.elim
      | tryHttp3Left => exact has.elim
      | _ => cases probe <;> rfl
    | _ => cases probe <;> rfl
  | issue op =>
    cases op with
    | recvResponse => exact has.elim
    | _ => cases probe <;> rfl
  | _ => cases probe <;> rfl

/-- Past the probe nothing is said any more. -/
theorem over_sat {α : Type} {P : Post Probe α} {pace : Pace} (p : Prog sig α) (t : Nat)
    (returned : ∀ a t, P.returned a t .past) (panicked : ∀ t, P.panicked t .past)
    (dropped : ∀ t, P.dropped t .past) : p.Sat probeMonitor pace P t .past := by
  have rests : ∀ probe t, probe = Probe.past → probeMonitor.rest probe t := by
    rintro probe t rfl since impossible
    cases impossible
  refine Prog.Sat.of_invariant ?_ rests ?_ ?_ ?_ p rfl
  · rintro probe t label rfl
    exact ⟨True.intro, rfl⟩
  · rintro a t probe rfl
    exact returned a t
  · rintro t probe rfl
    exact panicked t
  · rintro t probe rfl
    exact dropped t

/-- Nothing is said of a program that never rests. -/
theorem sync_sat {α : Type} {P : Post Probe α} {pace : Pace} (c : Sync sig α) (t : Nat)
    (probe : Probe)
    (ends : ∀ t probe, (∀ a, P.returned a t probe) ∧ P.panicked t probe) :
    c.Sat probeMonitor pace P t probe := by
  have keeps : ∀ (probe : Probe) (t : Nat) (label : Label sig), True →
      probeMonitor.check probe t label ∧ True := fun _ _ _ _ => ⟨True.intro, True.intro⟩
  exact Sync.Sat.of_invariant keeps (fun a t probe _ => (ends t probe).1 a)
    (fun t probe _ => (ends t probe).2) c True.intro

/-- The probe is over, or has used at most `k` of its time. -/
def SpentAtMost (since k t : Nat) (probe : Probe) : Prop :=
  probe = .past ∨ (probe = .inside since ∧ t ≤ since + k)

theorem SpentAtMost.mono {since k k' t : Nat} {probe : Probe} (le : k ≤ k')
    (spent : SpentAtMost since k t probe) : SpentAtMost since k' t probe := by
  rcases spent with isOver | ⟨inside, bound⟩
  · exact .inl isOver
  · exact .inr ⟨inside, by omega⟩

section Parts

variable {α : Type} {P : Post Probe α} {since k t : Nat} {probe : Probe}

/-- A part that lasts `d` adds `d` to what is spent. -/
theorem lasting_sat {p : Prog sig α} {d : Nat} (lasts : p.Lasts probeQuiet d)
    (spent : SpentAtMost since k t probe) (fits : k + d ≤ probeBound)
    (returned : ∀ a t probe, SpentAtMost since (k + d) t probe → P.returned a t probe)
    (ends : ∀ t probe, P.panicked t probe ∧ P.dropped t probe) :
    p.Sat probeMonitor .strict P t probe := by
  rcases spent with isOver | ⟨inside, bound⟩
  · subst isOver
    exact over_sat p t (fun a t => returned a t _ (.inl rfl)) (fun t => (ends t _).1)
      fun t => (ends t _).2
  · refine lasts Probe probeMonitor P t probe probeMonitor_ignores ?_
    intro t' later within
    have still : SpentAtMost since (k + d) t' probe := .inr ⟨inside, by omega⟩
    refine ⟨?_, fun a => returned a t' probe still, fun _ => (ends t' probe).1, (ends t' probe).2⟩
    intro since' same
    rw [inside] at same
    cases same
    omega

/-- An awaited operation under a timeout of its own. -/
theorem timed_sat {ε ε' : Type} {timer : Timer} {d : Duration} {elapsed : ε}
    {failed : ε' → ε} {future : Prog sig (Except ε' α)} {P : Post Probe (Except ε α)}
    (awaits : future.Uses probeQuiet)
    (spent : SpentAtMost since k t probe) (fits : k + d.nanos ≤ probeBound)
    (value : ∀ a t probe, SpentAtMost since (k + d.nanos) t probe → P.returned (.ok a) t probe)
    (error : ∀ t probe, SpentAtMost since (k + d.nanos) t probe →
      P.returned (.error elapsed) t probe ∧ ∀ err, P.returned (.error (failed err)) t probe)
    (ends : ∀ t probe, P.panicked t probe ∧ P.dropped t probe) :
    (timed timer d elapsed failed future).Sat probeMonitor .strict P t probe := by
  refine Prog.Sat.bind _ (lasting_sat (Prog.Lasts.timeout True.intro awaits) spent fits ?_ ends)
  intro result t probe spent
  rcases result with _ | err | a
  · exact (error t probe spent).1
  · exact (error t probe spent).2 err
  · exact value a t probe spent

end Parts

theorem firstSocketAddr_lasts (host : Str) (port : UInt16) (addresses : List IpAddr) :
    (firstSocketAddr host port addresses).Lasts probeQuiet h3DnsLookupTimeout.nanos := by
  unfold firstSocketAddr
  split
  · exact Prog.Lasts.ret _ _
  · refine Prog.Lasts.mono (Nat.le_refl (h3DnsLookupTimeout.nanos + 0)) (Prog.Lasts.andThen
      (Prog.Lasts.timed True.intro (Prog.Uses.suspend True.intro)) ?_)
    intro addrs
    cases addrs with
    | nil => exact Prog.Lasts.ret _ _
    | cons addr rest => exact Prog.Lasts.ret _ _

theorem connection_lasts (authorityHost : Str) (port : UInt16) (addresses : List IpAddr) :
    (connection authorityHost port addresses).Lasts probeQuiet connectCost := by
  have connecting : ∀ addr, ((perform (.connect addr authorityHost)).andThen fun _ =>
      (timed .connect h3ConnectTimeout "HTTP/3 connect timed out after 500ms".toList id
        (suspend .connecting)).andThen fun _ =>
      timed .setup h3ConnectTimeout "HTTP/3 setup timed out after 500ms".toList id
        (suspend .h3Build)).Lasts probeQuiet
          (0 + (h3ConnectTimeout.nanos + h3ConnectTimeout.nanos)) := by
    intro addr
    refine Prog.Lasts.andThen (Prog.Lasts.perform True.intro 0) ?_
    intro _
    refine Prog.Lasts.andThen (Prog.Lasts.timed True.intro (Prog.Uses.suspend True.intro)) ?_
    intro _
    exact Prog.Lasts.timed True.intro (Prog.Uses.suspend True.intro)
  have whole : (connection authorityHost port addresses).Lasts probeQuiet
      (0 + (h3DnsLookupTimeout.nanos + (0 + (h3ConnectTimeout.nanos + h3ConnectTimeout.nanos)))) := by
    refine Prog.Lasts.andThen (Prog.Lasts.perform True.intro 0) ?_
    intro _
    exact Prog.Lasts.andThen (firstSocketAddr_lasts authorityHost port addresses) connecting
  refine Prog.Lasts.mono ?_ whole
  unfold connectCost
  omega

/-- What an attempt costs at most, by its outcome. -/
def attemptCost : Except Http3AttemptError Response → Nat
  | .error (.stream true) => cutCost
  | _ => fullCost

theorem attemptCost_le (result : Except Http3AttemptError Response) :
    attemptCost result ≤ fullCost := by
  unfold attemptCost
  split
  · unfold fullCost
    omega
  · exact Nat.le_refl _

section Attempt

variable {since k t : Nat} {probe : Probe}

/-- Waiting for the response headers, the probe is over. -/
theorem recvResponse_sat {P : Post Probe (Except Http3AttemptError Response)} (stream : BodyHandle)
    (t : Nat) (probe : Probe) (returned : ∀ result t, P.returned result t .past)
    (dropped : ∀ t, P.dropped t .past) :
    ((suspend .recvResponse).bind fun response =>
      match response with
      | .ok parts => .ret (.ok (Response.newH3 parts stream))
      | .error _ => .ret (.error streamErrorAfterRequestStarted)).Sat probeMonitor .strict P t
        probe := by
  refine Prog.Sat.bind _ (Prog.Sat.suspend ?_)
  intro t₁ _ _
  have waiting : probeMonitor.next probe t₁ (.issue .recvResponse) = .past := by
    cases probe <;> rfl
  rw [waiting]
  refine ⟨True.intro, fun t₂ _ => ⟨?_, ?_, dropped t₂⟩⟩
  · intro since impossible
    cases impossible
  · intro ans _
    refine ⟨True.intro, ?_⟩
    cases ans with
    | ok parts => exact returned _ t₂
    | error err => exact returned _ t₂

theorem uploadBody_sat {P : Post Probe (Except Http3AttemptError Unit)} (body : Option Bytes)
    (spent : SpentAtMost since k t probe)
    (fits : k + h3StreamUploadTimeout.nanos ≤ probeBound)
    (value : ∀ t probe, SpentAtMost since (k + h3StreamUploadTimeout.nanos) t probe →
      P.returned (.ok ()) t probe)
    (error : ∀ t probe, SpentAtMost since (k + h3StreamUploadTimeout.nanos) t probe →
      P.returned (.error streamErrorAfterRequestStarted) t probe)
    (ends : ∀ t probe, P.panicked t probe ∧ P.dropped t probe) :
    (uploadBody body).Sat probeMonitor .strict P t probe := by
  cases body with
  | none => exact value t probe (SpentAtMost.mono (Nat.le_add_right _ _) spent)
  | some bytes =>
    refine timed_sat (Prog.Uses.suspend True.intro) spent fits (fun _ => value) ?_ ends
    intro t probe spent
    exact ⟨error t probe spent, fun _ => error t probe spent⟩

theorem requestOnStream_sat {P : Post Probe (Except Http3AttemptError Response)}
    (request : Request Unit) (body : Option Bytes)
    (spent : SpentAtMost since (k + connectCost) t probe) (fits : k + fullCost ≤ probeBound)
    (returned : ∀ result t probe, SpentAtMost since (k + attemptCost result) t probe →
      P.returned result t probe)
    (ends : ∀ t probe, P.panicked t probe ∧ P.dropped t probe) :
    (requestOnStream request body).Sat probeMonitor .strict P t probe := by
  have budget : k + connectCost + h3StreamOpenTimeout.nanos + h3StreamUploadTimeout.nanos +
      h3StreamUploadTimeout.nanos = k + fullCost := by
    unfold fullCost cutCost
    omega
  have failed : ∀ t probe, SpentAtMost since (k + fullCost) t probe →
      P.returned (.error streamErrorAfterRequestStarted) t probe :=
    fun t probe spent => returned _ t probe spent
  unfold requestOnStream
  refine Prog.Sat.andThen _ (timed_sat (Prog.Uses.suspend True.intro) spent (by omega)
    ?_ ?_ ends)
  · intro stream t probe spent
    refine Prog.Sat.andThen _ (uploadBody_sat body spent (by omega) ?_ ?_ ends)
    · intro t probe spent
      refine Prog.Sat.andThen _ (timed_sat (Prog.Uses.suspend True.intro) spent (by omega) ?_ ?_
        ends)
      · intro _ t probe _
        refine recvResponse_sat stream t probe ?_ fun t => (ends t _).2
        exact fun result t => returned result t _ (.inl rfl)
      · intro t probe spent
        have cost := failed t probe (SpentAtMost.mono (by omega) spent)
        exact ⟨cost, fun _ => cost⟩
    · intro t probe spent
      exact failed t probe (SpentAtMost.mono (by omega) spent)
  · intro t probe spent
    have cut : SpentAtMost since (k + cutCost) t probe :=
      SpentAtMost.mono (by unfold cutCost; omega) spent
    exact ⟨returned _ t probe cut, fun _ => returned _ t probe cut⟩

theorem http3Request_sat {P : Post Probe (Except Http3AttemptError Response)} (call : Http3Call)
    (spent : SpentAtMost since k t probe) (fits : k + fullCost ≤ probeBound)
    (returned : ∀ result t probe, SpentAtMost since (k + attemptCost result) t probe →
      P.returned result t probe)
    (ends : ∀ t probe, P.panicked t probe ∧ P.dropped t probe) :
    (http3Request call).Sat probeMonitor .strict P t probe := by
  have connects : k + connectCost ≤ k + fullCost := by
    unfold fullCost cutCost
    omega
  unfold http3Request
  refine Prog.Sat.bind _ (lasting_sat (connection_lasts _ _ _) spent (by omega) ?_ ends)
  intro connected t probe spent
  cases connected with
  | ok _ => exact requestOnStream_sat call.request call.body spent fits returned ends
  | error message => exact returned _ t probe (SpentAtMost.mono connects spent)

/-- A quiet synchronous operation costs nothing. -/
theorem perform_sat {α : Type} {P : Post Probe α} {op : Op} {f : op.Ans → Prog sig α}
    (quiet : probeQuiet.op op) (spent : SpentAtMost since k t probe)
    (next : ∀ ans t probe, SpentAtMost since k t probe → (f ans).Sat probeMonitor .strict P t probe) :
    ((perform op).bind f).Sat probeMonitor .strict P t probe := by
  refine Prog.Sat.perform_bind ?_
  intro t' ans elapsed _
  have now : t' = t := elapsed.2 rfl
  have still := (probeMonitor_ignores probe t' (.call op ans) quiet).1
  refine ⟨True.intro, ?_⟩
  rw [still, now]
  exact next ans t probe spent

theorem guardedAttempt_spends {P : Post Probe (Except Http3AttemptError Response)}
    (client : Client) (target : Http3RequestTarget) (request : Request Unit) (body : Option Bytes)
    (attempt : Nat) (spent : SpentAtMost since k t probe) (fits : k + fullCost ≤ probeBound)
    (returned : ∀ result t probe, SpentAtMost since (k + attemptCost result) t probe →
      P.returned result t probe)
    (ends : ∀ t probe, P.panicked t probe ∧ P.dropped t probe) :
    (guardedAttempt client target request body attempt).Sat probeMonitor .strict P t probe := by
  unfold guardedAttempt
  refine perform_sat True.intro spent fun _ t probe spent => ?_
  refine Prog.Sat.bind _ (Prog.Sat.guarded _ (http3Request_sat _ spent fits ?_ ?_))
  · intro result t probe spent
    exact perform_sat True.intro spent fun _ t probe spent => returned result t probe spent
  · intro t probe
    exact ⟨sync_sat _ t probe fun t probe => ⟨fun _ => (ends t probe).1, (ends t probe).1⟩,
      sync_sat _ t probe fun t probe => ⟨fun _ => (ends t probe).2, (ends t probe).1⟩⟩

end Attempt

section Routes

variable {since k t : Nat} {probe : Probe} {P : Post Probe (Except Error (Option Response))}
  (client : Client) (request : Request Unit) (body : Option Bytes) (now : Instant)

theorem giveUp_spends (origin : Origin) (spent : SpentAtMost since k t probe)
    (fits : k ≤ probeBound)
    (returned : ∀ t probe, SpentAtMost since k t probe → P.returned (.ok none) t probe)
    (ends : ∀ t probe, P.panicked t probe ∧ P.dropped t probe) :
    (giveUp client origin now).Sat probeMonitor .strict P t probe := by
  have lasts : (Prog.ofSync (insertNegative client origin now)).Lasts probeQuiet 0 :=
    Prog.Lasts.ofSync 0 _ (insertNegative_uses True.intro True.intro True.intro)
  exact Prog.Sat.bind _ (lasting_sat lasts spent fits (fun _ => returned) ends)

/-- Only a failure at stream open is retried, and only once. -/
theorem route_spends (target : Http3RequestTarget) (spent : SpentAtMost since k t probe)
    (fits : k + routeCost ≤ probeBound)
    (returned : ∀ result t probe, SpentAtMost since (k + routeCost) t probe →
      P.returned result t probe)
    (ends : ∀ t probe, P.panicked t probe ∧ P.dropped t probe) :
    (requestHttp3WithStaleRetry client target request body now).Sat probeMonitor .strict P t
      probe := by
  have route : routeCost = cutCost + fullCost := rfl
  have gives : ∀ k' t probe, k' ≤ k + routeCost → SpentAtMost since k' t probe →
      (giveUp client target.origin now).Sat probeMonitor .strict P t probe := by
    intro k' t probe le spent
    exact giveUp_spends client now target.origin (SpentAtMost.mono le spent) fits
      (returned (.ok none)) ends
  refine retryLoop_sat (guardedAttempt_spends client target request body 0 spent (by omega) ?_ ends)
  intro result t probe spent
  have most := attemptCost_le result
  rcases result with (message | retryWithoutH3) | response
  · exact gives _ t probe (by omega) spent
  · cases retryWithoutH3 with
    | false => exact gives _ t probe (by omega) spent
    | true =>
      have cut : SpentAtMost since (k + cutCost) t probe := spent
      refine retryLoop_sat (guardedAttempt_spends client target request body 1 cut (by omega) ?_
        ends)
      intro result t probe spent
      have most := attemptCost_le result
      rcases result with (message | retryWithoutH3) | response
      · exact gives _ t probe (by omega) spent
      · cases retryWithoutH3 with
        | false => exact gives _ t probe (by omega) spent
        | true => exact gives _ t probe (by omega) spent
      · exact returned _ t probe (SpentAtMost.mono (by omega) spent)
  · exact returned _ t probe (SpentAtMost.mono (by omega) spent)

theorem httpsRrEntry_lasts (origin : Origin) :
    (httpsRrEntry origin now).Lasts probeQuiet h3HttpsRrLookupTimeout.nanos := by
  have lookup : (lookup origin).Uses probeQuiet := by
    refine Prog.Uses.bind ?_ _ (Prog.Uses.suspend True.intro)
    intro records
    cases records <;> exact True.intro
  have whole : (httpsRrEntry origin now).Lasts probeQuiet
      (0 + (h3HttpsRrLookupTimeout.nanos + (0 + 0))) := by
    refine Prog.Lasts.bind (Prog.Lasts.perform True.intro 0) ?_
    intro cached
    cases cached with
    | some entry => exact Prog.Lasts.ret _ _
    | none =>
      refine Prog.Lasts.bind (Prog.Lasts.timeout True.intro lookup) ?_
      intro found
      rcases found with _ | _ | _ | entry
      · exact Prog.Lasts.ret _ _
      · exact Prog.Lasts.ret _ _
      · exact Prog.Lasts.ret _ _
      · exact Prog.Lasts.bind (Prog.Lasts.perform True.intro 0) fun _ => Prog.Lasts.ret _ 0
  exact Prog.Lasts.mono (by omega) whole

/-- Both routes and the lookup between them fit into the bound. -/
theorem tryHttp3_spends (origin : Origin) (returned : ∀ result t probe, P.returned result t probe)
    (ends : ∀ t probe, P.panicked t probe ∧ P.dropped t probe) :
    (tryHttp3 client origin request body).Sat probeMonitor .strict P t .outside := by
  have bound : probeBound = 2 * routeCost + h3HttpsRrLookupTimeout.nanos := rfl
  have overHttpsRr : ∀ since now t probe, SpentAtMost since routeCost t probe →
      (tryHttpsRrRoute client origin request body now).Sat probeMonitor .strict P t probe := by
    intro since now t probe spent
    refine tryHttpsRrRoute_sat (lasting_sat (httpsRrEntry_lasts now origin) spent (by omega) ?_ ends)
    intro found t probe spent
    constructor
    · intro entry _ _
      exact route_spends client request body now _ spent (by omega)
        (fun result t probe _ => returned result t probe) ends
    · intro _
      exact returned _ t probe
  refine tryHttp3_sat fun t₁ elapsed₁ => ⟨True.intro, fun s₁ same₁ t₂ now elapsed₂ _ =>
    ⟨True.intro, fun s₂ same₂ t₃ hit elapsed₃ _ => ⟨True.intro, fun s₃ same₃ => ?_⟩⟩⟩
  have now₂ : t₁ = t₂ := (elapsed₂.2 rfl).symm
  have now₃ : t₂ = t₃ := (elapsed₃.2 rfl).symm
  subst same₁ same₂ same₃ now₃ now₂
  constructor
  · intro _
    exact returned _ _ _
  · intro _
    have entered : SpentAtMost t₁ 0 t₁ (.inside t₁) := .inr ⟨rfl, Nat.le_refl _⟩
    refine perform_sat True.intro entered fun found t probe spent => ?_
    cases found with
    | none => exact overHttpsRr t₁ now t probe (SpentAtMost.mono (Nat.zero_le _) spent)
    | some entry =>
      refine perform_sat True.intro spent fun _ t probe spent => ?_
      refine route_spends client request body now _ spent (by omega) ?_ ends
      intro result t probe spent
      rcases result with err | _ | response
      · exact returned _ t probe
      · exact overHttpsRr t₁ now t probe (SpentAtMost.mono (by omega) spent)
      · exact returned _ t probe

end Routes

theorem send_spends (builder : RequestBuilder) (t : Nat) :
    (send builder).Sat probeMonitor .strict Post.any t .outside := by
  have ignoresTimer : ∀ (probe : Probe) (t deadline : Nat),
      probeMonitor.next probe t (.arm .request deadline) = probe ∧
      probeMonitor.check probe t (.arm .request deadline) ∧
      probeMonitor.Ignores .request deadline := by
    intro probe t deadline
    have still := probeMonitor_ignores probe t (.arm .request deadline) True.intro
    exact ⟨still.1, still.2, fun probe t j =>
      probeMonitor_ignores probe t (.fire j .request deadline) True.intro⟩
  refine send_sat (fun _ _ => True.intro) ?_
  intro uri fine parsed
  have quiet : (tcpFootprint builder).Within probeQuiet :=
    { op := by
        rintro op ⟨-, used⟩
        cases op with
        | trace point => exact used.elim
        | recvResponse => exact used.elim
        | _ => exact True.intro
      timer := fun _ _ => True.intro
      unwinds := fun _ => True.intro }
  have outside : ∀ t, probeMonitor.rest .outside t := by
    intro t since impossible
    cases impossible
  refine http3Phase_sat parsed ?_ ?_
  · intro _
    exact Prog.Sat.of_uses (probeMonitor_ignores.within quiet) _ (tcpPhase_uses fine parsed)
      (fun t _ => outside t) (fun _ _ _ => True.intro) (fun _ _ _ => True.intro)
      fun _ _ => True.intro
  · intro origin body tries
    refine h3Result_sat ignoresTimer ?_
    intro t' _
    refine h3Attempt_sat (tryHttp3_spends builder.client _ body origin ?_ ?_)
    · intro result t probe t₁ _
      have left : probeMonitor.next probe t₁ (.call (.trace .tryHttp3Left) ()) = .past := by
        cases probe <;> rfl
      rw [left]
      refine ⟨True.intro, ?_⟩
      rcases result with err | _ | response
      · exact True.intro
      · exact over_sat _ t₁ (fun _ _ => True.intro) (fun _ => True.intro) fun _ => True.intro
      · exact True.intro
    · intro t probe
      refine ⟨True.intro, ?_, True.intro⟩
      refine Prog.Sat.perform_bind ?_
      intro t₁ now _ _
      exact ⟨True.intro, Prog.Sat.bind _ (Prog.Sat.ofSync _ (sync_sat _ t₁ _ fun _ _ =>
        ⟨fun _ => True.intro, True.intro⟩))⟩

theorem Probe.InBound.next {probe : Probe} {t : Nat} (inBound : probe.InBound t)
    (label : Label sig) : (probe.next t label).InBound t := by
  intro since inside
  unfold Probe.next at inside
  split at inside
  · cases inside
  · cases inside
    exact Nat.le_add_right t probeBound
  · cases inside
  · cases inside
  · exact inBound since inside

/-- A step that neither leaves `try_http3` nor waits for response headers. -/
theorem Probe.next_cases {label : Label sig} (stays : label ≠ .call (.trace .tryHttp3Left) ())
    (unanswered : label ≠ .issue .recvResponse) (t : Nat) :
    (∀ since, Probe.next (.inside since) t label = .inside since) ∧
    (Probe.next .outside t label = .outside ∨ Probe.next .outside t label = .inside t) := by
  cases label with
  | call op ans =>
    cases op with
    | trace point =>
      cases point with
      | tryHttp3Left => exact absurd rfl stays
      | tryHttp3Entered origin => exact ⟨fun _ => rfl, .inr rfl⟩
      | _ => exact ⟨fun _ => rfl, .inl rfl⟩
    | _ => exact ⟨fun _ => rfl, .inl rfl⟩
  | issue op =>
    cases op with
    | recvResponse => exact absurd rfl unanswered
    | _ => exact ⟨fun _ => rfl, .inl rfl⟩
  | _ => exact ⟨fun _ => rfl, .inl rfl⟩

/-- Then the probe counts from the instant of some entry of the log. -/
theorem Probe.run_cases (log : List (Entry sig))
    (stays : ∀ e ∈ log, e.label ≠ .call (.trace .tryHttp3Left) ())
    (unanswered : ∀ e ∈ log, e.label ≠ .issue .recvResponse) :
    (∀ since, probeMonitor.run (.inside since) log = .inside since) ∧
    (probeMonitor.run .outside log = .outside ∨
      ∃ e ∈ log, probeMonitor.run .outside log = .inside e.time) := by
  induction log with
  | nil => exact ⟨fun _ => rfl, .inl rfl⟩
  | cons e rest ih =>
    obtain ⟨inside, outside⟩ := ih (fun e' mem => stays e' (List.mem_cons_of_mem _ mem))
      (fun e' mem => unanswered e' (List.mem_cons_of_mem _ mem))
    obtain ⟨keeps, enters⟩ := Probe.next_cases (stays e List.mem_cons_self)
      (unanswered e List.mem_cons_self) e.time
    simp only [Monitor.run, probeMonitor] at inside outside ⊢
    constructor
    · intro since
      rw [keeps]
      exact inside since
    · rcases enters with out | since
      · rw [out]
        rcases outside with out | ⟨e', mem, since⟩
        · exact .inl out
        · exact .inr ⟨e', List.mem_cons_of_mem _ mem, since⟩
      · rw [since]
        exact .inr ⟨e, List.mem_cons_self, inside e.time⟩

/-- A send that has entered `try_http3`, has not left it, and does not wait for
response headers has been there for no longer than the bound, whatever the
caches held, and however resolver and peers behave. -/
theorem tryHttp3_bounded {client : Client} {clock : Nat} {shared : SharedState}
    {w : World (sends client)} (reached : Reachable .strict (.start clock shared) w) {i : Nat}
    {task : Task (sends client)} (found : w.tasks[i]? = some task)
    (unfinished : task.body.unfinished = true) {entered : Entry sig} {origin : Origin}
    (logged : entered ∈ w.logOf i)
    (enters : entered.label = .call (.trace (.tryHttp3Entered origin)) ())
    (stays : ∀ e ∈ w.logOf i, e.label ≠ .call (.trace .tryHttp3Left) ())
    (unanswered : ∀ e ∈ w.logOf i, e.label ≠ .issue .recvResponse) :
    w.clock ≤ entered.time + probeBound := by
  have verified : ∀ (job : (sends client).Job) t, ((sends client).program job).Sat probeMonitor
      .strict Post.any t .outside := fun job t => send_spends job.val t
  have admits := Monitor.admits_of_trivial probeMonitor (fun _ _ _ => True.intro) .outside
    (w.logOf i)
  have starts : ∀ (job : (sends client).Job) (t : Nat), Probe.InBound .outside t := by
    intro _ t since impossible
    cases impossible
  have moves : ∀ (job : (sends client).Job) (t₀ : Nat) probe t label,
      probeMonitor.assume probe t label → probeMonitor.check probe t label →
      Probe.InBound probe t → Probe.InBound (probeMonitor.next probe t label) t :=
    fun _ _ _ _ label _ _ inBound => inBound.next label
  have inBound := Reachable.prompt rfl verified starts moves (fun _ _ _ _ => id) reached found admits
    unfinished
  obtain ⟨before, after, split⟩ := List.append_of_mem logged
  have sorted : (w.logOf i).Pairwise fun e later => e.time ≤ later.time :=
    reached.log_sorted.2.2.filter _
  rw [split] at stays unanswered sorted inBound
  obtain ⟨-, since⟩ := Probe.run_cases before (fun e mem => stays e (by simp [mem]))
    fun e mem => unanswered e (by simp [mem])
  obtain ⟨inside, -⟩ := Probe.run_cases after (fun e mem => stays e (by simp [mem]))
    fun e mem => unanswered e (by simp [mem])
  rw [Monitor.run_append] at inBound
  rcases since with outside | ⟨e, mem, since⟩
  · have here : probeMonitor.next .outside entered.time entered.label = .inside entered.time := by
      rw [enters]
      rfl
    rw [outside, Monitor.run, here, inside] at inBound
    exact inBound _ rfl
  · have here : probeMonitor.next (.inside e.time) entered.time entered.label = .inside e.time := by
      rw [enters]
      rfl
    have earlier : e.time ≤ entered.time :=
      (List.pairwise_append.mp sorted).2.2 e mem entered List.mem_cons_self
    rw [since, Monitor.run, here, inside] at inBound
    have bound := inBound _ rfl
    omega

namespace Example

/-- The resolver never answers; its timeout is due. -/
def unresolved : List (Event (sends client)) :=
  spawned client :: performs 0 (consults start none ++ (resolves start 0 []).take 3) ++
    [.tick 150000000]

end Example

theorem tryHttp3_bounded_unresolved :
    ∃ w : World (sends Example.client), w.clock = 150000000 ∧ w.clock ≤ 0 + probeBound := by
  obtain ⟨w, task, reached, found, clock, -, log, -, -, -, unfinished⟩ := Example.reaches .strict
    Example.unresolved 0 150000000 false _ ⟨Example.builder Example.client, rfl⟩ 0 true true
    rfl
  have own : w.logOf 0 = Example.logged 0 0
      (Example.consults Example.start none ++ (Example.resolves Example.start 0 []).take 3) := by
    rw [World.logOf, log]
    rfl
  have stays : ∀ e ∈ w.logOf 0, e.label ≠ .call (.trace .tryHttp3Left) () := by
    rw [own]
    simp [Example.logged, Example.consults, Example.resolves]
  have unanswered : ∀ e ∈ w.logOf 0, e.label ≠ .issue .recvResponse := by
    rw [own]
    simp [Example.logged, Example.consults, Example.resolves]
  exact ⟨w, clock, tryHttp3_bounded reached found unfinished
    (by rw [own]; exact List.mem_cons_self) rfl stays unanswered⟩

end MechanicsHttpClient.Guarantees
