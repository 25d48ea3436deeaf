import MechanicsHttpClient.Guarantees.AltSvcOverflow
import MechanicsHttpClient.Guarantees.AltSvcSource

/-!
# The name an HTTP/3 peer is verified against

`try_http3` passes the alternative's host as server name on the Alt-Svc route
(src/request.rs:289-299) and the origin's host on the HTTPS RR route. The name
is followed from the header it came from: a response is parsed, the update
enters the cache, a later send reads it and connects. As long as no response
advertises another host, every connection names its origin.
-/

namespace MechanicsHttpClient.Guarantees

open MechanicsHttpClient.Runtime
open MechanicsHttpClient.Source

section Run

variable {client : Client} {pace : Pace} {clock : Nat} {w : World (sends client)}

/-- No response of the run advertises an h3 alternative on another host. -/
def AlternativesKeepHost (w : World (sends client)) : Prop :=
  ∀ e ∈ w.log, ∀ request parts, responseOf e.label = some (request, parts) →
    ∀ origin value now host port expiresAt, Origin.fromUri request.uri = some origin →
      parts.headers.get HeaderName.altSvc = some value →
      AltSvc.parseHeader value now origin.port = .ok (.entry ⟨some host, port, expiresAt⟩) →
      host = origin.host

/-- Then every entry a send reads from the cache keeps the host. -/
theorem altSvcEntry_keeps_host (reached : Reachable pace (.start clock SharedState.new) w)
    (keepHost : AlternativesKeepHost w) {e : Entry sig} (logged : e ∈ w.log) {origin : Origin}
    {now : Instant} {entry : AltSvc.AltSvcEntry}
    (lookup : e.label = .call (.altSvcEntry origin now) (some entry)) :
    entry.host.getD origin.host = origin.host := by
  obtain ⟨before, after, split⟩ := List.append_of_mem logged
  have held := ((altSvcEntry_iff reached split lookup entry).mp rfl).1
  obtain ⟨later, ⟨earlier, source, history, written, -⟩, -⟩ := held
  have sourceLogged : source ∈ w.log := by
    rw [split, history]
    simp
  obtain ⟨ans, updates⟩ := altSvcWritten_entry written
  obtain ⟨arrived, arrivedLogged, request, parts, value, now', response, https, advertised,
    parsed⟩ := altSvcUpdate_learned reached sourceLogged updates
  obtain ⟨host, port, expiresAt⟩ := entry
  cases host with
  | none => rfl
  | some host =>
    exact keepHost arrived arrivedLogged request parts response origin value now' host port
      expiresAt https advertised parsed

end Run

/-- Objects to a `connect` that names another host than the origin's, trusting
that the cache names none. -/
def peerMonitor (builder : RequestBuilder) : Monitor sig Unit where
  next _ _ _ := ()
  assume _ _ label :=
    match label with
    | .call (.altSvcEntry origin _) (some entry) => entry.host.getD origin.host = origin.host
    | _ => True
  check _ _ label :=
    match label with
    | .call (.connect _ serverName) _ =>
      ∀ origin, originOf builder = some origin → serverName = origin.host
    | _ => True
  rest _ _ := True

/-- Everything but a connection to another host. -/
def namesOrigin (origin : Origin) : Alphabet sig where
  op
    | .connect _ serverName => serverName = origin.host
    | _ => True
  timer _ := True
  unwinds := True

theorem peerMonitor_ignores {builder : RequestBuilder} {origin : Origin}
    (https : originOf builder = some origin) :
    (peerMonitor builder).IgnoresAll (namesOrigin origin) := by
  intro s t label has
  refine ⟨rfl, ?_⟩
  cases label with
  | call op ans =>
    cases op with
    | connect addr serverName =>
      intro other sameBuilder
      rw [https] at sameBuilder
      cases sameBuilder
      exact has
    | _ => exact True.intro
  | _ => exact True.intro

/-- A route whose target carries the origin's host stays in that alphabet. -/
theorem namesOrigin_admitsRetry {client : Client} {target : Http3RequestTarget}
    {request : Request Unit} {body : Option Bytes} {origin : Origin}
    (named : target.authorityHost = origin.host) :
    AdmitsRetry (namesOrigin origin) client target request body where
  attempt :=
    { op := by
        intro op used
        cases op with
        | connect addr serverName => exact Eq.trans used named
        | _ => exact True.intro
      timer := fun _ _ => True.intro
      unwinds := fun _ => True.intro }
  instantNow := True.intro
  negativeInsert _ := True.intro
  altSvcRemove := True.intro
  started := True.intro
  ended _ _ := True.intro
  dropped := True.intro
  unwinds := True.intro

section Send

variable {builder : RequestBuilder} {origin : Origin} {pace : Pace}

/-- Either route, once its target carries the origin's host. -/
theorem routes_peer {P : Post Unit (Except Error (Option Response))}
    (https : originOf builder = some origin) {target : Http3RequestTarget}
    (named : target.authorityHost = origin.host) (request : Request Unit) (body : Option Bytes)
    (now : Instant) (t : Nat) (anyway : ∀ a t s, P.returned a t s)
    (panicked : ∀ t s, P.panicked t s) (dropped : ∀ t s, P.dropped t s) :
    (requestHttp3WithStaleRetry builder.client target request body now).Sat (peerMonitor builder)
      pace P t () :=
  Prog.Sat.of_uses (peerMonitor_ignores https) _
    (retryLoop_uses (namesOrigin_admitsRetry named) now [0, 1]) (fun _ _ => True.intro)
    (fun a t' _ => anyway a t' ()) (fun _ t' _ => panicked t' ()) (fun t' _ => dropped t' ())

theorem tryHttp3_peer (https : originOf builder = some origin) (request : Request Unit)
    (body : Option Bytes) {P : Post Unit (Except Error (Option Response))} (t : Nat)
    (anyway : ∀ a t s, P.returned a t s) (panicked : ∀ t s, P.panicked t s)
    (dropped : ∀ t s, P.dropped t s) :
    (tryHttp3 builder.client origin request body).Sat (peerMonitor builder) pace P t () := by
  have overHttpsRr : ∀ now t, (tryHttpsRrRoute builder.client origin request body now).Sat
      (peerMonitor builder) pace P t () := by
    intro now t
    refine tryHttpsRrRoute_sat (Prog.Sat.of_uses (peerMonitor_ignores https) _
      (httpsRrEntry_uses True.intro True.intro True.intro fun _ => True.intro)
      (fun _ _ => True.intro) ?_ (fun _ t' _ => panicked t' ()) fun t' _ => dropped t' ())
    intro found t' _
    constructor
    · intro entry _ _
      exact routes_peer https rfl request body now t' anyway panicked dropped
    · intro _
      exact anyway _ _ _
  refine tryHttp3_sat fun t₁ _ => ⟨True.intro, fun s₁ _ t₂ now _ _ => ⟨True.intro,
    fun s₂ _ t₃ hit _ _ => ⟨True.intro, fun s₃ _ => ⟨fun _ => anyway _ _ _, fun _ => ?_⟩⟩⟩⟩
  refine tryAltSvcRoute_sat fun t₄ found _ trusted => ⟨True.intro, fun s₄ _ => ⟨?_, ?_⟩⟩
  · intro _
    exact overHttpsRr now t₄
  · intro entry same t₅ _
    subst same
    have named : (altSvcTarget origin entry).authorityHost = origin.host := trusted
    refine ⟨True.intro, routes_peer https named request body now t₅ ?_ panicked dropped⟩
    intro result t _
    rcases result with err | _ | response
    · exact anyway _ _ _
    · exact overHttpsRr now t
    · exact anyway _ _ _

theorem send_peer (builder : RequestBuilder) (t : Nat) :
    (send builder).Sat (peerMonitor builder) pace (Post.settled fun _ => True) t () := by
  have ignores : (peerMonitor builder).IgnoresAll besideTryHttp3 := by
    intro s t label has
    refine ⟨rfl, ?_⟩
    cases label with
    | call op ans =>
      cases op with
      | connect addr serverName => exact has.elim
      | _ => exact True.intro
    | _ => exact True.intro
  refine send_settled ignores (fun _ _ => id) True.intro ?_
  intro uri origin body _ tries t₁
  exact tryHttp3_peer tries.origin _ body t₁ (fun _ _ _ => True.intro) (fun _ _ => True.intro)
    fun _ _ => True.intro

end Send

/-- In any run in which alternatives keep their origin's host, every connection
made for an origin is verified against that host. -/
theorem connect_names_origin {client : Client} {pace : Pace} {clock : Nat}
    {w : World (sends client)} (reached : Reachable pace (.start clock SharedState.new) w)
    (keepHost : AlternativesKeepHost w) {e : Entry sig} (logged : e ∈ w.log)
    {addr : SocketAddr} {serverName : Str} {ans : Except Str Unit}
    (connects : e.label = .call (.connect addr serverName) ans) {task : Task (sends client)}
    (found : w.tasks[e.task]? = some task) {origin : Origin}
    (https : originOf task.job.val = some origin) : serverName = origin.host := by
  obtain ⟨task', found', own⟩ := reached.task_of_entry logged
  have same : task' = task := Option.some.inj (found'.symm.trans found)
  subst same
  have verified : ∀ (job : (sends client).Job) t, ((sends client).program job).Sat
      (peerMonitor job.val) pace (Post.settled fun _ => True) t () :=
    fun job t => send_peer job.val t
  have admits : (peerMonitor task'.job.val).Admits () (w.logOf e.task) := by
    refine Monitor.admits_of_forall _ ?_ ()
    intro e' own' _
    cases e' with
    | mk i time label =>
      cases label with
      | call op ans =>
        cases op with
        | altSvcEntry o now =>
          cases ans with
          | none => exact True.intro
          | some entry =>
            exact altSvcEntry_keeps_host reached keepHost (World.mem_log_of_logOf own') rfl
        | _ => exact True.intro
      | _ => exact True.intro
  have passes := (reached.sat verified found admits).1
  obtain ⟨before, after, split⟩ := List.append_of_mem own
  have checked := Monitor.Passes.at _ passes split
  rw [connects] at checked
  exact checked origin https

namespace Example

/-- One send learns the alternative `raw` of the origin, the next one connects. -/
def learnThenConnect (raw : Str) (host : Option Str) : List (Event (sends client)) :=
  spawned client :: performs 0 (learns raw (entryOn host)) ++
  spawned client :: performs 1 (consults start (some (entryOn host)) ++ routes (entryOn host) ++
    dials 0 (host.getD origin.host))

/-- The log of such a run. -/
def learnThenConnectLog (raw : Str) (host : Option Str) : List (Entry sig) :=
  logged 0 0 (learns raw (entryOn host)) ++
  logged 1 0 (consults start (some (entryOn host)) ++ routes (entryOn host) ++
    dials 0 (host.getD origin.host))

def elsewhere : Str := "h3=\"evil.example:443\"".toList

theorem learnThenConnect_connects (raw : Str) (host : Option Str) :
    (⟨1, 0, .call (.connect addr (host.getD origin.host)) (.ok ())⟩ : Entry sig) ∈
      learnThenConnectLog raw host := by
  simp [learnThenConnectLog, logged, dials]

theorem ownPort_offer : acceptedOffer ownPort 443 = some ⟨none, 443, AltSvc.defaultMaxAge⟩ := by
  decide

theorem ownPort_names_no_host {value : HeaderValue} {now : Instant} {entry : AltSvc.AltSvcEntry}
    (advertised : (advertising ownPort).get HeaderName.altSvc = some value)
    (parsed : AltSvc.parseHeader value now 443 = .ok (.entry entry)) : entry.host = none := by
  have text : value.toStr = some ownPort := by
    have shown : ((advertising ownPort).get HeaderName.altSvc).bind HeaderValue.toStr =
      some ownPort := rfl
    rw [advertised] at shown
    exact shown
  unfold AltSvc.parseHeader at parsed
  rw [text] at parsed
  obtain ⟨-, offer, expiresAt, accepted, -, rfl⟩ := offer_of_parseStr_entry parsed
  cases Option.some.inj (accepted.symm.trans ownPort_offer)
  rfl

end Example

/-- An alternative on the origin's own host keeps the name. -/
theorem connect_names_origin_ownPort :
    ∃ (w : World (sends Example.client)) (serverName : Str),
      (⟨1, 0, .call (.connect Example.addr serverName) (.ok ())⟩ : Entry sig) ∈ w.log ∧
      serverName = Example.origin.host := by
  obtain ⟨w, task, reached, found, -, -, log, job, -⟩ := Example.reaches .strict
    (Example.learnThenConnect Example.ownPort none) 1
    0 false (Example.learnThenConnectLog Example.ownPort none)
      ⟨Example.builder Example.client, rfl⟩ 0 false true rfl
  have logged : (⟨1, 0, .call (.connect Example.addr Example.origin.host) (.ok ())⟩ : Entry sig) ∈
      w.log := by
    rw [log]
    exact Example.learnThenConnect_connects Example.ownPort none
  have keepHost : AlternativesKeepHost w := by
    intro e mem request parts response origin value now host port expiresAt https advertised parsed
    have responses : w.log.filterMap (fun e => responseOf e.label) =
        [(Example.hyperRequest, ⟨200, Example.advertising Example.ownPort⟩)] := by
      rw [log]
      rfl
    have listed : (request, parts) ∈ w.log.filterMap fun e => responseOf e.label :=
      List.mem_filterMap.mpr ⟨e, mem, response⟩
    rw [responses] at listed
    cases List.mem_singleton.mp listed
    cases https
    cases Example.ownPort_names_no_host advertised parsed
  have https : originOf task.job.val = some Example.origin := by
    rw [job]
    rfl
  exact ⟨w, _, logged, connect_names_origin reached keepHost logged rfl found https⟩

/-- A response of the origin sends a later request of the origin to another
host, and has that host's own certificate accepted. -/
theorem connect_names_alternative :
    ∃ (w : World (sends Example.client)) (task : Task (sends Example.client)) (e : Entry sig),
      Reachable .strict (.start 0 SharedState.new) w ∧ e ∈ w.log ∧ w.tasks[e.task]? = some task ∧
      originOf task.job.val = some Example.origin ∧
      ∃ addr serverName ans, e.label = .call (.connect addr serverName) ans ∧
        serverName ≠ Example.origin.host := by
  obtain ⟨w, task, reached, found, -, -, log, job, -⟩ := Example.reaches .strict
    (Example.learnThenConnect Example.elsewhere (some "evil.example".toList)) 1
    0 false (Example.learnThenConnectLog Example.elsewhere (some "evil.example".toList))
      ⟨Example.builder Example.client, rfl⟩ 0 false true rfl
  have logged : (⟨1, 0, .call (.connect Example.addr "evil.example".toList) (.ok ())⟩ : Entry sig) ∈
      w.log := by
    rw [log]
    exact Example.learnThenConnect_connects Example.elsewhere (some "evil.example".toList)
  refine ⟨w, task, _, reached, logged, found, ?_, _, _, _, rfl, ?_⟩
  · rw [job]
    rfl
  · decide

end MechanicsHttpClient.Guarantees
