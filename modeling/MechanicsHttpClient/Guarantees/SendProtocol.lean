import MechanicsHttpClient.Guarantees.Footprint
import MechanicsHttpClient.Runtime.Protocol

/-!
# What a send is: its protocol

The abstract model of one send. A send that has to do anything has a plan:
the requests it carries, what HTTP/3 is tried for, and
whether it has a timeout. Its stages and what is done in each stand in one table
(`Plan.move`), with two smaller ones for a future dropped in flight
(`Plan.cleanup`) and for what follows when the request's timeout has cut it
(`Plan.afterCut`). There are no futures, timeouts or drop guards left in it.

The stage in which a send is over holds its result, so the log of a send
determines what it returned.
-/

namespace MechanicsHttpClient.Guarantees

open MechanicsHttpClient.Runtime
open MechanicsHttpClient.Source

/-- The origin that HTTP/3 is tried for, and the body to replay. -/
structure Aim where
  origin : Origin
  body : Option Bytes

/-- What is settled before a send awaits anything. -/
structure Plan where
  uri : Uri
  aim : Option Aim
  http3Request : Request Unit
  tcpRequest : Request RequestBody
  negativeFor : Duration
  timed : Bool

inductive Route where
  | altSvc (entry : AltSvc.AltSvcEntry)
  | httpsRr (entry : HttpsRr.HttpsRrEntry)

/-- One attempt. -/
structure Round where
  aim : Aim
  now : Instant
  route : Route
  attempt : Nat

/-- The parts of an attempt, in their order. -/
inductive Leg where
  | endpoint
  | resolve
  | connect (addr : SocketAddr)
  | connecting
  | build
  | openStream
  | upload (stream : BodyHandle) (body : Bytes)
  | finish (stream : BodyHandle)
  | receive (stream : BodyHandle)

/-- Named after what is done next. -/
inductive Stage where
  | arming (aim : Aim)
  | entering (aim : Aim)
  | reading (aim : Aim)
  | checking (aim : Aim) (now : Instant)
  | recalling (aim : Aim) (now : Instant)
  | routing (aim : Aim) (now : Instant) (entry : AltSvc.AltSvcEntry)
  | opening (round : Round)
  | attempting (round : Round) (leg : Leg) (wait : Wait)
  | closing (round : Round) (result : Except Http3AttemptError Response)
  | blaming (round : Round)
  | evicting (round : Round)
  | caching (aim : Aim) (now : Instant)
  | looking (aim : Aim) (now : Instant) (wait : Wait)
  | storing (aim : Aim) (now : Instant) (entry : HttpsRr.HttpsRrEntry)
  | leaving (response : Option Response)
  | transmitting (wait : Wait)
  | learning (response : Response) (origin : Origin) (value : HeaderValue)
  | updating (response : Response) (origin : Origin) (update : AltSvc.AltSvcUpdate)
  | dropping (aim : Aim)
  | condemning (aim : Aim) (now : Instant)
  | uprooting (aim : Aim)
  | dropped (aim : Aim)
  | timedOut (aim : Aim) (now : Instant)
  | expelling (aim : Aim)
  | ended (result : Except Error Response)
  | unwound

namespace Round

def target (round : Round) : Http3RequestTarget :=
  match round.route with
  | .altSvc entry => altSvcTarget round.aim.origin entry
  | .httpsRr entry => httpsRrTarget round.aim.origin entry

def origin (round : Round) : Origin := round.aim.origin

def refused (round : Round) (message : Str) : Stage := .closing round (.error (.handshake message))

def failed (round : Round) (retryWithoutH3 : Bool) : Stage :=
  .closing round (.error (.stream retryWithoutH3))

/-- The hints of the route are dialled before any address is looked up. -/
def dialling (round : Round) : Stage :=
  match round.target.addresses with
  | addr :: _ => .attempting round (.connect ⟨addr, round.target.target.port⟩) .due
  | [] => .attempting round .resolve .due

/-- The first address that was found is dialled. -/
def resolved (round : Round) : List SocketAddr → Stage
  | addr :: _ => .attempting round (.connect addr) .due
  | [] => round.refused ("no socket addresses for ".toList ++ round.target.authorityHost ++
      ":".toList ++ decimalText round.target.target.port)

/-- The body of the request, if it has one, is sent before the stream is finished. -/
def opened (round : Round) (stream : BodyHandle) : Stage :=
  match round.aim.body with
  | some body => .attempting round (.upload stream body) .due
  | none => .attempting round (.finish stream) .due

/-- After an attempt: its response, another round, or the end of this route. -/
def next (round : Round) : Except Http3AttemptError Response → Stage
  | .ok response => .leaving (some response)
  | .error (.handshake _) => .blaming round
  | .error (.stream retryWithoutH3) =>
    match h3StreamFailureAction retryWithoutH3 round.attempt with
    | .retryFreshH3 => .opening { round with attempt := round.attempt + 1 }
    | .useTcp => .blaming round

/-- After this route the next one is tried, or HTTP/3 is left. -/
def abandon (round : Round) : Stage :=
  match round.route with
  | .altSvc _ => .caching round.aim round.now
  | .httpsRr _ => .leaving none

end Round

namespace Plan

/-- The parts of an attempt: what is asked for, under which timer, and where the
answer leads. -/
def attemptMove (plan : Plan) (round : Round) : Leg → Wait → Move sig Stage
  | .endpoint, .due => .call .endpoint fun
    | .ok _ => round.dialling
    | .error message => round.refused message
  | .endpoint, _ => .stop
  | .resolve, wait =>
    Await.move ⟨.lookupSocketAddrs round.target.authorityHost round.target.target.port,
      some .dnsLookup,
      fun
        | .ok addrs => round.resolved addrs
        | .error message => round.refused message,
      round.refused "HTTP/3 DNS lookup timed out after 150ms".toList⟩
      (.attempting round .resolve) wait
  | .connect addr, .due => .call (.connect addr round.target.authorityHost) fun
    | .ok _ => .attempting round .connecting .due
    | .error message => round.refused message
  | .connect _, _ => .stop
  | .connecting, wait =>
    Await.move ⟨.connecting, some .connect,
      fun
        | .ok _ => .attempting round .build .due
        | .error message => round.refused message,
      round.refused "HTTP/3 connect timed out after 500ms".toList⟩
      (.attempting round .connecting) wait
  | .build, wait =>
    Await.move ⟨.h3Build, some .setup,
      fun
        | .ok _ => .attempting round .openStream .due
        | .error message => round.refused message,
      round.refused "HTTP/3 setup timed out after 500ms".toList⟩
      (.attempting round .build) wait
  | .openStream, wait =>
    Await.move ⟨.sendRequest plan.http3Request, some .streamOpen,
      fun
        | .ok stream => round.opened stream
        | .error _ => round.failed true,
      round.failed true⟩
      (.attempting round .openStream) wait
  | .upload stream body, wait =>
    Await.move ⟨.sendData body, some .upload,
      fun
        | .ok _ => .attempting round (.finish stream) .due
        | .error _ => round.failed false,
      round.failed false⟩
      (.attempting round (.upload stream body)) wait
  | .finish stream, wait =>
    Await.move ⟨.finish, some .upload,
      fun
        | .ok _ => .attempting round (.receive stream) .due
        | .error _ => round.failed false,
      round.failed false⟩
      (.attempting round (.finish stream)) wait
  | .receive stream, wait =>
    Await.move ⟨.recvResponse, none,
      fun
        | .ok parts => .closing round (.ok (Response.newH3 parts stream))
        | .error _ => round.failed false,
      round.failed false⟩
      (.attempting round (.receive stream)) wait

/-- The HTTPS RR route is taken when the record has HTTP/3. -/
def advertised (aim : Aim) (now : Instant) (entry : HttpsRr.HttpsRrEntry) : Stage :=
  if entry.hasH3 then .opening ⟨aim, now, .httpsRr entry, 0⟩ else .leaving none

/-- A negative entry is stored, or its deadline overflows and the send unwinds. -/
def stored (next : Stage) : Except Panic Unit → Stage
  | .ok _ => next
  | .error _ => .unwound

/-- After a response over TCP: its Alt-Svc header is learnt, if it has one. -/
def arrived (plan : Plan) (response : Response) : Stage :=
  match Origin.fromUri plan.uri, response.headers.get HeaderName.altSvc with
  | some origin, some value => .learning response origin value
  | _, _ => .ended (.ok response)

/-- After hyper's answer. -/
def answered (plan : Plan) : Except LegacyError (ResponseParts × BodyHandle) → Stage
  | .ok (parts, incoming) => plan.arrived (Response.new parts incoming)
  | .error err => .ended (.error (mapLegacyError err))

/-- The undisturbed send. -/
def move (plan : Plan) : Stage → Move sig Stage
  | .arming aim => .arm .request (.entering aim)
  | .entering aim => .call (.trace (.tryHttp3Entered aim.origin)) fun _ => .reading aim
  | .reading aim => .call .instantNow fun now => .checking aim now
  | .checking aim now => .call (.negativeCacheHit aim.origin now) fun hit =>
    if hit then .leaving none else .recalling aim now
  | .recalling aim now => .call (.altSvcEntry aim.origin now) fun
    | some entry => .routing aim now entry
    | none => .caching aim now
  | .routing aim now entry =>
    .call (.trace (.altSvcRoute aim.origin entry.host entry.port)) fun _ =>
      .opening ⟨aim, now, .altSvc entry, 0⟩
  | .opening round =>
    .call (.trace (.http3Request round.origin
        (callOf round.target plan.http3Request round.aim.body))) fun _ =>
      .attempting round .endpoint .due
  | .attempting round leg wait => plan.attemptMove round leg wait
  | .closing round result =>
    .call (.trace (.http3Outcome round.origin round.attempt (outcomeOf result))) fun _ =>
      round.next result
  | .blaming round =>
    .call (.negativeInsert round.origin round.now plan.negativeFor) (stored (.evicting round))
  | .evicting round => .call (.altSvcRemove round.origin) fun _ => round.abandon
  | .caching aim now => .call (.httpsRrCached aim.origin now) fun
    | some entry => advertised aim now entry
    | none => .looking aim now .due
  | .looking aim now wait =>
    Await.move ⟨.lookupHttps aim.origin.host, some .httpsRrLookup,
      fun
        | .ok records =>
          match HttpsRr.selectRecord aim.origin.port none records with
          | some entry => .storing aim now entry
          | none => .leaving none
        | .error _ => .leaving none,
      .leaving none⟩
      (.looking aim now) wait
  | .storing aim now entry => .call (.httpsRrInsert aim.origin entry) fun _ =>
    advertised aim now entry
  | .leaving (some response) => .call (.trace .tryHttp3Left) fun _ => .ended (.ok response)
  | .leaving none => .call (.trace .tryHttp3Left) fun _ => .transmitting .due
  | .transmitting wait =>
    Await.move ⟨.hyperRequest plan.tcpRequest, if plan.timed then some .request else none,
      plan.answered, .transmitting .issued⟩
      .transmitting wait
  | .learning response origin value => .call .instantNow fun now =>
    match AltSvc.parseHeader value now origin.port with
    | .ok update => .updating response origin update
    | .error _ => .unwound
  | .updating response origin update => .call (.altSvcUpdate origin update) fun _ =>
    .ended (.ok response)
  | .dropping aim => .call .instantNow fun now => .condemning aim now
  | .condemning aim now =>
    .call (.negativeInsert aim.origin now plan.negativeFor) (stored (.uprooting aim))
  | .uprooting aim => .call (.altSvcRemove aim.origin) fun _ => .dropped aim
  | .timedOut aim now =>
    .call (.negativeInsert aim.origin now plan.negativeFor) (stored (.expelling aim))
  | .expelling aim => .call (.altSvcRemove aim.origin) fun _ => .ended (.error .timeout)
  | .dropped _ => .stop
  | .ended _ => .stop
  | .unwound => .stop

/-- What the drop guard of an attempt does first. -/
def cleanup : Stage → Move sig Stage
  | .attempting round _ .issued => .call (.trace (.http3Dropped round.origin)) fun _ =>
    .dropping round.aim
  | _ => .stop

/-- What `send` does first when its timeout has cut `try_http3`. -/
def afterCut : Stage → Move sig Stage
  | .looking aim _ .issued => .call .instantNow fun now => .timedOut aim now
  | .dropped aim => .call .instantNow fun now => .timedOut aim now
  | _ => .stop

end Plan

/-- Suspended inside `try_http3`. -/
def Stage.probing : Stage → Bool
  | .attempting _ _ .issued => true
  | .looking _ _ .issued => true
  | _ => false

/-- Suspended. -/
def Stage.waiting : Stage → Bool
  | .transmitting .issued => true
  | stage => stage.probing

/-- Where a dropped send may end: an attempt in flight has been cleaned up. -/
def Stage.abandoned : Stage → Bool
  | .dropped _ => true
  | .looking _ _ .issued => true
  | .transmitting .issued => true
  | _ => false

/-- A stage, and whether the request's timeout has expired. -/
structure Position where
  stage : Stage
  expired : Bool

/-- The result of a send that is over. -/
def Position.verdict : Position → Option (Except Error Response)
  | ⟨.ended result, _⟩ => some result
  | ⟨.transmitting .issued, true⟩ => some (.error .timeout)
  | _ => none

def requestFires : Label sig → Bool
  | .fire _ .request _ => true
  | _ => false

namespace Plan

/-- Once the timeout has expired only synchronous operations are left. -/
def next (plan : Plan) (expired : Bool) (stage : Stage) : Label sig → Option Stage
  | .call op ans =>
    ((plan.move stage).step (.call op ans)).or
      (((cleanup stage).step (.call op ans)).or
        (if expired then (afterCut stage).step (.call op ans) else none))
  | label =>
    if expired then none
    else if requestFires label && plan.timed && stage.probing then some stage
    else (plan.move stage).step label

def protocol (plan : Plan) : Protocol sig Position where
  step position label := (plan.next position.expired position.stage label).map fun stage =>
    ⟨stage, position.expired || requestFires label⟩
  waits position := !position.expired && position.stage.waiting

def start (plan : Plan) : Stage :=
  match plan.aim with
  | some aim => if plan.timed then .arming aim else .entering aim
  | none => .transmitting .due

/-- The plan of a builder that `send` does not reject. -/
def of (builder : RequestBuilder) (uri : Uri) : Plan where
  uri
  aim :=
    if builder.client.http3Enabled then
      match Origin.fromUri uri, builder.body.replayableForH3 with
      | some origin, some body => some ⟨origin, body⟩
      | _, _ => none
    else none
  http3Request := ⟨builder.method, uri, sentHeaders builder, ()⟩
  tcpRequest := ⟨builder.method, uri, sentHeaders builder, builder.body.intoBody⟩
  negativeFor := builder.client.http3NegativeCacheDuration
  timed := builder.effectiveTimeout.isSome

/-- Every way in which a label is taken: by the table, by a clean-up, by what follows a
cut, or as the expiry of the request's timeout inside `try_http3`. -/
theorem step_cases {plan : Plan} {stage : Stage} {expired : Bool} {label : Label sig}
    {next : Position} (taken : plan.protocol.step ⟨stage, expired⟩ label = some next) :
    (∃ after, (plan.move stage).step label = some after ∧
      next = ⟨after, expired || requestFires label⟩ ∧
      (expired = true → ∃ op ans, label = .call op ans)) ∨
    (∃ after op ans, label = .call op ans ∧ (cleanup stage).step label = some after ∧
      next = ⟨after, expired⟩) ∨
    (∃ after op ans, label = .call op ans ∧ expired = true ∧
      (afterCut stage).step label = some after ∧ next = ⟨after, true⟩) ∨
    (∃ j deadline, label = .fire j .request deadline ∧ expired = false ∧ stage.probing = true ∧
      next = ⟨stage, true⟩) := by
  obtain ⟨after, goes, rfl⟩ := Option.map_eq_some_iff.mp taken
  cases label with
  | call op ans =>
    simp only [Plan.next, Option.or_eq_some_iff] at goes
    simp only [requestFires, Bool.or_false]
    rcases goes with moved | ⟨-, cleaned | ⟨-, cut⟩⟩
    · exact .inl ⟨after, moved, rfl, fun _ => ⟨op, ans, rfl⟩⟩
    · exact .inr (.inl ⟨after, op, ans, rfl, cleaned, rfl⟩)
    · split at cut
      · rename_i late
        exact .inr (.inr (.inl ⟨after, op, ans, rfl, late, cut, by rw [late]⟩))
      · cases cut
  | arm timer deadline =>
    simp only [Plan.next, requestFires, Bool.false_and, Bool.false_eq_true, if_false] at goes
    split at goes
    · cases goes
    · rename_i early
      exact .inl ⟨after, goes, rfl, fun late => absurd late early⟩
  | issue op =>
    simp only [Plan.next, requestFires, Bool.false_and, Bool.false_eq_true, if_false] at goes
    split at goes
    · cases goes
    · rename_i early
      exact .inl ⟨after, goes, rfl, fun late => absurd late early⟩
  | done op ans =>
    simp only [Plan.next, requestFires, Bool.false_and, Bool.false_eq_true, if_false] at goes
    split at goes
    · cases goes
    · rename_i early
      exact .inl ⟨after, goes, rfl, fun late => absurd late early⟩
  | fire j timer deadline =>
    simp only [Plan.next] at goes
    split at goes
    · cases goes
    · rename_i early
      split at goes
      · rename_i own
        simp only [Bool.and_eq_true] at own
        obtain ⟨⟨isRequest, -⟩, probing⟩ := own
        have early : expired = false := by simpa using early
        cases goes
        cases timer with
        | request =>
          refine .inr (.inr (.inr ⟨j, deadline, rfl, early, probing, ?_⟩))
          simp [requestFires]
        | _ => cases isRequest
      · exact .inl ⟨after, goes, rfl, fun late => absurd late early⟩

end Plan

def planOf (builder : RequestBuilder) : Except Error Plan :=
  match builder.deferredError with
  | some err => .error err
  | none => builder.uri.map (Plan.of builder)

/-- A rejected send does nothing. -/
def sendProtocol (builder : RequestBuilder) : Protocol sig Position :=
  match planOf builder with
  | .ok plan => plan.protocol
  | .error _ => ⟨fun _ _ => none, fun _ => false⟩

def sendStart (builder : RequestBuilder) : Position :=
  match planOf builder with
  | .ok plan => ⟨plan.start, false⟩
  | .error err => ⟨.ended (.error err), false⟩

/-- What the position says of a task that is over. -/
def sendEnding : Ending Position (Except Error Response) where
  returned result position := position.verdict = some result
  panicked position := position.stage = .unwound
  dropped position := position.expired = false ∧ position.stage.abandoned = true

namespace Leg

/-- The parts that are still to come. -/
def ahead : Leg → Nat
  | .endpoint => 8
  | .resolve => 7
  | .connect _ => 6
  | .connecting => 5
  | .build => 4
  | .openStream => 3
  | .upload _ _ => 2
  | .finish _ => 1
  | .receive _ => 0

/-- The stream that has been opened. -/
def stream : Leg → Option BodyHandle
  | .upload stream _ => some stream
  | .finish stream => some stream
  | .receive stream => some stream
  | _ => none

end Leg

/-- Started within an attempt. -/
def startsWithin : Op → Bool
  | .lookupHttps _ => false
  | .hyperRequest _ => false
  | _ => true

/-- No trace, no negative entry, nothing started, no answer to the opening of a stream nor from
hyper, no expiry of the request's timeout. -/
def quiet : Label sig → Bool
  | .call (.trace _) _ => false
  | .call (.negativeInsert _ _ _) _ => false
  | .issue _ => false
  | .done (.sendRequest _) _ => false
  | .done (.hyperRequest _) _ => false
  | .fire _ .request _ => false
  | _ => true

/-- What one step of an attempt can be. -/
inductive AttemptStep (plan : Plan) (round : Round) : Leg → Wait → Label sig → Stage → Prop where
  | arms {leg : Leg} {timer : Timer} (deadline : Nat) :
      AttemptStep plan round leg .due (.arm timer deadline) (.attempting round leg .armed)
  | starts {leg : Leg} {wait : Wait} (op : Op) (within : startsWithin op = true)
      (early : wait ≠ .issued) :
      AttemptStep plan round leg wait (.issue op) (.attempting round leg .issued)
  | goesOn {leg leg' : Leg} {wait : Wait} {label : Label sig} (forward : leg'.ahead < leg.ahead)
      (kept : leg'.stream = leg.stream) (plain : quiet label = true)
      (called : ∀ op ans, label = .call op ans → wait = .due) :
      AttemptStep plan round leg wait label (.attempting round leg' .due)
  | opens (stream : BodyHandle) :
      AttemptStep plan round .openStream .issued (.done (.sendRequest plan.http3Request) (.ok stream))
        (round.opened stream)
  | refuses :
      AttemptStep plan round .openStream .issued (.done (.sendRequest plan.http3Request) (.error ()))
        (round.failed true)
  | fails {leg : Leg} {wait : Wait} {label : Label sig} {err : Http3AttemptError}
      (started : leg.stream ≠ none → err = .stream false) (plain : quiet label = true)
      (called : ∀ op ans, label = .call op ans → wait = .due) :
      AttemptStep plan round leg wait label (.closing round (.error err))
  | answers (stream : BodyHandle) (parts : ResponseParts) :
      AttemptStep plan round (.receive stream) .issued (.done .recvResponse (.ok parts))
        (.closing round (.ok (Response.newH3 parts stream)))

theorem quiet_unfired {label : Label sig} (plain : quiet label = true) :
    requestFires label = false := by
  cases label with
  | fire j timer deadline =>
    cases timer with
    | request => cases plain
    | _ => rfl
  | _ => rfl

section Attempt

variable {plan : Plan} {round : Round}

theorem Round.dialling_eq (round : Round) :
    round.dialling = .attempting round .resolve .due ∨
      ∃ addr, round.dialling = .attempting round (.connect addr) .due := by
  unfold dialling
  split
  · exact .inr ⟨_, rfl⟩
  · exact .inl rfl

/-- A part under a timer of its own, by what its answers lead to. -/
theorem AttemptStep.of_await {leg : Leg} {op : Op} {timer : Option Timer}
    {settled : op.Ans → Stage} {elapsed : Stage} {wait : Wait} {label : Label sig} {next : Stage}
    (within : startsWithin op = true)
    (answered : ∀ ans, AttemptStep plan round leg .issued (.done op ans) (settled ans))
    (cut : ∀ own j deadline, timer = some own →
      AttemptStep plan round leg .issued (.fire j own deadline) elapsed)
    (taken : (@Await.move sig _ ⟨op, timer, settled, elapsed⟩ (.attempting round leg) wait).step
      label = some next) : AttemptStep plan round leg wait label next := by
  rcases Await.step_cases taken with
    ⟨own, deadline, rfl, -, rfl, rfl⟩ | ⟨early, rfl, rfl⟩ | ⟨ans, rfl, rfl, rfl⟩ |
    ⟨own, j, deadline, rfl, isOwn, rfl, rfl⟩
  · exact .arms deadline
  · exact .starts op within early
  · exact answered ans
  · exact cut own j deadline isOwn

theorem Plan.attemptMove_step {leg : Leg} {wait : Wait} {label : Label sig} {next : Stage}
    (taken : (plan.attemptMove round leg wait).step label = some next) :
    AttemptStep plan round leg wait label next := by
  cases leg with
  | endpoint =>
    cases wait with
    | due =>
      obtain ⟨ans, rfl, rfl⟩ := Move.step_call_iff.mp taken
      cases ans with
      | ok _ =>
        rcases round.dialling_eq with same | ⟨addr, same⟩
        · simp only [same]
          exact .goesOn (by decide) rfl rfl fun _ _ _ => rfl
        · simp only [same]
          exact .goesOn (Nat.lt_of_sub_eq_succ rfl) rfl rfl fun _ _ _ => rfl
      | error message => exact .fails (fun no => absurd rfl no) rfl fun _ _ _ => rfl
    | armed => exact absurd taken Move.step_stop
    | issued => exact absurd taken Move.step_stop
  | connect addr =>
    cases wait with
    | due =>
      obtain ⟨ans, rfl, rfl⟩ := Move.step_call_iff.mp taken
      cases ans with
      | ok _ => exact .goesOn (Nat.lt_of_sub_eq_succ rfl) rfl rfl fun _ _ _ => rfl
      | error message => exact .fails (fun no => absurd rfl no) rfl fun _ _ _ => rfl
    | armed => exact absurd taken Move.step_stop
    | issued => exact absurd taken Move.step_stop
  | resolve =>
    rw [Plan.attemptMove] at taken
    refine .of_await rfl ?_ ?_ taken
    · intro ans
      cases ans with
      | ok addrs =>
        cases addrs with
        | nil => exact .fails (fun no => absurd rfl no) rfl (fun _ _ no => nomatch no)
        | cons addr rest => exact .goesOn (Nat.lt_of_sub_eq_succ rfl) rfl rfl (fun _ _ no => nomatch no)
      | error _ => exact .fails (fun no => absurd rfl no) rfl (fun _ _ no => nomatch no)
    · intro own j deadline isOwn
      cases isOwn
      exact .fails (fun no => absurd rfl no) rfl (fun _ _ no => nomatch no)
  | connecting =>
    rw [Plan.attemptMove] at taken
    refine .of_await rfl ?_ ?_ taken
    · intro ans
      cases ans with
      | ok _ => exact .goesOn (Nat.lt_of_sub_eq_succ rfl) rfl rfl (fun _ _ no => nomatch no)
      | error _ => exact .fails (fun no => absurd rfl no) rfl (fun _ _ no => nomatch no)
    · intro own j deadline isOwn
      cases isOwn
      exact .fails (fun no => absurd rfl no) rfl (fun _ _ no => nomatch no)
  | build =>
    rw [Plan.attemptMove] at taken
    refine .of_await rfl ?_ ?_ taken
    · intro ans
      cases ans with
      | ok _ => exact .goesOn (Nat.lt_of_sub_eq_succ rfl) rfl rfl (fun _ _ no => nomatch no)
      | error _ => exact .fails (fun no => absurd rfl no) rfl (fun _ _ no => nomatch no)
    · intro own j deadline isOwn
      cases isOwn
      exact .fails (fun no => absurd rfl no) rfl (fun _ _ no => nomatch no)
  | openStream =>
    rw [Plan.attemptMove] at taken
    refine .of_await rfl ?_ ?_ taken
    · intro ans
      cases ans with
      | ok stream => exact .opens stream
      | error _ => exact .refuses
    · intro own j deadline isOwn
      cases isOwn
      exact .fails (fun no => absurd rfl no) rfl (fun _ _ no => nomatch no)
  | upload stream body =>
    rw [Plan.attemptMove] at taken
    refine .of_await rfl ?_ ?_ taken
    · intro ans
      cases ans with
      | ok _ => exact .goesOn (Nat.lt_of_sub_eq_succ rfl) rfl rfl (fun _ _ no => nomatch no)
      | error _ => exact .fails (fun _ => rfl) rfl (fun _ _ no => nomatch no)
    · intro own j deadline isOwn
      cases isOwn
      exact .fails (fun _ => rfl) rfl (fun _ _ no => nomatch no)
  | finish stream =>
    rw [Plan.attemptMove] at taken
    refine .of_await rfl ?_ ?_ taken
    · intro ans
      cases ans with
      | ok _ => exact .goesOn (Nat.lt_of_sub_eq_succ rfl) rfl rfl (fun _ _ no => nomatch no)
      | error _ => exact .fails (fun _ => rfl) rfl (fun _ _ no => nomatch no)
    · intro own j deadline isOwn
      cases isOwn
      exact .fails (fun _ => rfl) rfl (fun _ _ no => nomatch no)
  | receive stream =>
    rw [Plan.attemptMove] at taken
    refine .of_await rfl ?_ ?_ taken
    · intro ans
      cases ans with
      | ok parts => exact .answers stream parts
      | error _ => exact .fails (fun _ => rfl) rfl (fun _ _ no => nomatch no)
    · intro own j deadline isOwn
      cases isOwn

/-- An attempt does not notice the request's timeout. -/
theorem AttemptStep.unfired {leg : Leg} {wait : Wait} {label : Label sig} {next : Stage}
    (step : AttemptStep plan round leg wait label next) : requestFires label = false := by
  cases step with
  | goesOn forward kept plain called => exact quiet_unfired plain
  | fails started plain called => exact quiet_unfired plain
  | _ => rfl

end Attempt

end MechanicsHttpClient.Guarantees
