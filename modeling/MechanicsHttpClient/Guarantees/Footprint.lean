import MechanicsHttpClient.Runtime.Alphabet
import MechanicsHttpClient.Source.Request

/-!
# What a send can do

`sendFootprint builder` lists, with their arguments, the operations a send of
`builder` may perform: which origin it may touch in the caches, which requests
it may hand to which transport. `send_uses` checks `send` against the list along
the structure of the program; every statement about single operations of a run
follows from it. Conversely, what is not on the list never happens.
-/

namespace MechanicsHttpClient.Guarantees

open MechanicsHttpClient.Runtime
open MechanicsHttpClient.Source

/-- Operations of `Http3State::request`. -/
def attemptOps (call : Http3Call) : Op → Prop
  | .endpoint => True
  | .lookupSocketAddrs host port => host = call.authorityHost ∧ port = call.origin.port
  | .connect _ serverName => serverName = call.authorityHost
  | .connecting => True
  | .h3Build => True
  | .sendRequest request => request = call.request
  | .sendData body => call.body = some body
  | .finish => True
  | .recvResponse => True
  | _ => False

def attemptTimers : Timer → Prop
  | .dnsLookup | .connect | .setup | .streamOpen | .upload => True
  | .request | .httpsRrLookup => False

def attemptFootprint (call : Http3Call) : Alphabet sig := ⟨attemptOps call, attemptTimers, False⟩

theorem firstSocketAddr_uses {A : Alphabet sig} {host : Str} {port : UInt16}
    {addresses : List IpAddr} (timed : A.timer .dnsLookup)
    (looked : A.op (.lookupSocketAddrs host port)) :
    (firstSocketAddr host port addresses).Uses A := by
  unfold firstSocketAddr
  split
  · exact True.intro
  · refine Prog.Uses.andThen ?_ _ (Prog.Uses.timed timed _ (Prog.Uses.suspend looked))
    intro addrs
    cases addrs with
    | nil => exact True.intro
    | cons addr rest => exact True.intro

theorem connection_uses (call : Http3Call) :
    (connection call.authorityHost call.origin.port call.addresses).Uses
      (attemptFootprint call) := by
  unfold connection
  refine Prog.Uses.andThen ?_ _ (Prog.Uses.perform True.intro)
  intro _
  refine Prog.Uses.andThen ?_ _ (firstSocketAddr_uses True.intro ⟨rfl, rfl⟩)
  intro addr
  refine Prog.Uses.andThen ?_ _ (Prog.Uses.perform rfl)
  intro _
  refine Prog.Uses.andThen ?_ _ (Prog.Uses.timed True.intro _ (Prog.Uses.suspend True.intro))
  intro _
  exact Prog.Uses.timed True.intro _ (Prog.Uses.suspend True.intro)

theorem requestOnStream_uses {A : Alphabet sig} {request : Request Unit} {body : Option Bytes}
    (opens : A.timer .streamOpen) (uploads : A.timer .upload) (opened : A.op (.sendRequest request))
    (sent : ∀ bytes, body = some bytes → A.op (.sendData bytes)) (finished : A.op .finish)
    (received : A.op .recvResponse) : (requestOnStream request body).Uses A := by
  have uploaded : (uploadBody body).Uses A := by
    cases body with
    | none => exact True.intro
    | some bytes => exact Prog.Uses.timed uploads _ (Prog.Uses.suspend (sent bytes rfl))
  unfold requestOnStream
  refine Prog.Uses.andThen ?_ _ (Prog.Uses.timed opens _ (Prog.Uses.suspend opened))
  intro stream
  refine Prog.Uses.andThen ?_ _ uploaded
  intro _
  refine Prog.Uses.andThen ?_ _ (Prog.Uses.timed uploads _ (Prog.Uses.suspend finished))
  intro _
  refine Prog.Uses.bind ?_ _ (Prog.Uses.suspend received)
  intro response
  cases response with
  | ok parts => exact True.intro
  | error err => exact True.intro

theorem http3Request_uses (call : Http3Call) :
    (http3Request call).Uses (attemptFootprint call) := by
  unfold http3Request
  refine Prog.Uses.bind ?_ _ (connection_uses call)
  intro connected
  cases connected with
  | ok _ => exact requestOnStream_uses True.intro True.intro rfl (fun _ => id) True.intro True.intro
  | error err => exact True.intro

/-- The arguments of `Http3State::request` on a route. -/
def callOf (target : Http3RequestTarget) (request : Request Unit) (body : Option Bytes) :
    Http3Call :=
  ⟨target.target, target.authorityHost, target.addresses, request, body⟩

/-- The alphabet admits the retry loop of this target. -/
structure AdmitsRetry (A : Alphabet sig) (client : Client) (target : Http3RequestTarget)
    (request : Request Unit) (body : Option Bytes) : Prop where
  attempt : (attemptFootprint (callOf target request body)).Within A
  instantNow : A.op .instantNow
  negativeInsert : ∀ now,
    A.op (.negativeInsert target.origin now client.http3NegativeCacheDuration)
  altSvcRemove : A.op (.altSvcRemove target.origin)
  started : A.op (.trace (.http3Request target.origin (callOf target request body)))
  ended : ∀ attempt outcome, A.op (.trace (.http3Outcome target.origin attempt outcome))
  dropped : A.op (.trace (.http3Dropped target.origin))
  unwinds : A.unwinds

section Retry

variable {A : Alphabet sig} {client : Client} {target : Http3RequestTarget}
  {request : Request Unit} {body : Option Bytes}

theorem insertNegative_uses {origin : Origin} {now : Instant} (unwinds : A.unwinds)
    (insert : A.op (.negativeInsert origin now client.http3NegativeCacheDuration))
    (remove : A.op (.altSvcRemove origin)) : (insertNegative client origin now).Uses A := by
  refine ⟨insert, ?_⟩
  intro stored
  cases stored with
  | error panic => exact unwinds
  | ok _ => exact ⟨remove, fun _ => True.intro⟩

theorem guardedAttempt_uses (admits : AdmitsRetry A client target request body) (attempt : Nat) :
    (guardedAttempt client target request body attempt).Uses A := by
  have guard : (cancellationGuardDrop client target.origin).Uses A :=
    ⟨admits.dropped, fun _ => ⟨admits.instantNow, fun now =>
      insertNegative_uses admits.unwinds (admits.negativeInsert now) admits.altSvcRemove⟩⟩
  unfold guardedAttempt
  refine Prog.Uses.bind ?_ _ (Prog.Uses.perform admits.started)
  intro _
  refine Prog.Uses.bind ?_ _
    (Prog.Uses.guarded guard _ (Prog.Uses.mono admits.attempt _ (http3Request_uses _)))
  intro result
  exact Prog.Uses.map _ _ (Prog.Uses.perform (admits.ended _ _))

theorem retryLoop_uses (admits : AdmitsRetry A client target request body) (now : Instant)
    (attempts : List Nat) : (retryLoop client target request body now attempts).Uses A := by
  have stop : (giveUp client target.origin now).Uses A :=
    Prog.Uses.map _ _ (Prog.Uses.ofSync _
      (insertNegative_uses admits.unwinds (admits.negativeInsert now) admits.altSvcRemove))
  induction attempts with
  | nil => exact stop
  | cons attempt attempts ih =>
    unfold retryLoop
    refine Prog.Uses.bind ?_ _ (guardedAttempt_uses admits attempt)
    intro result
    rcases result with (message | retryWithoutH3) | response
    · exact stop
    · simp only
      split
      · exact ih
      · exact stop
    · exact True.intro

/-- Likewise for the HTTPS RR lookup. -/
theorem httpsRrEntry_uses {origin : Origin} {now : Instant}
    (cached : A.op (.httpsRrCached origin now)) (looked : A.op (.lookupHttps origin.host))
    (timed : A.timer .httpsRrLookup) (stored : ∀ entry, A.op (.httpsRrInsert origin entry)) :
    (httpsRrEntry origin now).Uses A := by
  have lookup : (lookup origin).Uses A := by
    refine Prog.Uses.bind ?_ _ (Prog.Uses.suspend looked)
    intro records
    cases records with
    | error e => exact True.intro
    | ok records => exact True.intro
  unfold httpsRrEntry
  refine Prog.Uses.bind ?_ _ (Prog.Uses.perform cached)
  intro found
  cases found with
  | some entry => exact True.intro
  | none =>
    refine Prog.Uses.bind ?_ _ (Prog.Uses.timeout timed _ lookup)
    intro found
    rcases found with _ | _ | _ | entry
    · exact True.intro
    · exact True.intro
    · exact True.intro
    · exact Prog.Uses.map _ _ (Prog.Uses.perform (stored entry))

theorem tryHttpsRrRoute_uses {origin : Origin} {now : Instant}
    (admits : ∀ entry, AdmitsRetry A client (httpsRrTarget origin entry) request body)
    (cached : A.op (.httpsRrCached origin now)) (looked : A.op (.lookupHttps origin.host))
    (timed : A.timer .httpsRrLookup) (stored : ∀ entry, A.op (.httpsRrInsert origin entry)) :
    (tryHttpsRrRoute client origin request body now).Uses A := by
  unfold tryHttpsRrRoute
  refine Prog.Uses.bind ?_ _ (httpsRrEntry_uses cached looked timed stored)
  intro found
  cases found with
  | none => exact True.intro
  | some entry =>
    simp only
    split
    · exact retryLoop_uses (admits entry) now [0, 1]
    · exact True.intro

/-- Operations of `try_http3` itself. -/
def insideOps : Op → Prop
  | .trace .tryHttp3Left | .hyperRequest _ | .altSvcUpdate _ _ => False
  | _ => True

def insideTryHttp3 : Alphabet sig := ⟨insideOps, fun timer => timer ≠ .request, True⟩

theorem insideTryHttp3_admitsRetry (client : Client) (target : Http3RequestTarget)
    (request : Request Unit) (body : Option Bytes) :
    AdmitsRetry insideTryHttp3 client target request body where
  attempt :=
    { op := by
        intro op used
        cases op with
        | trace point => exact used.elim
        | hyperRequest request => exact used.elim
        | altSvcUpdate origin update => exact used.elim
        | _ => exact True.intro
      timer := by
        rintro timer used rfl
        exact used
      unwinds := fun _ => True.intro }
  instantNow := True.intro
  negativeInsert _ := True.intro
  altSvcRemove := True.intro
  started := True.intro
  ended _ _ := True.intro
  dropped := True.intro
  unwinds := True.intro

/-- Whatever the request, `try_http3` neither calls hyper nor learns from a
response, and arms no timer of the request. -/
theorem tryHttp3_inside (client : Client) (origin : Origin) (request : Request Unit)
    (body : Option Bytes) : (tryHttp3 client origin request body).Uses insideTryHttp3 := by
  have admits := fun target => insideTryHttp3_admitsRetry client target request body
  have overAltSvc : ∀ now, (tryAltSvcRoute client origin request body now).Uses
      insideTryHttp3 := by
    intro now
    refine Prog.Uses.bind ?_ _ (Prog.Uses.perform True.intro)
    intro found
    cases found with
    | none => exact True.intro
    | some entry =>
      refine Prog.Uses.bind ?_ _ (Prog.Uses.perform True.intro)
      intro _
      exact retryLoop_uses (admits _) now [0, 1]
  unfold tryHttp3
  refine Prog.Uses.bind ?_ _ (Prog.Uses.perform True.intro)
  intro _
  refine Prog.Uses.bind ?_ _ (Prog.Uses.perform True.intro)
  intro now
  refine Prog.Uses.bind ?_ _ (Prog.Uses.perform True.intro)
  intro hit
  cases hit with
  | true => exact True.intro
  | false =>
    refine Prog.Uses.andThen ?_ _ (overAltSvc now)
    intro found
    cases found with
    | some response => exact True.intro
    | none =>
      refine Prog.Uses.andThen ?_ _ (tryHttpsRrRoute_uses (fun _ => admits _) True.intro True.intro
        (fun same => nomatch same) fun _ => True.intro)
      intro found
      cases found <;> exact True.intro

end Retry

/-- The origin a request is for; none for an http URL or a rejected one. -/
def originOf (builder : RequestBuilder) : Option Origin :=
  match builder.uri with
  | .ok uri => Origin.fromUri uri
  | .error _ => none

/-- The headers that `send` puts on the request. -/
def sentHeaders (builder : RequestBuilder) : HeaderMap :=
  mergeHeaders builder.client.defaultHeaders builder.headers

/-- The request that `send` hands to hyper, if it gets there. -/
def IsHyperRequest (builder : RequestBuilder) (request : Request RequestBody) : Prop :=
  builder.uri = .ok request.uri ∧ request.method = builder.method ∧
    request.headers = sentHeaders builder ∧ request.body = builder.body.intoBody

/-- What an HTTP/3 attempt of a send carries. -/
def CarriesRequest (builder : RequestBuilder) (request : Request Unit) : Prop :=
  builder.uri = .ok request.uri ∧ request.method = builder.method ∧
    request.headers = sentHeaders builder

/-- The first phase of `send` runs, for this origin and with this body. -/
structure TriesHttp3 (builder : RequestBuilder) (origin : Origin) (body : Option Bytes) : Prop where
  enabled : builder.client.http3Enabled = true
  origin : originOf builder = some origin
  body : builder.body.replayableForH3 = some body

/-- Operations of the first phase of `send`. -/
def http3Ops (builder : RequestBuilder) : Op → Prop
  | .instantNow => True
  | .negativeCacheHit origin _ => ∃ body, TriesHttp3 builder origin body
  | .altSvcEntry origin _ => ∃ body, TriesHttp3 builder origin body
  | .httpsRrCached origin _ => ∃ body, TriesHttp3 builder origin body
  | .httpsRrInsert origin _ => ∃ body, TriesHttp3 builder origin body
  | .negativeInsert origin _ duration =>
    (∃ body, TriesHttp3 builder origin body) ∧
      duration = builder.client.http3NegativeCacheDuration
  | .altSvcRemove origin => ∃ body, TriesHttp3 builder origin body
  | .lookupHttps host => ∃ origin body, TriesHttp3 builder origin body ∧ host = origin.host
  | .endpoint => ∃ origin body, TriesHttp3 builder origin body
  | .connect _ _ => ∃ origin body, TriesHttp3 builder origin body
  | .lookupSocketAddrs _ _ => ∃ origin body, TriesHttp3 builder origin body
  | .connecting => ∃ origin body, TriesHttp3 builder origin body
  | .h3Build => ∃ origin body, TriesHttp3 builder origin body
  | .sendRequest request => (∃ origin body, TriesHttp3 builder origin body) ∧
      CarriesRequest builder request
  | .sendData body => ∃ origin, TriesHttp3 builder origin (some body)
  | .finish => ∃ origin body, TriesHttp3 builder origin body
  | .recvResponse => ∃ origin body, TriesHttp3 builder origin body
  | .trace (.tryHttp3Entered origin) => ∃ body, TriesHttp3 builder origin body
  | .trace .tryHttp3Left => ∃ origin body, TriesHttp3 builder origin body
  | .trace (.altSvcRoute origin _ _) => ∃ body, TriesHttp3 builder origin body
  | .trace (.http3Request origin call) =>
    TriesHttp3 builder origin call.body ∧ CarriesRequest builder call.request
  | .trace (.http3Outcome origin _ _) => ∃ body, TriesHttp3 builder origin body
  | .trace (.http3Dropped origin) => ∃ body, TriesHttp3 builder origin body
  | .altSvcUpdate _ _ => False
  | .hyperRequest _ => False

/-- Operations of the second phase. -/
def tcpOps (builder : RequestBuilder) : Op → Prop
  | .hyperRequest request => IsHyperRequest builder request
  | .instantNow => True
  | .altSvcUpdate origin _ => originOf builder = some origin
  | _ => False

def http3Footprint (builder : RequestBuilder) : Alphabet sig :=
  ⟨fun op => builder.deferredError = none ∧ http3Ops builder op, fun _ => True, True⟩

def tcpFootprint (builder : RequestBuilder) : Alphabet sig :=
  ⟨fun op => builder.deferredError = none ∧ tcpOps builder op, fun timer => timer = .request, True⟩

/-- A send whose builder carries an error does nothing at all. -/
def sendFootprint (builder : RequestBuilder) : Alphabet sig :=
  ⟨fun op => builder.deferredError = none ∧ (http3Ops builder op ∨ tcpOps builder op),
    fun _ => True, True⟩

theorem http3Footprint_within (builder : RequestBuilder) :
    (http3Footprint builder).Within (sendFootprint builder) :=
  ⟨fun _ used => ⟨used.1, .inl used.2⟩, fun _ _ => True.intro, id⟩

theorem tcpFootprint_within (builder : RequestBuilder) :
    (tcpFootprint builder).Within (sendFootprint builder) :=
  ⟨fun _ used => ⟨used.1, .inr used.2⟩, fun _ _ => True.intro, id⟩

section Tries

variable {builder : RequestBuilder} {origin : Origin} {body : Option Bytes}
  {request : Request Unit}

theorem instantNow_uses (fine : builder.deferredError = none) :
    instantNow.Uses (http3Footprint builder) :=
  Prog.Uses.perform ⟨fine, True.intro⟩

/-- An attempt with the send's own request stays within the send. -/
theorem attemptFootprint_within (fine : builder.deferredError = none)
    (tries : TriesHttp3 builder origin body) (carries : CarriesRequest builder request)
    (target : Http3RequestTarget) :
    (attemptFootprint (callOf target request body)).Within (http3Footprint builder) where
  op op used := by
    refine ⟨fine, ?_⟩
    cases op with
    | endpoint => exact ⟨origin, body, tries⟩
    | lookupSocketAddrs host port => exact ⟨origin, body, tries⟩
    | connect addr serverName => exact ⟨origin, body, tries⟩
    | connecting => exact ⟨origin, body, tries⟩
    | h3Build => exact ⟨origin, body, tries⟩
    | finish => exact ⟨origin, body, tries⟩
    | recvResponse => exact ⟨origin, body, tries⟩
    | sendRequest sent =>
      have same : sent = request := used
      exact ⟨⟨origin, body, tries⟩, same ▸ carries⟩
    | sendData bytes =>
      have same : body = some bytes := used
      exact ⟨origin, same ▸ tries⟩
    | _ => exact used.elim
  timer _ _ := True.intro
  unwinds no := no.elim

theorem http3Footprint_admitsRetry (fine : builder.deferredError = none)
    (tries : TriesHttp3 builder origin body) (carries : CarriesRequest builder request)
    (target : Http3RequestTarget) (sameOrigin : target.origin = origin) :
    AdmitsRetry (http3Footprint builder) builder.client target request body := by
  subst sameOrigin
  exact {
    attempt := attemptFootprint_within fine tries carries target
    instantNow := ⟨fine, True.intro⟩
    negativeInsert := fun _ => ⟨fine, ⟨body, tries⟩, rfl⟩
    altSvcRemove := ⟨fine, body, tries⟩
    started := ⟨fine, tries, carries⟩
    ended := fun _ _ => ⟨fine, body, tries⟩
    dropped := ⟨fine, body, tries⟩
    unwinds := True.intro }

theorem tryAltSvcRoute_uses (fine : builder.deferredError = none)
    (tries : TriesHttp3 builder origin body) (carries : CarriesRequest builder request)
    (now : Instant) :
    (tryAltSvcRoute builder.client origin request body now).Uses (http3Footprint builder) := by
  unfold tryAltSvcRoute
  refine Prog.Uses.bind ?_ _ (Prog.Uses.perform ⟨fine, body, tries⟩)
  intro found
  cases found with
  | none => exact True.intro
  | some entry =>
    refine Prog.Uses.bind ?_ _ (Prog.Uses.perform ⟨fine, body, tries⟩)
    intro _
    exact retryLoop_uses (http3Footprint_admitsRetry fine tries carries _ rfl) now [0, 1]

theorem tryHttp3_uses (fine : builder.deferredError = none)
    (tries : TriesHttp3 builder origin body) (carries : CarriesRequest builder request) :
    (tryHttp3 builder.client origin request body).Uses (http3Footprint builder) := by
  unfold tryHttp3
  refine Prog.Uses.bind ?_ _ (Prog.Uses.perform ⟨fine, body, tries⟩)
  intro _
  refine Prog.Uses.bind ?_ _ (instantNow_uses fine)
  intro now
  refine Prog.Uses.bind ?_ _ (Prog.Uses.perform ⟨fine, body, tries⟩)
  intro hit
  cases hit with
  | true => exact True.intro
  | false =>
    have overHttpsRr : (tryHttpsRrRoute builder.client origin request body now).Uses
        (http3Footprint builder) :=
      tryHttpsRrRoute_uses (fun entry => http3Footprint_admitsRetry fine tries carries _ rfl)
        ⟨fine, body, tries⟩ ⟨fine, origin, body, tries, rfl⟩ True.intro fun _ => ⟨fine, body, tries⟩
    refine Prog.Uses.andThen ?_ _ (tryAltSvcRoute_uses fine tries carries now)
    intro overAltSvc
    cases overAltSvc with
    | some response => exact True.intro
    | none =>
      refine Prog.Uses.andThen ?_ _ overHttpsRr
      intro overHttpsRr
      cases overHttpsRr with
      | some response => exact True.intro
      | none => exact True.intro

end Tries

theorem http3Phase_uses {builder : RequestBuilder} {uri : Uri}
    (fine : builder.deferredError = none) (parsed : builder.uri = .ok uri) :
    (http3Phase builder uri (sentHeaders builder)).Uses (http3Footprint builder) := by
  unfold http3Phase
  split
  · rename_i enabled
    split
    · rename_i origin body https replayable
      have tries : TriesHttp3 builder origin body := ⟨enabled, by simp [originOf, parsed, https],
        replayable⟩
      have attempt : (h3Attempt builder origin ⟨builder.method, uri, sentHeaders builder, ()⟩
          body).Uses (http3Footprint builder) := by
        refine Prog.Uses.bind ?_ _ (tryHttp3_uses fine tries ⟨parsed, rfl, rfl⟩)
        intro result
        exact Prog.Uses.map _ _ (Prog.Uses.perform ⟨fine, origin, body, tries⟩)
      have timedOut : (h3TimedOut builder origin).Uses (http3Footprint builder) := by
        refine Prog.Uses.bind ?_ _ (instantNow_uses fine)
        intro now
        exact Prog.Uses.map _ _ (Prog.Uses.ofSync _ (insertNegative_uses True.intro
          ⟨fine, ⟨body, tries⟩, rfl⟩ ⟨fine, body, tries⟩))
      simp only [requestForHttp3, h3Result]
      split
      · exact attempt
      · refine Prog.Uses.bind ?_ _ (Prog.Uses.timeout True.intro _ attempt)
        intro result
        cases result with
        | some result => exact True.intro
        | none => exact timedOut
    · exact True.intro
  · exact True.intro

theorem maybeUpdateAltSvc_uses {A : Alphabet sig} {uri : Uri} (reads : A.op .instantNow)
    (updates : ∀ origin, Origin.fromUri uri = some origin → ∀ update,
      A.op (.altSvcUpdate origin update)) (unwinds : A.unwinds) (response : Response) :
    (maybeUpdateAltSvc uri response).Uses A := by
  unfold maybeUpdateAltSvc
  split
  · exact True.intro
  · rename_i origin https
    split
    · exact True.intro
    · refine Prog.Uses.bind ?_ _ (Prog.Uses.perform reads)
      intro now
      split
      · exact unwinds
      · exact Prog.Uses.perform (updates origin https _)

theorem tcpPhase_within {A : Alphabet sig} {builder : RequestBuilder} {uri : Uri}
    {headers : HeaderMap}
    (sends : A.op (.hyperRequest ⟨builder.method, uri, headers, builder.body.intoBody⟩))
    (waits : A.timer .request) (reads : A.op .instantNow)
    (updates : ∀ origin, Origin.fromUri uri = some origin → ∀ update,
      A.op (.altSvcUpdate origin update)) (unwinds : A.unwinds) :
    (tcpPhase builder uri headers).Uses A := by
  have sent : (suspend (.hyperRequest ⟨builder.method, uri, headers,
      builder.body.intoBody⟩)).Uses A := Prog.Uses.suspend sends
  unfold tcpPhase
  refine Prog.Uses.bind ?_ _ ?_
  · intro result
    rcases result with _ | err | ⟨parts, incoming⟩
    · exact True.intro
    · exact True.intro
    · exact Prog.Uses.map _ _ (maybeUpdateAltSvc_uses reads updates unwinds _)
  · split
    · exact Prog.Uses.timeout waits _ sent
    · exact Prog.Uses.map _ _ sent

theorem tcpPhase_uses {builder : RequestBuilder} {uri : Uri}
    (fine : builder.deferredError = none) (parsed : builder.uri = .ok uri) :
    (tcpPhase builder uri (sentHeaders builder)).Uses (tcpFootprint builder) := by
  have updates : ∀ origin, Origin.fromUri uri = some origin → ∀ update,
      (tcpFootprint builder).op (.altSvcUpdate origin update) := by
    intro origin https update
    exact ⟨fine, by simp [tcpOps, originOf, parsed, https]⟩
  exact tcpPhase_within ⟨fine, parsed, rfl, rfl, rfl⟩ rfl ⟨fine, True.intro⟩ updates True.intro

theorem send_uses (builder : RequestBuilder) : (send builder).Uses (sendFootprint builder) := by
  unfold send
  split
  · exact True.intro
  · rename_i fine
    split
    · exact True.intro
    · rename_i uri parsed
      refine Prog.Uses.andThen ?_ _
        (Prog.Uses.mono (http3Footprint_within builder) _ (http3Phase_uses fine parsed))
      intro overHttp3
      cases overHttp3 with
      | some response => exact True.intro
      | none => exact Prog.Uses.mono (tcpFootprint_within builder) _ (tcpPhase_uses fine parsed)

/-- Every instruction of a task in any interleaving is on its job's list. -/
theorem run_footprint {client : Client} {pace : Pace} {clock : Nat}
    {shared : SharedState} {w : World (sends client)}
    (h : Reachable pace (.start clock shared) w) {i : Nat} {task : Task (sends client)}
    (found : w.tasks[i]? = some task) :
    ∀ e ∈ w.logOf i, (sendFootprint task.job.val).Has e.label := by
  have uses : ∀ job : (sends client).Job,
      ((sends client).program job).Uses (sendFootprint job.val) := fun job => send_uses job.val
  exact Reachable.uses uses h found

namespace Example

def client : Client := ⟨none, HeaderMap.empty, true, Duration.fromSecs 300⟩

def origin : Origin := ⟨"o.example".toList, 443⟩

def uri : Uri := ⟨some "https".toList, some "o.example".toList, none, "/".toList⟩

def builder (client : Client) : RequestBuilder :=
  RequestBuilder.new client .get "https://o.example/".toList (.ok uri)

def spawned (client : Client) : Event (sends client) := .spawn ⟨builder client, rfl⟩

def start : Instant := ⟨0, by decide⟩

/-- Several instructions of one task. -/
def performs {client : Client} (task : Nat) (labels : List (Label sig)) :
    List (Event (sends client)) := labels.map (Event.step task)

/-- `try_http3` up to the Alt-Svc lookup and its answer. -/
def consults (now : Instant) (found : Option AltSvc.AltSvcEntry) : List (Label sig) :=
  [.call (.trace (.tryHttp3Entered origin)) (), .call .instantNow now,
    .call (.negativeCacheHit origin now) false, .call (.altSvcEntry origin now) found]

/-- The HTTPS RR lookup, at the instant `clock`. -/
def resolves (now : Instant) (clock : Nat) (records : List HttpsRecord) : List (Label sig) :=
  [.call (.httpsRrCached origin now) none, .arm .httpsRrLookup (clock + 150000000),
    .issue (.lookupHttps origin.host), .done (.lookupHttps origin.host) (.ok records)]

def hyperRequest : Request RequestBody := ⟨.get, uri, HeaderMap.empty, .empty⟩

def h3Request : Request Unit := ⟨.get, uri, HeaderMap.empty, ()⟩

def call (target : Http3RequestTarget) : Http3Call := callOf target h3Request none

/-- An Alt-Svc header and its response. -/
def advertising (raw : Str) : HeaderMap :=
  match HeaderValue.fromStr raw with
  | some value => HeaderMap.empty.append HeaderName.altSvc value
  | none => HeaderMap.empty

/-- The request goes to hyper, and its response updates the Alt-Svc cache. -/
def overTcp (now : Instant) (raw : Str) (update : AltSvc.AltSvcUpdate) : List (Label sig) :=
  [.issue (.hyperRequest hyperRequest),
    .done (.hyperRequest hyperRequest) (.ok (⟨200, advertising raw⟩, 0)),
    .call .instantNow now, .call (.altSvcUpdate origin update) ()]

/-- A day after the epoch of the example. -/
def tomorrow : Instant := ⟨86400 * nanosPerSec, by decide⟩

/-- Takes the Alt-Svc route up to the call of `Http3State::request`. -/
def routes (entry : AltSvc.AltSvcEntry) : List (Label sig) :=
  [.call (.trace (.altSvcRoute origin entry.host entry.port)) (),
    .call (.trace (.http3Request origin (call (altSvcTarget origin entry)))) ()]

def addr : SocketAddr := ⟨.v4 1, 443⟩

/-- Asks for the addresses of the host, at the instant `clock`. -/
def looksUp (clock : Nat) (host : Str) : List (Label sig) :=
  [.call .endpoint (.ok ()), .arm .dnsLookup (clock + 150000000),
    .issue (.lookupSocketAddrs host 443)]

/-- Resolves the host and connects. -/
def dials (clock : Nat) (host : Str) : List (Label sig) :=
  looksUp clock host ++
    [.done (.lookupSocketAddrs host 443) (.ok [addr]), .call (.connect addr host) (.ok ())]

def ownPort : Str := "h3=\":443\"".toList

def entryOn (host : Option Str) : AltSvc.AltSvcEntry := ⟨host, 443, tomorrow⟩

/-- A send that finds no HTTP/3 and learns the alternative `raw` over TCP. -/
def learns (raw : Str) (entry : AltSvc.AltSvcEntry) : List (Label sig) :=
  consults start none ++ resolves start 0 [] ++ [.call (.trace .tryHttp3Left) ()] ++
    overTcp start raw (.entry entry)

def h3Record : HttpsRecord := ⟨1, [], none, [], fun protocol => protocol == "h3".toList, tomorrow⟩

def h3Entry : HttpsRr.HttpsRrEntry := ⟨443, [], true, tomorrow⟩

/-- An attempt over the HTTPS RR route that gets no endpoint. -/
def refused (now : Instant) (clock : Nat) (duration : Duration) : List (Label sig) :=
  resolves now clock [h3Record] ++
    [.call (.httpsRrInsert origin h3Entry) (),
      .call (.trace (.http3Request origin (call (httpsRrTarget origin h3Entry)))) (),
      .call .endpoint (.error []),
      .call (.trace (.http3Outcome origin 0 (.failed (.handshake [])))) (),
      .call (.negativeInsert origin now duration) (.ok ()), .call (.altSvcRemove origin) ()]

/-- The log entries of one task's instructions. -/
def logged (task time : Nat) (labels : List (Label sig)) : List (Entry sig) :=
  labels.map fun label => ⟨task, time, label⟩

/-- What a run shows of one of its tasks, of its clock and of its log. -/
structure View (client : Client) where
  clock : Nat
  poisoned : Bool
  log : List (Entry sig)
  job : (sends client).Job
  spawned : Nat
  resting : Bool
  unfinished : Bool

def view {client : Client} (i : Nat) (w : World (sends client)) : Option (View client) :=
  w.tasks[i]?.map fun task => ⟨w.clock, w.shared.negative.poisoned, w.log, task.job, task.spawned,
    task.body.resting, task.body.unfinished⟩

theorem reaches {client : Client} (pace : Pace) (events : List (Event (sends client))) (i : Nat)
    (clock : Nat) (poisoned : Bool) (log : List (Entry sig)) (job : (sends client).Job)
    (spawned : Nat) (resting unfinished : Bool)
    (ran : ((World.start 0 SharedState.new).run pace events).bind (view i) =
      some ⟨clock, poisoned, log, job, spawned, resting, unfinished⟩) :
    ∃ (w : World (sends client)) (task : Task (sends client)),
      Reachable pace (.start 0 SharedState.new) w ∧ w.tasks[i]? = some task ∧
      w.clock = clock ∧ w.shared.negative.poisoned = poisoned ∧ w.log = log ∧
      task.job = job ∧ task.spawned = spawned ∧ task.body.resting = resting ∧
      task.body.unfinished = unfinished := by
  obtain ⟨w, reached, seen⟩ := Option.bind_eq_some_iff.mp ran
  obtain ⟨task, found, same⟩ := Option.map_eq_some_iff.mp seen
  simp only [View.mk.injEq] at same
  exact ⟨w, task, .of_run _ .refl reached, found, same⟩

end Example

end MechanicsHttpClient.Guarantees
