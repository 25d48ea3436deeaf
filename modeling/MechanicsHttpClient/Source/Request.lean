import MechanicsHttpClient.Source.Http3

/-!
# request: the request builder and `send`

src/request.rs. `send` is a program of the runtime; its helpers keep the names
of the source. The `http` crate's request builder fails only on conversions of
its arguments; here method and URI are already typed, so the two `body(..)`
calls succeed.
-/

namespace MechanicsHttpClient.Source

open MechanicsHttpClient.Runtime

def h3HttpsRrLookupTimeout : Duration := Duration.fromMillis 150

inductive RequestPayload where
  | empty
  | replayable (bytes : Bytes)
  | streaming (body : RequestBody)
  deriving DecidableEq

namespace RequestPayload

def replayableForH3 : RequestPayload → Option (Option Bytes)
  | .empty => some none
  | .replayable bytes => some (some bytes)
  | .streaming _ => none

def intoBody : RequestPayload → RequestBody
  | .empty => .empty
  | .replayable bytes => .full bytes
  | .streaming body => body

end RequestPayload

structure RequestBuilder where
  client : Client
  method : Method
  uri : Except Error Uri
  headers : HeaderMap
  body : RequestPayload
  timeout : Option Duration
  deferredError : Option Error

namespace RequestBuilder

/-- `RequestBuilder::new`; `parsed` is what `url.parse::<Uri>()` returns, an
error with the text it displays. -/
def new (client : Client) (method : Method) (url : Str) (parsed : Except Str Uri) :
    RequestBuilder where
  client := client
  method := method
  uri :=
    match parsed with
    | .error e => .error (.invalidUrl ("could not parse `".toList ++ url ++ "`: ".toList ++ e))
    | .ok uri =>
      let scheme := uri.schemeStr.getD []
      if scheme = "http".toList ∨ scheme = "https".toList then .ok uri
      else .error (.invalidUrl
        ("unsupported scheme `".toList ++ scheme ++ "` in `".toList ++ url ++ "`".toList))
  headers := HeaderMap.empty
  body := .empty
  timeout := none
  deferredError := none

/-- The chain methods. An argument of type `impl TryInto<..>` is the result of
its conversion, the argument of `json` that of its serialisation. -/
inductive Call where
  | header (name : Option HeaderName) (value : Option HeaderValue)
  | bearerAuth (token : Str)
  | timeout (timeout : Duration)
  | body (bytes : Bytes)
  | bodyStreaming (body : BodyHandle)
  | json (serialised : Except Str Bytes)

def header (builder : RequestBuilder) (name : Option HeaderName) (value : Option HeaderValue) :
    RequestBuilder :=
  match name with
  | none =>
    { builder with
      deferredError := getOrInsert builder.deferredError
        (.invalidHeader "header name rejected".toList) }
  | some name =>
    match value with
    | none =>
      { builder with
        deferredError := getOrInsert builder.deferredError
          (.invalidHeader ("header `".toList ++ name.text ++ "` value rejected".toList)) }
    | some value => { builder with headers := builder.headers.append name value }

def applicationJson : HeaderValue :=
  ⟨"application/json".toList.flatMap String.utf8EncodeChar, by decide⟩

def apply (builder : RequestBuilder) : Call → RequestBuilder
  | .header name value => builder.header name value
  | .bearerAuth token =>
    builder.header (some HeaderName.authorization)
      (HeaderValue.fromStr ("Bearer ".toList ++ token))
  | .timeout timeout => { builder with timeout := some timeout }
  | .body bytes => { builder with body := .replayable bytes }
  | .bodyStreaming body => { builder with body := .streaming (.streaming body) }
  | .json (.ok bytes) =>
    { builder with
      body := .replayable bytes
      headers :=
        if builder.headers.containsKey HeaderName.contentType then builder.headers
        else builder.headers.insert HeaderName.contentType applicationJson }
  | .json (.error e) =>
    { builder with deferredError := getOrInsert builder.deferredError (.serializeJson e) }

/-- `self.timeout.or(self.client.inner.default_timeout)`. -/
def effectiveTimeout (builder : RequestBuilder) : Option Duration :=
  builder.timeout.or builder.client.defaultTimeout

end RequestBuilder

def instantNow : Prog sig Instant := perform .instantNow

/-- `insert_negative`. It never suspends, since it also runs in a `drop`. -/
def insertNegative (client : Client) (origin : Origin) (now : Instant) : Sync sig Unit :=
  .call (.negativeInsert origin now client.http3NegativeCacheDuration) fun stored =>
  match stored with
  | .error _ => .panic
  | .ok _ => @Sync.perform sig (.altSvcRemove origin)

/-- `https_rr::lookup`. -/
def lookup (origin : Origin) : Prog sig (Except Error (Option HttpsRr.HttpsRrEntry)) :=
  (suspend (.lookupHttps origin.host)).bind fun records =>
  match records with
  | .error e => .ret (.error (.dns e))
  | .ok records => .ret (.ok (HttpsRr.selectRecord origin.port none records))

def httpsRrEntry (origin : Origin) (now : Instant) : Prog sig (Option HttpsRr.HttpsRrEntry) :=
  (perform (.httpsRrCached origin now)).bind fun cached =>
  match cached with
  | some entry => .ret (some entry)
  | none =>
    (timeout .httpsRrLookup h3HttpsRrLookupTimeout (lookup origin)).bind
      fun found =>
    match found with
    | some (.ok (some entry)) =>
      (perform (.httpsRrInsert origin entry)).bind fun _ => .ret (some entry)
    | _ => .ret none

def maybeUpdateAltSvc (uri : Uri) (response : Response) : Prog sig Unit :=
  match Origin.fromUri uri with
  | none => .ret ()
  | some origin =>
    match response.headers.get HeaderName.altSvc with
    | none => .ret ()
    | some value =>
      instantNow.bind fun now =>
      match AltSvc.parseHeader value now origin.port with
      | .error _ => .panic
      | .ok update => perform (.altSvcUpdate origin update)

inductive H3StreamFailureAction where
  | retryFreshH3
  | useTcp
  deriving DecidableEq

def h3StreamFailureAction (retryWithoutH3 : Bool) (attempt : Nat) : H3StreamFailureAction :=
  if retryWithoutH3 ∧ attempt = 0 then .retryFreshH3 else .useTcp

/-- `Drop` of an armed `H3AttemptCancellationGuard`. -/
def cancellationGuardDrop (client : Client) (origin : Origin) : Sync sig Unit :=
  .call (.trace (.http3Dropped origin)) fun _ =>
  .call .instantNow fun now =>
  insertNegative client origin now

structure Http3RequestTarget where
  origin : Origin
  target : Origin
  authorityHost : Str
  addresses : List IpAddr

def outcomeOf : Except Http3AttemptError Response → Http3Outcome
  | .ok _ => .responded
  | .error err => .failed err

/-- One round of the loop up to the `match`: the guard lives until the attempt
has been awaited. -/
def guardedAttempt (client : Client) (target : Http3RequestTarget) (request : Request Unit)
    (body : Option Bytes) (attempt : Nat) : Prog sig (Except Http3AttemptError Response) :=
  let call : Http3Call :=
    ⟨target.target, target.authorityHost, target.addresses, request, body⟩
  (trace (.http3Request target.origin call)).bind fun _ =>
  (Prog.guarded (cancellationGuardDrop client target.origin) (http3Request call)).bind
    fun result =>
  (trace (.http3Outcome target.origin attempt (outcomeOf result))).bind fun _ => .ret result

/-- The end of an attempt after which the loop gives HTTP/3 up. -/
def giveUp (client : Client) (origin : Origin) (now : Instant) :
    Prog sig (Except Error (Option Response)) :=
  (Prog.ofSync (insertNegative client origin now)).bind fun _ => .ret (.ok none)

/-- The `for` loop over the attempts that are left. -/
def retryLoop (client : Client) (target : Http3RequestTarget) (request : Request Unit)
    (body : Option Bytes) (now : Instant) : List Nat → Prog sig (Except Error (Option Response))
  | [] => giveUp client target.origin now
  | attempt :: attempts =>
    (guardedAttempt client target request body attempt).bind fun result =>
    match result with
    | .ok response => .ret (.ok (some response))
    | .error (.handshake _) => giveUp client target.origin now
    | .error (.stream retryWithoutH3) =>
      match h3StreamFailureAction retryWithoutH3 attempt with
      | .retryFreshH3 => retryLoop client target request body now attempts
      | .useTcp => giveUp client target.origin now

def requestHttp3WithStaleRetry (client : Client) (target : Http3RequestTarget)
    (request : Request Unit) (body : Option Bytes) (now : Instant) :
    Prog sig (Except Error (Option Response)) :=
  retryLoop client target request body now [0, 1]

/-- On the Alt-Svc route the alternative's host is dialled and named. -/
def altSvcTarget (origin : Origin) (entry : AltSvc.AltSvcEntry) : Http3RequestTarget :=
  let authorityHost := entry.host.getD origin.host
  ⟨origin, ⟨authorityHost, entry.port⟩, authorityHost, []⟩

/-- On the HTTPS RR route the hints are dialled and the origin is named. -/
def httpsRrTarget (origin : Origin) (entry : HttpsRr.HttpsRrEntry) : Http3RequestTarget :=
  ⟨origin, { origin with port := entry.port }, origin.host, entry.addresses⟩

/-- The first `if let` of `try_http3`. -/
def tryAltSvcRoute (client : Client) (origin : Origin) (request : Request Unit)
    (body : Option Bytes) (now : Instant) : Prog sig (Except Error (Option Response)) :=
  (perform (.altSvcEntry origin now)).bind fun found =>
  match found with
  | none => .ret (.ok none)
  | some entry =>
    (trace (.altSvcRoute origin entry.host entry.port)).bind fun _ =>
    requestHttp3WithStaleRetry client (altSvcTarget origin entry) request body now

/-- The second `if let` of `try_http3`. -/
def tryHttpsRrRoute (client : Client) (origin : Origin) (request : Request Unit)
    (body : Option Bytes) (now : Instant) : Prog sig (Except Error (Option Response)) :=
  (httpsRrEntry origin now).bind fun found =>
  match found with
  | none => .ret (.ok none)
  | some entry =>
    if entry.hasH3 then
      requestHttp3WithStaleRetry client (httpsRrTarget origin entry) request body now
    else .ret (.ok none)

def tryHttp3 (client : Client) (origin : Origin) (request : Request Unit) (body : Option Bytes) :
    Prog sig (Except Error (Option Response)) :=
  (trace (.tryHttp3Entered origin)).bind fun _ =>
  instantNow.bind fun now =>
  (perform (.negativeCacheHit origin now)).bind fun hit =>
  if hit then .ret (.ok none)
  else
    (tryAltSvcRoute client origin request body now).andThen fun overAltSvc =>
    match overAltSvc with
    | some response => .ret (.ok (some response))
    | none =>
      (tryHttpsRrRoute client origin request body now).andThen fun overHttpsRr =>
      match overHttpsRr with
      | some response => .ret (.ok (some response))
      | none => .ret (.ok none)

def mapLegacyError (err : LegacyError) : Error :=
  let message := err.display
  if message.contains "connection".toList ∨ message.contains "connect".toList ∨
      message.contains "dns".toList then
    .unreachable message
  else if message.contains "certificate".toList ∨ message.contains "tls".toList ∨
      message.contains "TLS".toList then
    .tls message
  else .internal message

/-- The two loops over the default headers and the request's own; the maps are taken to
fit into one (`HeaderMap::append` panics on a map that is full). -/
def mergeHeaders (defaultHeaders headers : HeaderMap) : HeaderMap :=
  (HeaderMap.empty.appendAll defaultHeaders.iter).appendAll headers.iter

def requestForHttp3 (method : Method) (uri : Uri) (headers : HeaderMap) :
    Except Error (Request Unit) :=
  .ok ⟨method, uri, headers, ()⟩

/-- `h3_attempt`. -/
def h3Attempt (builder : RequestBuilder) (origin : Origin) (request : Request Unit)
    (body : Option Bytes) : Prog sig (Except Error (Option Response)) :=
  (tryHttp3 builder.client origin request body).bind fun result =>
  (trace .tryHttp3Left).bind fun _ => .ret result

/-- The arm of `send` for an elapsed timeout of `h3_attempt`. -/
def h3TimedOut (builder : RequestBuilder) (origin : Origin) :
    Prog sig (Except Error (Option Response)) :=
  instantNow.bind fun now =>
  (Prog.ofSync (insertNegative builder.client origin now)).bind fun _ => .ret (.error .timeout)

/-- `h3_result`: `h3_attempt` under the request's timeout, if it has one. -/
def h3Result (builder : RequestBuilder) (origin : Origin)
    (attempt : Prog sig (Except Error (Option Response))) :
    Prog sig (Except Error (Option Response)) :=
  match builder.effectiveTimeout with
  | none => attempt
  | some d =>
    (timeout .request d attempt).bind fun result =>
    match result with
    | some result => .ret result
    | none => h3TimedOut builder origin

/-- The first phase of `send`: `none` when the request goes on to TCP. -/
def http3Phase (builder : RequestBuilder) (uri : Uri) (headers : HeaderMap) :
    Prog sig (Except Error (Option Response)) :=
  if builder.client.http3Enabled then
    match Origin.fromUri uri, builder.body.replayableForH3 with
    | some origin, some bodyBytes =>
      match requestForHttp3 builder.method uri headers with
      | .error err => .ret (.error err)
      | .ok h3Request => h3Result builder origin (h3Attempt builder origin h3Request bodyBytes)
    | _, _ => .ret (.ok none)
  else .ret (.ok none)

/-- The second phase of `send`: the request goes to hyper. -/
def tcpPhase (builder : RequestBuilder) (uri : Uri) (headers : HeaderMap) :
    Prog sig (Except Error Response) :=
  let request : Request RequestBody := ⟨builder.method, uri, headers, builder.body.intoBody⟩
  let sendFut := suspend (.hyperRequest request)
  let arrived : Prog sig (Option (Except LegacyError (ResponseParts × BodyHandle))) :=
    match builder.effectiveTimeout with
    | some d => timeout .request d sendFut
    | none => sendFut.bind fun result => .ret (some result)
  arrived.bind fun result =>
  match result with
  | none => .ret (.error .timeout)
  | some (.error err) => .ret (.error (mapLegacyError err))
  | some (.ok (parts, incoming)) =>
    (maybeUpdateAltSvc uri (Response.new parts incoming)).bind fun _ =>
    .ret (.ok (Response.new parts incoming))

def send (builder : RequestBuilder) : Prog sig (Except Error Response) :=
  match builder.deferredError with
  | some err => .ret (.error err)
  | none =>
    match builder.uri with
    | .error err => .ret (.error err)
    | .ok uri =>
      let headers := mergeHeaders builder.client.defaultHeaders builder.headers
      (http3Phase builder uri headers).andThen fun overHttp3 =>
      match overHttp3 with
      | some response => .ret (.ok response)
      | none => tcpPhase builder uri headers

/-- An operation whose answer the shared state determines. -/
def answered {α : Type} [DecidableEq α] (outcome : α × SharedState) (ans : α) :
    Option SharedState :=
  if outcome.1 = ans then some outcome.2 else none

def respond : (op : Op) → Nat → SharedState → op.Ans → Option SharedState
  | .instantNow, clock, shared, now => if now.nanos = clock then some shared else none
  | .negativeCacheHit origin now, _, shared, ans => answered (shared.negativeCacheHit origin now) ans
  | .altSvcEntry origin now, _, shared, ans => answered (shared.altSvcEntry origin now) ans
  | .httpsRrCached origin now, _, shared, ans => answered (shared.httpsRrCached origin now) ans
  | .httpsRrInsert origin entry, _, shared, ans => answered (shared.httpsRrInsert origin entry) ans
  | .negativeInsert origin now duration, _, shared, ans =>
    answered (shared.negativeInsert origin now duration) ans
  | .altSvcRemove origin, _, shared, ans => answered (shared.altSvcRemove origin) ans
  | .altSvcUpdate origin update, _, shared, ans => answered (shared.altSvcUpdate origin update) ans
  | .endpoint, _, shared, ans => answered (shared.endpointAnswer ans) ans
  | .connect _ _, _, shared, _ => some shared
  | .trace _, _, shared, _ => some shared
  | .lookupHttps _, _, shared, _ => some shared
  | .lookupSocketAddrs _ _, _, shared, _ => some shared
  | .connecting, _, shared, _ => some shared
  | .h3Build, _, shared, _ => some shared
  | .sendRequest _, _, shared, _ => some shared
  | .sendData _, _, shared, _ => some shared
  | .finish, _, shared, _ => some shared
  | .recvResponse, _, shared, _ => some shared
  | .hyperRequest _, _, shared, _ => some shared

/-- Any number of sends of one client, whose clones share the caches. -/
def sends (client : Client) : System sig where
  Job := { builder : RequestBuilder // builder.client = client }
  Result := Except Error Response
  Shared := SharedState
  program builder := send builder.val
  respond := respond

end MechanicsHttpClient.Source
