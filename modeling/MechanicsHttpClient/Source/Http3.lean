import MechanicsHttpClient.Runtime.World
import MechanicsHttpClient.Source.Client

/-!
# http3: one HTTP/3 attempt

src/http3.rs:26-141 and 236-276. The signature lists what a send does to the
outside: critical sections on the shared state, synchronous library calls, the
awaited operations of resolver, quinn, h3 and hyper, and trace points.

A trace point does nothing. It marks a place of the source (a function entered,
an attempt finished) so that statements about runs can refer to it. The
background task that drives a connection is left out.
-/

namespace MechanicsHttpClient.Source

open MechanicsHttpClient.Runtime

abbrev Bytes := List UInt8

/-- Names a body stream of hyper or h3; its contents are not part of `send`. -/
abbrev BodyHandle := Nat

structure Request (β : Type) where
  method : Method
  uri : Uri
  headers : HeaderMap
  body : β
  deriving DecidableEq

/-- src/body.rs: the three ways a type-erased request body is made. -/
inductive RequestBody where
  | empty
  | full (bytes : Bytes)
  | streaming (body : BodyHandle)
  deriving DecidableEq

structure ResponseParts where
  status : UInt16
  headers : HeaderMap
  deriving DecidableEq

inductive ResponseBody where
  | hyper (incoming : BodyHandle)
  | h3 (stream : BodyHandle)
  deriving DecidableEq

structure Response where
  parts : ResponseParts
  body : ResponseBody
  deriving DecidableEq

namespace Response

def new (parts : ResponseParts) (incoming : BodyHandle) : Response := ⟨parts, .hyper incoming⟩

def newH3 (parts : ResponseParts) (stream : BodyHandle) : Response := ⟨parts, .h3 stream⟩

def headers (response : Response) : HeaderMap := response.parts.headers

end Response

/-- hyper-util's `legacy::Error`; only its display is looked at. -/
structure LegacyError where
  display : Str
  deriving DecidableEq

inductive Http3AttemptError where
  | handshake (message : Str)
  | stream (retryWithoutH3 : Bool)
  deriving DecidableEq

/-- Arguments of `Http3State::request`; `origin` is the address to dial. -/
structure Http3Call where
  origin : Origin
  authorityHost : Str
  addresses : List IpAddr
  request : Request Unit
  body : Option Bytes
  deriving DecidableEq

/-- How a call of `Http3State::request` that was awaited to its end ended. -/
inductive Http3Outcome where
  | responded
  | failed (err : Http3AttemptError)
  deriving DecidableEq

inductive TracePoint where
  | tryHttp3Entered (origin : Origin)
  | tryHttp3Left
  | altSvcRoute (origin : Origin) (host : Option Str) (port : UInt16)
  | http3Request (origin : Origin) (call : Http3Call)
  | http3Outcome (origin : Origin) (attempt : Nat) (outcome : Http3Outcome)
  | http3Dropped (origin : Origin)
  deriving DecidableEq

inductive Op where
  | instantNow
  | negativeCacheHit (origin : Origin) (now : Instant)
  | altSvcEntry (origin : Origin) (now : Instant)
  | httpsRrCached (origin : Origin) (now : Instant)
  | httpsRrInsert (origin : Origin) (entry : HttpsRr.HttpsRrEntry)
  | negativeInsert (origin : Origin) (now : Instant) (duration : Duration)
  | altSvcRemove (origin : Origin)
  | altSvcUpdate (origin : Origin) (update : AltSvc.AltSvcUpdate)
  | endpoint
  | connect (addr : SocketAddr) (serverName : Str)
  | lookupHttps (host : Str)
  | lookupSocketAddrs (host : Str) (port : UInt16)
  | connecting
  | h3Build
  | sendRequest (request : Request Unit)
  | sendData (body : Bytes)
  | finish
  | recvResponse
  | hyperRequest (request : Request RequestBody)
  | trace (point : TracePoint)
  deriving DecidableEq

/-- Answers. The text of a library error is kept where the source keeps it. -/
abbrev Op.Ans : Op → Type
  | .instantNow => Instant
  | .negativeCacheHit _ _ => Bool
  | .altSvcEntry _ _ => Option AltSvc.AltSvcEntry
  | .httpsRrCached _ _ => Option HttpsRr.HttpsRrEntry
  | .httpsRrInsert _ _ => Unit
  | .negativeInsert _ _ _ => Except Panic Unit
  | .altSvcRemove _ => Unit
  | .altSvcUpdate _ _ => Unit
  | .endpoint => Except Str Unit
  | .connect _ _ => Except Str Unit
  | .lookupHttps _ => Except Str (List HttpsRecord)
  | .lookupSocketAddrs _ _ => Except Str (List SocketAddr)
  | .connecting => Except Str Unit
  | .h3Build => Except Str Unit
  | .sendRequest _ => Except Unit BodyHandle
  | .sendData _ => Except Unit Unit
  | .finish => Except Unit Unit
  | .recvResponse => Except Unit ResponseParts
  | .hyperRequest _ => Except LegacyError (ResponseParts × BodyHandle)
  | .trace _ => Unit

/-- The timeouts of the source. -/
inductive Timer where
  | request | httpsRrLookup | dnsLookup | connect | setup | streamOpen | upload
  deriving DecidableEq

abbrev sig : Signature where
  Op := Op
  Ans := Op.Ans
  Timer := Timer

/-- A synchronous operation. -/
abbrev perform (op : Op) : Prog sig op.Ans := @Prog.perform sig op

/-- An awaited operation. -/
abbrev suspend (op : Op) : Prog sig op.Ans := @Prog.suspend sig op

/-- `tokio::time::timeout`. -/
abbrev timeout {α : Type} (timer : Timer) (d : Duration) (future : Prog sig α) :
    Prog sig (Option α) :=
  @Prog.timeout sig α timer d.nanos future

/-- An awaited operation under a timeout, with its errors mapped. -/
abbrev timed {α ε ε' : Type} (timer : Timer) (d : Duration) (elapsed : ε) (failed : ε' → ε)
    (future : Prog sig (Except ε' α)) : Prog sig (Except ε α) :=
  @Prog.timed sig _ _ _ timer d.nanos elapsed failed future

def trace (point : TracePoint) : Prog sig Unit := perform (.trace point)

def h3ConnectTimeout : Duration := Duration.fromMillis 500

def h3DnsLookupTimeout : Duration := Duration.fromMillis 150

def h3StreamOpenTimeout : Duration := Duration.fromMillis 150

def h3StreamUploadTimeout : Duration := Duration.fromMillis 500

/-- `u16` in decimal, as `format!` prints it. -/
def decimalText (n : UInt16) : Str := Nat.toDigits 10 n.toNat

def firstSocketAddr (host : Str) (port : UInt16) (addresses : List IpAddr) :
    Prog sig (Except Str SocketAddr) :=
  match addresses with
  | addr :: _ => .ret (.ok ⟨addr, port⟩)
  | [] =>
    (timed .dnsLookup h3DnsLookupTimeout "HTTP/3 DNS lookup timed out after 150ms".toList id
      (suspend (.lookupSocketAddrs host port))).andThen fun addrs =>
    match addrs with
    | addr :: _ => .ret (.ok addr)
    | [] =>
      .ret (.error ("no socket addresses for ".toList ++ host ++ ":".toList ++ decimalText port))

def connection (authorityHost : Str) (port : UInt16) (addresses : List IpAddr) :
    Prog sig (Except Str Unit) :=
  (perform .endpoint).andThen fun _ =>
  (firstSocketAddr authorityHost port addresses).andThen fun addr =>
  (perform (.connect addr authorityHost)).andThen fun _ =>
  (timed .connect h3ConnectTimeout "HTTP/3 connect timed out after 500ms".toList id
    (suspend .connecting)).andThen fun _ =>
  timed .setup h3ConnectTimeout "HTTP/3 setup timed out after 500ms".toList id (suspend .h3Build)

def streamErrorAfterRequestStarted : Http3AttemptError := .stream false

def h3StreamPhase {α ε : Type} (timeout : Duration) (future : Prog sig (Except ε α)) :
    Prog sig (Except Http3AttemptError α) :=
  timed .upload timeout streamErrorAfterRequestStarted (fun _ => streamErrorAfterRequestStarted)
    future

/-- `if let Some(body) = body { h3_stream_phase(.., stream.send_data(body)).await?; }` -/
def uploadBody : Option Bytes → Prog sig (Except Http3AttemptError Unit)
  | some body => h3StreamPhase h3StreamUploadTimeout (suspend (.sendData body))
  | none => .ret (.ok ())

/-- Everything after the connection: the request is put on a stream. -/
def requestOnStream (request : Request Unit) (body : Option Bytes) :
    Prog sig (Except Http3AttemptError Response) :=
  (timed .streamOpen h3StreamOpenTimeout (Http3AttemptError.stream true)
    (fun _ => .stream true) (suspend (.sendRequest request))).andThen fun stream =>
  (uploadBody body).andThen fun _ =>
  (h3StreamPhase h3StreamUploadTimeout (suspend .finish)).andThen fun _ =>
  (suspend .recvResponse).bind fun response =>
  match response with
  | .ok parts => .ret (.ok (Response.newH3 parts stream))
  | .error _ => .ret (.error streamErrorAfterRequestStarted)

/-- `Http3State::request`. -/
def http3Request (call : Http3Call) : Prog sig (Except Http3AttemptError Response) :=
  (connection call.authorityHost call.origin.port call.addresses).bind fun connected =>
  match connected with
  | .ok _ => requestOnStream call.request call.body
  | .error err => .ret (.error (.handshake err))

end MechanicsHttpClient.Source
