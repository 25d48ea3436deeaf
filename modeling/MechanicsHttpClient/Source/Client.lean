import MechanicsHttpClient.Source.AltSvc
import MechanicsHttpClient.Source.HttpsRr

/-!
# client: configuration, origins and the shared caches

src/client.rs:24-345 and src/error.rs:50-128. `Client` holds the settings that
`send` reads; the three caches behind its locks are the shared state of all
sends. Each cache function below is one critical section, under the name of the
function of src/request.rs that contains it.

Pool settings and the TCP connect timeout only configure hyper and are left
out; TLS and DNS set-up enter `build` as the outcome the libraries report.
-/

namespace MechanicsHttpClient.Source

inductive Error where
  | timeout
  | unreachable (message : Str)
  | tls (message : Str)
  | dns (message : Str)
  | quicHandshake (message : Str)
  | decode (message : Str)
  | bodyTooLarge (limit seen : Nat)
  | invalidUrl (message : Str)
  | invalidHeader (message : Str)
  | serializeJson (message : Str)
  | cancelled (message : Str)
  | internal (message : Str)
  deriving DecidableEq

inductive Method where
  | get | post | put | patch | delete | head
  | extension (name : Str)
  deriving DecidableEq

/-- A parsed `http::Uri`: its accessors return the parts as written, the scheme
in lower case. -/
structure Uri where
  schemeStr : Option Str
  host : Option Str
  portU16 : Option UInt16
  pathAndQuery : Str
  deriving DecidableEq

/-- Key of the per-origin caches. -/
structure Origin where
  host : Str
  port : UInt16
  deriving DecidableEq

def Origin.fromUri (uri : Uri) : Option Origin :=
  match uri.schemeStr with
  | none => none
  | some scheme =>
    if scheme ≠ "https".toList then none
    else uri.host.map fun host => ⟨host, uri.portU16.getD 443⟩

structure Client where
  defaultTimeout : Option Duration
  defaultHeaders : HeaderMap
  http3Enabled : Bool
  http3NegativeCacheDuration : Duration
  deriving DecidableEq

structure ClientBuilder where
  timeout : Option Duration
  defaultHeaders : HeaderMap
  userAgent : Option HeaderValue
  invalidDefaultHeader : Option Error
  http3Enabled : Bool
  http3NegativeCacheDuration : Option Duration

/-- `Option::get_or_insert_with` on a deferred error: the first one stays. -/
def getOrInsert (deferred : Option Error) (err : Error) : Option Error := some (deferred.getD err)

namespace ClientBuilder

def new : ClientBuilder where
  timeout := none
  defaultHeaders := HeaderMap.empty
  userAgent := none
  invalidDefaultHeader := none
  http3Enabled := true
  http3NegativeCacheDuration := none

/-- The chain methods. An argument of type `impl TryInto<..>` is the result of
its conversion. -/
inductive Call where
  | timeout (timeout : Duration)
  | userAgent (ua : Option HeaderValue)
  | defaultHeaders (headers : HeaderMap)
  | defaultHeader (name : Option HeaderName) (value : Option HeaderValue)
  | http3 (enabled : Bool)
  | http3NegativeCacheDuration (duration : Duration)

def apply (builder : ClientBuilder) : Call → ClientBuilder
  | .timeout timeout => { builder with timeout := some timeout }
  | .userAgent (some value) => { builder with userAgent := some value }
  | .userAgent none =>
    { builder with
      invalidDefaultHeader := getOrInsert builder.invalidDefaultHeader
        (.invalidHeader "User-Agent value rejected".toList) }
  | .defaultHeaders headers => { builder with defaultHeaders := headers }
  | .defaultHeader none _ =>
    { builder with
      invalidDefaultHeader := getOrInsert builder.invalidDefaultHeader
        (.invalidHeader "default header name rejected".toList) }
  | .defaultHeader (some name) none =>
    { builder with
      invalidDefaultHeader := getOrInsert builder.invalidDefaultHeader
        (.invalidHeader ("default header `".toList ++ name.text ++ "` value rejected".toList)) }
  | .defaultHeader (some name) (some value) =>
    { builder with defaultHeaders := builder.defaultHeaders.insert name value }
  | .http3 enabled => { builder with http3Enabled := enabled }
  | .http3NegativeCacheDuration duration =>
    { builder with http3NegativeCacheDuration := some duration }

/-- What rustls and the DNS crate report when they are set up; the errors carry
the text of their display. -/
structure Setup where
  protocolVersions : Except Str Unit
  resolver : Except Str Unit

/-- `webpki_roots_client_config`, as far as it can fail. -/
def webpkiRootsClientConfig (setup : Setup) : Except Error Unit :=
  match setup.protocolVersions with
  | .ok () => .ok ()
  | .error e =>
    .error (.internal ("aws-lc-rs provider rejected default protocol versions: ".toList ++ e))

def build (setup : Setup) (builder : ClientBuilder) : Except Error Client :=
  match builder.invalidDefaultHeader with
  | some err => .error err
  | none =>
    let defaultHeaders := match builder.userAgent with
      | some ua => builder.defaultHeaders.insert HeaderName.userAgent ua
      | none => builder.defaultHeaders
    match webpkiRootsClientConfig setup with
    | .error err => .error err
    | .ok () =>
      match setup.resolver with
      | .error e => .error (.unreachable ("DNS resolver init failed: ".toList ++ e))
      | .ok () =>
        .ok {
          defaultTimeout := builder.timeout
          defaultHeaders
          http3Enabled := builder.http3Enabled
          http3NegativeCacheDuration :=
            builder.http3NegativeCacheDuration.getD (Duration.fromSecs (5 * 60)) }

end ClientBuilder

/-- A `HashMap` keyed by origins. -/
abbrev Cache (β : Type) := Origin → Option β

namespace Cache

variable {β : Type}

def insert (cache : Cache β) (origin : Origin) (value : β) : Cache β :=
  fun o => if o = origin then some value else cache o

def remove (cache : Cache β) (origin : Origin) : Cache β :=
  fun o => if o = origin then none else cache o

@[simp] theorem insert_self (cache : Cache β) (origin : Origin) (value : β) :
    cache.insert origin value origin = some value := if_pos rfl

theorem insert_other (cache : Cache β) {origin o : Origin} (value : β) (other : o ≠ origin) :
    cache.insert origin value o = cache o := if_neg other

@[simp] theorem remove_self (cache : Cache β) (origin : Origin) :
    cache.remove origin origin = none := if_pos rfl

theorem remove_other (cache : Cache β) {origin o : Origin} (other : o ≠ origin) :
    cache.remove origin o = cache o := if_neg other

end Cache

/-- `RwLock` and `Mutex`. A panic while the guard is held poisons the lock, and
taking it fails from then on. -/
structure Lock (α : Type) where
  value : α
  poisoned : Bool

/-- A lookup under the write lock: a fresh value is returned, anything else under
that key is purged. -/
def Lock.lookupFresh {β : Type} (lock : Lock (Cache β)) (origin : Origin) (fresh : β → Bool) :
    Option β × Lock (Cache β) :=
  if lock.poisoned then (none, lock)
  else
    match lock.value origin with
    | some value =>
      if fresh value then (some value, lock) else (none, ⟨lock.value.remove origin, false⟩)
    | none => (none, ⟨lock.value.remove origin, false⟩)

/-- The part of `ClientInner` that sends change. Of the HTTP/3 endpoint only
its having been created is kept. -/
structure SharedState where
  httpsRr : Lock (Cache HttpsRr.HttpsRrEntry)
  altSvc : Lock (Cache AltSvc.AltSvcEntry)
  negative : Lock (Cache Instant)
  endpoint : Lock Bool

namespace SharedState

def new : SharedState where
  httpsRr := ⟨fun _ => none, false⟩
  altSvc := ⟨fun _ => none, false⟩
  negative := ⟨fun _ => none, false⟩
  endpoint := ⟨false, false⟩

def negativeCacheHit (origin : Origin) (now : Instant) (shared : SharedState) :
    Bool × SharedState :=
  let found := shared.negative.lookupFresh origin fun expiresAt => now.nanos < expiresAt.nanos
  (found.1.isSome, { shared with negative := found.2 })

def altSvcEntry (origin : Origin) (now : Instant) (shared : SharedState) :
    Option AltSvc.AltSvcEntry × SharedState :=
  let found := shared.altSvc.lookupFresh origin fun entry => AltSvc.fresh entry now
  (found.1, { shared with altSvc := found.2 })

/-- The first critical section of `https_rr_entry`. -/
def httpsRrCached (origin : Origin) (now : Instant) (shared : SharedState) :
    Option HttpsRr.HttpsRrEntry × SharedState :=
  let found := shared.httpsRr.lookupFresh origin fun entry => HttpsRr.fresh entry now
  (found.1, { shared with httpsRr := found.2 })

/-- The second critical section of `https_rr_entry`. -/
def httpsRrInsert (origin : Origin) (entry : HttpsRr.HttpsRrEntry) (shared : SharedState) :
    Unit × SharedState :=
  if shared.httpsRr.poisoned then ((), shared)
  else ((), { shared with httpsRr := ⟨shared.httpsRr.value.insert origin entry, false⟩ })

/-- The first critical section of `insert_negative`. The deadline is computed
while the guard is held: on overflow the map stays as it was and the lock is
poisoned. -/
def negativeInsert (origin : Origin) (now : Instant) (duration : Duration) (shared : SharedState) :
    Except Panic Unit × SharedState :=
  if shared.negative.poisoned then (.ok (), shared)
  else
    match now.checkedAdd duration with
    | some expiresAt =>
      (.ok (), { shared with
        negative := ⟨shared.negative.value.insert origin expiresAt, false⟩ })
    | none =>
      (.error .instantOverflow, { shared with negative := ⟨shared.negative.value, true⟩ })

/-- The second critical section of `insert_negative`. -/
def altSvcRemove (origin : Origin) (shared : SharedState) : Unit × SharedState :=
  if shared.altSvc.poisoned then ((), shared)
  else ((), { shared with altSvc := ⟨shared.altSvc.value.remove origin, false⟩ })

/-- The critical section of `maybe_update_alt_svc`. -/
def altSvcUpdate (origin : Origin) (update : AltSvc.AltSvcUpdate) (shared : SharedState) :
    Unit × SharedState :=
  if shared.altSvc.poisoned then ((), shared)
  else
    match update with
    | .clear => ((), { shared with altSvc := ⟨shared.altSvc.value.remove origin, false⟩ })
    | .entry entry =>
      ((), { shared with altSvc := ⟨shared.altSvc.value.insert origin entry, false⟩ })
    | .none => ((), shared)

/-- `Http3State::endpoint`: made once and then kept. `created` is what the TLS,
QUIC and socket set-up reports when it has to be made. -/
def endpointAnswer (created : Except Str Unit) (shared : SharedState) :
    Except Str Unit × SharedState :=
  if shared.endpoint.poisoned then (.error "HTTP/3 endpoint lock poisoned".toList, shared)
  else if shared.endpoint.value then (.ok (), shared)
  else
    match created with
    | .error message => (.error message, shared)
    | .ok () => (.ok (), { shared with endpoint := ⟨true, false⟩ })

end SharedState

end MechanicsHttpClient.Source
