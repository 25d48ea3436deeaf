import MechanicsHttpClient.Source.HeaderMap
import MechanicsHttpClient.Source.SplitQuoted

/-!
# alt_svc: parsing the Alt-Svc response header

src/alt_svc.rs:10-109. The only partial steps are the slices of `split_quoted`
and the addition `now + max_age`; both are kept as possible panics.
-/

namespace MechanicsHttpClient.Source.AltSvc

/-- Cached alternative of an origin; no host means the origin's own. -/
structure AltSvcEntry where
  host : Option Str
  port : UInt16
  expiresAt : Instant
  deriving DecidableEq

inductive AltSvcUpdate where
  | clear
  | entry (entry : AltSvcEntry)
  | none
  deriving DecidableEq

def fresh (entry : AltSvcEntry) (now : Instant) : Bool := now.nanos < entry.expiresAt.nanos

/-- A host-less authority rejects a bad port; one with a host falls back to the
origin's port. -/
def parseAuthority (raw : Str) (originPort : UInt16) : Option (Option Str × UInt16) :=
  match (Str.stripPrefix '"' raw).bind (Str.stripSuffix '"') with
  | none => none
  | some authority =>
    match Str.stripPrefix ':' authority with
    | some port => port.parseU16.map fun port => (Option.none, port)
    | none =>
      match Str.rsplitOnce ':' authority with
      | none => none
      | some (host, port) =>
        let host := host.trimMatches fun ch => ch == '[' || ch == ']'
        if host = [] then none
        else some (some host, port.parseU16.getD originPort)

def defaultMaxAge : Duration := Duration.fromSecs 86400

/-- The parameter loop: the last `ma` whose value is a u64 wins. -/
def maxAgeOf : Duration → List Str → Duration
  | maxAge, [] => maxAge
  | maxAge, part :: parts =>
    match Str.splitOnce '=' part.trim with
    | none => maxAgeOf maxAge parts
    | some (name, value) =>
      if name.trim.eqIgnoreAsciiCase "ma".toList then
        match (value.trim.trimMatches (· == '"')).parseU64 with
        | some seconds => maxAgeOf (Duration.fromSecs seconds) parts
        | none => maxAgeOf maxAge parts
      else maxAgeOf maxAge parts

def parseAlternative (raw : Str) (now : Instant) (originPort : UInt16) :
    Except Panic AltSvcUpdate :=
  match Str.splitOnce '=' raw with
  | none => .ok .none
  | some (protocol, rest) =>
    if protocol.trim ≠ "h3".toList then .ok .none
    else
      match splitQuoted rest ';' with
      | .error panic => .error panic
      | .ok [] => .ok .none
      | .ok (authorityRaw :: parts) =>
        match parseAuthority authorityRaw.trim originPort with
        | none => .ok .none
        | some (host, port) =>
          match now.checkedAdd (maxAgeOf defaultMaxAge parts) with
          | none => .error .instantOverflow
          | some expiresAt => .ok (.entry ⟨host, port, expiresAt⟩)

/-- The loop over the list elements: the first one that is not `None` decides. -/
def parseAlternatives (now : Instant) (originPort : UInt16) : List Str → Except Panic AltSvcUpdate
  | [] => .ok .none
  | alternative :: rest =>
    match parseAlternative alternative.trim now originPort with
    | .error panic => .error panic
    | .ok .none => parseAlternatives now originPort rest
    | .ok candidate => .ok candidate

def parseStr (raw : Str) (now : Instant) (originPort : UInt16) : Except Panic AltSvcUpdate :=
  if raw.trim.eqIgnoreAsciiCase "clear".toList then .ok .clear
  else
    match splitQuoted raw ',' with
    | .error panic => .error panic
    | .ok elements => parseAlternatives now originPort elements

def parseHeader (value : HeaderValue) (now : Instant) (originPort : UInt16) :
    Except Panic AltSvcUpdate :=
  match value.toStr with
  | none => .ok .none
  | some raw => parseStr raw now originPort

end MechanicsHttpClient.Source.AltSvc
