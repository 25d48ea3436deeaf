import MechanicsHttpClient.Source.Text
import MechanicsHttpClient.Source.Time

/-!
# https_rr: HTTPS DNS records and the entry made of them

src/https_rr.rs:14-57. A record is what the accessors of the DNS crate's type
return. The lookup itself is an operation of the client's program; here is the
part that chooses among its records.
-/

namespace MechanicsHttpClient.Source

inductive IpAddr where
  | v4 (bits : UInt32)
  | v6 (high low : UInt64)
  deriving DecidableEq

structure SocketAddr where
  ip : IpAddr
  port : UInt16
  deriving DecidableEq

structure HttpsRecord where
  priority : UInt16
  targetName : Str
  port : Option UInt16
  addressHints : List IpAddr
  hasAlpn : Str → Bool
  expiresAt : Instant

namespace HttpsRr

/-- Cached HTTPS RR data of an origin. -/
structure HttpsRrEntry where
  port : UInt16
  addresses : List IpAddr
  hasH3 : Bool
  expiresAt : Instant
  deriving DecidableEq

def fresh (entry : HttpsRrEntry) (now : Instant) : Bool := now.nanos < entry.expiresAt.nanos

def parseHttpsRecord (record : HttpsRecord) (originPort : UInt16) : HttpsRrEntry where
  port := record.port.getD originPort
  addresses := record.addressHints
  hasH3 := record.hasAlpn "h3".toList
  expiresAt := record.expiresAt

/-- The loop of `lookup`: the first record that advertises h3 returns at once,
and `best` keeps the first record of all. -/
def selectRecord (originPort : UInt16) :
    Option HttpsRrEntry → List HttpsRecord → Option HttpsRrEntry
  | best, [] => best
  | best, record :: records =>
    let parsed := parseHttpsRecord record originPort
    if parsed.hasH3 then some parsed
    else selectRecord originPort (some (best.getD parsed)) records

end HttpsRr

end MechanicsHttpClient.Source
