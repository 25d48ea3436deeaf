import MechanicsHttpClient.Guarantees.Footprint

/-!
# Which Alt-Svc headers crash the client

src/alt_svc.rs:46-94. All slices succeed (`splitQuoted_eq`), so the addition
`now + max_age` is the only panic. It is reached for the first alternative that
is accepted as h3, with the `ma` the server chose out of all of u64.
-/

namespace MechanicsHttpClient.Guarantees

open MechanicsHttpClient.Runtime
open MechanicsHttpClient.Source
open MechanicsHttpClient.Source.AltSvc

/-- What an accepted h3 alternative offers. -/
structure Offer where
  host : Option Str
  port : UInt16
  maxAge : Duration
  deriving DecidableEq

/-- The offer of a list element, if it is accepted as an h3 alternative. -/
def offerOf (raw : Str) (originPort : UInt16) : Option Offer :=
  match Str.splitOnce '=' raw with
  | none => none
  | some (protocol, rest) =>
    if protocol.trim ≠ "h3".toList then none
    else
      (parseAuthority (pieces ';' false rest).1.trim originPort).map fun authority =>
        ⟨authority.1, authority.2, maxAgeOf defaultMaxAge (pieces ';' false rest).2⟩

/-- The first accepted element decides about the header. -/
def acceptedOffer (raw : Str) (originPort : UInt16) : Option Offer :=
  ((pieces ',' false raw).1 :: (pieces ',' false raw).2).findSome? fun alternative =>
    offerOf alternative.trim originPort

/-- The only step of the parser that depends on the clock, and can fail. -/
def outcomeAt (now : Instant) : Option Offer → Except Panic AltSvcUpdate
  | none => .ok .none
  | some offer =>
    match now.checkedAdd offer.maxAge with
    | none => .error .instantOverflow
    | some expiresAt => .ok (.entry ⟨offer.host, offer.port, expiresAt⟩)

theorem parseAlternative_eq (raw : Str) (now : Instant) (originPort : UInt16) :
    parseAlternative raw now originPort = outcomeAt now (offerOf raw originPort) := by
  unfold parseAlternative offerOf
  cases Str.splitOnce '=' raw with
  | none => rfl
  | some parts =>
    obtain ⟨protocol, rest⟩ := parts
    by_cases other : protocol.trim ≠ "h3".toList
    · simp only [if_pos other]
      rfl
    · simp only [if_neg other, splitQuoted_eq]
      cases parseAuthority (pieces ';' false rest).1.trim originPort with
      | none => rfl
      | some authority => rfl

theorem outcomeAt_some (now : Instant) (offer : Offer) :
    (∃ panic, outcomeAt now (some offer) = .error panic) ∨
      (∃ entry, outcomeAt now (some offer) = .ok (.entry entry)) := by
  cases sum : now.checkedAdd offer.maxAge with
  | none => exact .inl ⟨.instantOverflow, by simp [outcomeAt, sum]⟩
  | some expiresAt => exact .inr ⟨⟨offer.host, offer.port, expiresAt⟩, by simp [outcomeAt, sum]⟩

/-- The loop over the list elements stops at the first accepted one. -/
theorem parseAlternatives_eq (now : Instant) (originPort : UInt16) (alternatives : List Str) :
    parseAlternatives now originPort alternatives =
      outcomeAt now (alternatives.findSome? fun alternative =>
        offerOf alternative.trim originPort) := by
  induction alternatives with
  | nil => rfl
  | cons alternative rest ih =>
    unfold parseAlternatives
    rw [parseAlternative_eq, List.findSome?_cons]
    cases offerOf alternative.trim originPort with
    | none => exact ih
    | some offer =>
      rcases outcomeAt_some now offer with ⟨panic, fails⟩ | ⟨entry, stores⟩
      · rw [fails]
      · rw [stores]

/-- The parser chooses an offer, then computes its expiry. -/
theorem parseStr_eq (raw : Str) (now : Instant) (originPort : UInt16) :
    parseStr raw now originPort =
      if raw.trim.eqIgnoreAsciiCase "clear".toList then .ok .clear
      else outcomeAt now (acceptedOffer raw originPort) := by
  unfold parseStr acceptedOffer
  simp only [splitQuoted_eq, parseAlternatives_eq]

/-- A parsed entry is the accepted offer with its expiry. -/
theorem offer_of_parseStr_entry {raw : Str} {now : Instant} {originPort : UInt16}
    {entry : AltSvcEntry} (parsed : parseStr raw now originPort = .ok (.entry entry)) :
    raw.trim.eqIgnoreAsciiCase "clear".toList = false ∧
      ∃ offer expiresAt, acceptedOffer raw originPort = some offer ∧
        now.checkedAdd offer.maxAge = some expiresAt ∧
        entry = ⟨offer.host, offer.port, expiresAt⟩ := by
  rw [parseStr_eq] at parsed
  by_cases clear : raw.trim.eqIgnoreAsciiCase "clear".toList = true
  · rw [if_pos clear] at parsed
    cases parsed
  · rw [if_neg clear] at parsed
    cases accepted : acceptedOffer raw originPort with
    | none => simp [accepted, outcomeAt] at parsed
    | some offer =>
      rw [accepted] at parsed
      cases sum : now.checkedAdd offer.maxAge with
      | none => simp [outcomeAt, sum] at parsed
      | some expiresAt =>
        simp only [outcomeAt, sum, Except.ok.injEq, AltSvcUpdate.entry.injEq] at parsed
        exact ⟨by simpa using clear, offer, expiresAt, rfl, sum, parsed.symm⟩

/-- The header asks for no expiry beyond the last representable instant. -/
def ExpiryRepresentable (raw : Str) (originPort : UInt16) (now : Instant) : Prop :=
  raw.trim.eqIgnoreAsciiCase "clear".toList = true ∨
    ∀ offer, acceptedOffer raw originPort = some offer →
      now.nanos + offer.maxAge.nanos < instantLimit

theorem parseStr_returns_iff (raw : Str) (now : Instant) (originPort : UInt16) :
    (∃ update, parseStr raw now originPort = .ok update) ↔
      ExpiryRepresentable raw originPort now := by
  rw [parseStr_eq]
  unfold ExpiryRepresentable
  by_cases clear : raw.trim.eqIgnoreAsciiCase "clear".toList = true
  · rw [if_pos clear]
    exact ⟨fun _ => .inl clear, fun _ => ⟨.clear, rfl⟩⟩
  · rw [if_neg clear]
    cases acceptedOffer raw originPort with
    | none => simp [outcomeAt]
    | some offer =>
      have bound := @Instant.checkedAdd_eq_none now offer.maxAge
      simp only [outcomeAt, clear, Bool.false_eq_true, false_or, Option.some.injEq, forall_eq']
      cases sum : now.checkedAdd offer.maxAge with
      | none =>
        have late := bound.mp sum
        simp only [reduceCtorEq, exists_false, false_iff]
        omega
      | some expiresAt =>
        have early : ¬ instantLimit ≤ now.nanos + offer.maxAge.nanos := by
          rw [← bound, sum]
          simp
        simp only [Except.ok.injEq, exists_eq', true_iff]
        omega

/-- `maybe_update_alt_svc` after its clock reading: it unwinds exactly when the
parser does. -/
theorem maybeUpdateAltSvc_panics_iff {uri : Uri} {origin : Origin} {response : Response}
    {value : HeaderValue} {raw : Str} (https : Origin.fromUri uri = some origin)
    (advertised : response.headers.get HeaderName.altSvc = some value)
    (text : value.toStr = some raw) (now : Instant) (clock : Nat) :
    (maybeUpdateAltSvc uri response).step clock (.call .instantNow now) = some .panic ↔
      ¬ ExpiryRepresentable raw origin.port now := by
  rw [← parseStr_returns_iff]
  have header : parseHeader value now origin.port = parseStr raw now origin.port := by
    unfold parseHeader
    rw [text]
  unfold maybeUpdateAltSvc
  rw [https]
  simp only [advertised, instantNow]
  rw [Prog.step_perform_bind, header]
  cases parsed : parseStr raw now origin.port with
  | error panic => simp
  | ok update => simp [perform, Prog.perform]

/-- A header is harmless, in the parser and in the send that received it, if and
only if the expiry it asks for is a representable instant. -/
theorem altSvc_harmless_iff_expiry_representable (raw : Str) (now : Instant) (origin : Origin) :
    ((∃ update, parseStr raw now origin.port = .ok update) ↔
      ExpiryRepresentable raw origin.port now) ∧
    ∀ uri response value, Origin.fromUri uri = some origin →
      response.headers.get HeaderName.altSvc = some value → value.toStr = some raw →
      ∀ clock, ((maybeUpdateAltSvc uri response).step clock (.call .instantNow now) ≠ some .panic ↔
        ExpiryRepresentable raw origin.port now) := by
  refine ⟨parseStr_returns_iff raw now origin.port, ?_⟩
  intro uri response value https advertised text clock
  rw [ne_eq, maybeUpdateAltSvc_panics_iff https advertised text now clock, not_not]

namespace Example

def sixtySeconds : Str := "h3=\":443\"; ma=60".toList

def centuries : Str := "h3=\":443\"; ma=18446744073709551615".toList

theorem sixtySeconds_offer :
    acceptedOffer sixtySeconds 443 = some ⟨none, 443, Duration.fromSecs 60⟩ := by decide

end Example

theorem altSvc_harmless_sixtySeconds :
    (∃ update, parseStr Example.sixtySeconds Example.start 443 = .ok update) ∧
      (maybeUpdateAltSvc Example.uri
        (Response.new ⟨200, Example.advertising Example.sixtySeconds⟩ 0)).step 0
        (.call .instantNow Example.start) ≠ some .panic := by
  have representable : ExpiryRepresentable Example.sixtySeconds 443 Example.start := by
    refine .inr ?_
    intro offer accepted
    rw [Example.sixtySeconds_offer] at accepted
    cases accepted
    decide
  have harmless := altSvc_harmless_iff_expiry_representable Example.sixtySeconds Example.start
    Example.origin
  exact ⟨harmless.1.mpr representable,
    (harmless.2 Example.uri _ _ rfl rfl rfl 0).mpr representable⟩

/-- The largest `ma` overflows at every clock reading, the first one included. -/
theorem parseStr_panics_on_largest_ma :
    ¬ ∃ update, parseStr Example.centuries Example.start 443 = .ok update := by
  have panics : parseStr Example.centuries Example.start 443 = .error .instantOverflow := by
    decide
  rw [panics]
  rintro ⟨update, impossible⟩
  cases impossible

end MechanicsHttpClient.Guarantees
