import MechanicsHttpClient.Runtime.Execution
import MechanicsHttpClient.Guarantees.AltSvcGrammar
import MechanicsHttpClient.Guarantees.CacheHistory
import MechanicsHttpClient.Guarantees.ContentCoding

/-!
# What an Alt-Svc header does to the cache

src/request.rs:506-526. Only the first field line is read, so alternatives on
later lines are lost unless they would change nothing. A header replaces the
entry of its origin when it is `clear` or advertises an h3 alternative; any
other leaves the entry as it was.
-/

namespace MechanicsHttpClient.Guarantees

open MechanicsHttpClient.Runtime
open MechanicsHttpClient.Source
open MechanicsHttpClient.Source.AltSvc

def isClear (raw : Str) : Bool := raw.trim.eqIgnoreAsciiCase "clear".toList

/-- The entry of the first accepted alternative, if its expiry is representable. -/
def advertised (raw : Str) (now : Instant) (originPort : UInt16) : Option AltSvcEntry :=
  (acceptedOffer raw originPort).bind fun offer =>
    (now.checkedAdd offer.maxAge).map fun expiresAt => ⟨offer.host, offer.port, expiresAt⟩

/-- The entry of the origin after a header, when it was `held` before. -/
def entryAfter (raw : Str) (now : Instant) (originPort : UInt16) (held : Option AltSvcEntry) :
    Option AltSvcEntry :=
  if isClear raw then none else (advertised raw now originPort).or held

/-- The entry that the headers of a response ask for. -/
def entryLearned (headers : HeaderMap) (now : Instant) (originPort : UInt16)
    (held : Option AltSvcEntry) : Option AltSvcEntry :=
  match (headers.get HeaderName.altSvc).bind HeaderValue.toStr with
  | none => held
  | some raw => entryAfter raw now originPort held

section OneHeader

variable {client : Client} {uri : Uri} {origin : Origin} {response : Response}
  {value : HeaderValue} {raw : Str} {now : Instant} {shared after : SharedState}
  {result : Option Unit}

/-- The parser either fails, and then the header advertises nothing, or says what
becomes of the entry. -/
theorem parseStr_entryAfter (raw : Str) (now : Instant) (originPort : UInt16) :
    (∃ panic, parseStr raw now originPort = .error panic ∧
      ∀ held, entryAfter raw now originPort held = held) ∨
    ∃ update, parseStr raw now originPort = .ok update ∧
      ∀ held, entryAfter raw now originPort held =
        match update with
        | .clear => none
        | .entry entry => some entry
        | .none => held := by
  have parsed := parseStr_eq raw now originPort
  unfold entryAfter advertised isClear
  by_cases clear : raw.trim.eqIgnoreAsciiCase "clear".toList = true
  · rw [if_pos clear] at parsed
    exact .inr ⟨.clear, parsed, fun held => if_pos clear⟩
  · rw [if_neg clear] at parsed
    simp only [if_neg clear]
    cases accepted : acceptedOffer raw originPort with
    | none =>
      rw [accepted] at parsed
      exact .inr ⟨.none, parsed, fun held => rfl⟩
    | some offer =>
      rw [accepted] at parsed
      cases sum : now.checkedAdd offer.maxAge with
      | none =>
        simp only [outcomeAt, sum] at parsed
        exact .inl ⟨_, parsed, fun held => by simp [sum]⟩
      | some expiresAt =>
        simp only [outcomeAt, sum] at parsed
        exact .inr ⟨_, parsed, fun held => by simp [sum]⟩

/-- What the parser makes of a header says which entry it asks for. -/
theorem parseHeader_learned {headers : HeaderMap} {originPort : UInt16}
    (first : headers.get HeaderName.altSvc = some value) :
    (∃ panic, parseHeader value now originPort = .error panic ∧
      ∀ held, entryLearned headers now originPort held = held) ∨
    ∃ update, parseHeader value now originPort = .ok update ∧
      ∀ origin held, (altSvcAct origin (.call (.altSvcUpdate origin update) ())).apply held =
        entryLearned headers now originPort held := by
  unfold entryLearned
  simp only [first, Option.bind_some]
  cases text : value.toStr with
  | none => exact .inr ⟨.none, by simp [parseHeader, text], by simp [altSvcAct, SlotAct.apply]⟩
  | some raw =>
    have parsed : parseHeader value now originPort = parseStr raw now originPort := by
      simp only [parseHeader, text]
    rw [parsed]
    refine (parseStr_entryAfter raw now originPort).imp id ?_
    rintro ⟨update, parsed, acts⟩
    refine ⟨update, parsed, ?_⟩
    intro origin held
    simp only [acts]
    cases update with
    | clear => cases held <;> simp [altSvcAct, SlotAct.apply]
    | entry entry => simp [altSvcAct, SlotAct.apply]
    | none => simp [altSvcAct, SlotAct.apply]

/-- The update is one critical section: it changes the entry of its origin only,
and nothing once the lock is poisoned. -/
theorem maybeUpdateAltSvc_learned (https : Origin.fromUri uri = some origin)
    (executed : Executes (sends client) now.nanos shared (maybeUpdateAltSvc uri response) result
      after) :
    after.altSvc.poisoned = shared.altSvc.poisoned ∧
      ∀ o, after.altSvc.value o =
        if shared.altSvc.poisoned = false ∧ o = origin then
          entryLearned response.headers now origin.port (shared.altSvc.value o)
        else shared.altSvc.value o := by
  unfold maybeUpdateAltSvc at executed
  rw [https] at executed
  cases first : response.headers.get HeaderName.altSvc with
  | none =>
    simp only [first] at executed
    obtain ⟨-, rfl⟩ := Executes.ret_iff.mp executed
    simp [entryLearned, first]
  | some value =>
    simp only [first] at executed
    obtain ⟨now', middle, clock, parsing⟩ := Executes.perform_bind_iff.mp executed
    have read : now = now' ∧ shared = middle := by
      simp only [sends, respond] at clock
      split at clock
      · rename_i same
        cases now
        cases now'
        cases same
        exact ⟨rfl, Option.some.inj clock⟩
      · cases clock
    obtain ⟨rfl, rfl⟩ := read
    rcases @parseHeader_learned value now response.headers origin.port first with
      ⟨panic, parsed, kept⟩ | ⟨update, parsed, acts⟩
    · rw [parsed] at parsing
      obtain ⟨-, rfl⟩ := Executes.panic_iff.mp parsing
      simp [kept]
    · rw [parsed] at parsing
      obtain ⟨ans, updated, answered, isOver⟩ := Executes.call_iff.mp parsing
      obtain ⟨-, rfl⟩ := Executes.ret_iff.mp isOver
      cases poisoned : shared.altSvc.poisoned with
      | true =>
        have responded : respond (.altSvcUpdate origin update) now.nanos shared ans = some after :=
          answered
        simp only [respond] at responded
        have same : after = shared := by
          rw [← (answered_eq_some responded).2]
          simp [SharedState.altSvcUpdate, poisoned]
        simp [same, poisoned]
      | false =>
        have effect : (sends client).effect now.nanos shared
            (.call (.altSvcUpdate origin update) ans) = some after := answered
        obtain ⟨sound, content⟩ := effect_altSvc effect poisoned
        refine ⟨sound, ?_⟩
        intro o
        rw [content o]
        by_cases same : o = origin
        · subst same
          simpa using acts o (shared.altSvc.value o)
        · simp [altSvcAct, same, Ne.symm same, SlotAct.apply]

theorem maybeUpdateAltSvc_executes (https : Origin.fromUri uri = some origin)
    (first : response.headers.get HeaderName.altSvc = some value)
    (text : value.toStr = some raw)
    (executed : Executes (sends client) now.nanos shared (maybeUpdateAltSvc uri response) result
      after) :
    after.altSvc.poisoned = shared.altSvc.poisoned ∧
      ∀ o, after.altSvc.value o =
        if shared.altSvc.poisoned = false ∧ o = origin then
          entryAfter raw now origin.port (shared.altSvc.value o)
        else shared.altSvc.value o := by
  simpa [entryLearned, first, text] using maybeUpdateAltSvc_learned https executed

/-- At a clock reading that is an instant the update always runs to its end. -/
theorem maybeUpdateAltSvc_runs (client : Client) (uri : Uri) (response : Response) (now : Instant)
    (shared : SharedState) :
    ∃ result after, Executes (sends client) now.nanos shared (maybeUpdateAltSvc uri response) result
      after := by
  have clock : (sends client).respond .instantNow now.nanos shared now = some shared := by
    simp [sends, respond]
  unfold maybeUpdateAltSvc
  split
  · exact ⟨_, _, .ret _ _⟩
  · rename_i origin https
    split
    · exact ⟨_, _, .ret _ _⟩
    · rename_i value first
      cases parsed : parseHeader value now origin.port with
      | error panic =>
        refine ⟨none, shared, .call clock ?_⟩
        simp only [Prog.bind_ret, parsed]
        exact .panic _
      | ok update =>
        have updated : (sends client).respond (.altSvcUpdate origin update) now.nanos shared () =
            some (shared.altSvcUpdate origin update).2 := by
          simp [sends, respond, answered]
        refine ⟨some (), (shared.altSvcUpdate origin update).2, .call clock ?_⟩
        simp only [Prog.bind_ret, parsed]
        exact .call updated (.ret _ _)

end OneHeader

/-- The quotes of the line are balanced. -/
def ClosesQuotes (line : Str) : Prop := line.count '"' % 2 = 0

instance (line : Str) : Decidable (ClosesQuotes line) := inferInstanceAs (Decidable (_ = _))

theorem offerOf_trim_blank (element : Str) (originPort : UInt16) :
    offerOf (Str.trim (' ' :: element)) originPort = offerOf element.trim originPort := by
  rw [trim_blank]

theorem acceptedOffer_blank (raw : Str) (originPort : UInt16) :
    acceptedOffer (' ' :: raw) originPort = acceptedOffer raw originPort := by
  have inert : Inert ',' [' '] := Inert.of_plain (Str.forall_of_all (by decide))
  have cut := inert raw
  unfold acceptedOffer
  simp only [List.singleton_append] at cut
  rw [cut, List.findSome?_cons, List.findSome?_cons, offerOf_trim_blank]

/-- A line that closes its quotes decides for itself; if it offers nothing, the
lines after it decide. -/
theorem acceptedOffer_joined {first : Str} (closed : ClosesQuotes first) (later : Str)
    (originPort : UInt16) :
    acceptedOffer (first ++ ',' :: ' ' :: later) originPort =
      (acceptedOffer first originPort).or (acceptedOffer later originPort) := by
  have cut := pieces_append ',' (by decide) (' ' :: later) first false
    (by simpa [ClosesQuotes] using closed)
  rw [← acceptedOffer_blank later]
  unfold acceptedOffer
  rw [cut]
  simp only [List.findSome?_cons, List.findSome?_append]
  cases offerOf (pieces ',' false first).1.trim originPort with
  | some offer => rfl
  | none => rfl

/-- A text that is `clear` has no character of a list but letters. -/
theorem isClear_plain {raw : Str} (clear : isClear raw = true) (bad : Char)
    (printed : isWhitespace bad = false) (noLetter : toAsciiLowercase bad ∉ "clear".toList) :
    bad ∉ raw := by
  intro mem
  have kept := Str.mem_trimMatches (p := isWhitespace) mem printed
  have lower : "clear".toList.map toAsciiLowercase = "clear".toList := by decide
  have same : raw.trim.map toAsciiLowercase = "clear".toList.map toAsciiLowercase :=
    of_decide_eq_true clear
  have letter : toAsciiLowercase bad ∈ raw.trim.map toAsciiLowercase := List.mem_map_of_mem kept
  rw [same, lower] at letter
  exact noLetter letter

theorem isClear_joined (first later : Str) : isClear (first ++ ',' :: later) = false := by
  rw [← Bool.not_eq_true]
  intro clear
  exact isClear_plain clear ',' (by decide) (by decide) (by simp)

theorem closesQuotes_of_isClear {raw : Str} (clear : isClear raw = true) : ClosesQuotes raw := by
  have absent := isClear_plain clear '"' (by decide) (by decide)
  simp [ClosesQuotes, List.count_eq_zero_of_not_mem absent]

theorem acceptedOffer_of_isClear {raw : Str} (clear : isClear raw = true) (originPort : UInt16) :
    acceptedOffer raw originPort = none := by
  have noQuote := isClear_plain clear '"' (by decide) (by decide)
  have noComma := isClear_plain clear ',' (by decide) (by decide)
  have noEquals := isClear_plain clear '=' (by decide) (by decide)
  have inert : Inert ',' raw := Inert.of_plain fun ch mem =>
    ⟨fun quote => noQuote (quote ▸ mem), fun comma => noComma (comma ▸ mem)⟩
  have unsplit : Str.splitOnce '=' raw.trim = none := by
    cases split : Str.splitOnce '=' raw.trim with
    | none => rfl
    | some parts =>
      obtain ⟨before, later, whole, -, -⟩ := Str.trimMatches_split isWhitespace raw
      have text := (Str.splitOnce_eq_some.mp split).1
      refine absurd ?_ noEquals
      rw [whole]
      have inside : '=' ∈ raw.trim := by simp [text]
      exact List.mem_append_left _ (List.mem_append_right _ inside)
  simp [acceptedOffer, inert.whole, offerOf, unsplit]

/-- Whether two headers, neither of them `clear`, leave the same entry. -/
def SameEntry (one other held : Option AltSvcEntry) : Prop :=
  one = other ∨ (one = none ∧ other = held) ∨ (other = none ∧ one = held)

theorem or_eq_or_iff {one other held : Option AltSvcEntry} :
    one.or held = other.or held ↔ SameEntry one other held := by
  unfold SameEntry
  cases one with
  | none => cases other <;> simp [eq_comm]
  | some entry => cases other <;> simp [eq_comm]

/-- The lines after the first one would change nothing. A line that is `clear`
leaves no entry to them; another one that closes its quotes must accept an
alternative itself, or they must not bring anything new; a line with an open
quote runs on into the next, and must mean the same alone. -/
def NothingLost (first later : Str) (now : Instant) (originPort : UInt16)
    (held : Option AltSvcEntry) : Prop :=
  (isClear first = true ∧ held = none ∧ advertised later now originPort = none) ∨
    (isClear first = false ∧ ClosesQuotes first ∧
      (acceptedOffer first originPort ≠ none ∨ advertised later now originPort = none ∨
        advertised later now originPort = held)) ∨
    (¬ ClosesQuotes first ∧
      SameEntry (advertised first now originPort)
        (advertised (first ++ ',' :: ' ' :: later) now originPort) held)

theorem entryAfter_joined_iff (first later : Str) (now : Instant) (originPort : UInt16)
    (held : Option AltSvcEntry) :
    entryAfter first now originPort held =
        entryAfter (first ++ ',' :: ' ' :: later) now originPort held ↔
      NothingLost first later now originPort held := by
  unfold NothingLost entryAfter
  rw [isClear_joined]
  by_cases closed : ClosesQuotes first
  · have joined := acceptedOffer_joined closed later originPort
    cases clear : isClear first with
    | true =>
      have nothing := acceptedOffer_of_isClear clear originPort
      have same : advertised (first ++ ',' :: ' ' :: later) now originPort =
          advertised later now originPort := by
        simp only [advertised, joined, nothing, Option.none_or]
      simp only [same, if_true, Bool.false_eq_true, if_false, closed, not_true_eq_false, false_and,
        or_false, true_and, reduceCtorEq]
      cases advertised later now originPort with
      | none => simp [eq_comm]
      | some entry => simp
    | false =>
      cases accepted : acceptedOffer first originPort with
      | some offer =>
        have same : advertised (first ++ ',' :: ' ' :: later) now originPort =
            advertised first now originPort := by
          simp only [advertised, joined, accepted, Option.some_or]
        simp [same, closed]
      | none =>
        have nothing : advertised first now originPort = none := by simp [advertised, accepted]
        have same : advertised (first ++ ',' :: ' ' :: later) now originPort =
            advertised later now originPort := by
          simp only [advertised, joined, accepted, Option.none_or]
        have either := @or_eq_or_iff none (advertised later now originPort) held
        simp only [Bool.false_eq_true, if_false, same, nothing, either, SameEntry, closed, true_and,
          not_true_eq_false, false_and, or_false, false_or, ne_eq]
        grind
  · have quoted : isClear first = false := by
      rw [← Bool.not_eq_true]
      exact fun clear => closed (closesQuotes_of_isClear clear)
    simp only [quoted, Bool.false_eq_true, if_false, or_eq_or_iff, closed, false_and, and_false,
      not_false_eq_true, true_and, false_or]

theorem Lock.ext {α : Type} {one other : Lock α} (value : one.value = other.value)
    (poisoned : one.poisoned = other.poisoned) : one = other := by
  cases one
  cases other
  cases value
  cases poisoned
  rfl

section Lines

variable {client : Client} {uri : Uri} {origin : Origin} {one other : Response} {value : HeaderValue}
  {now : Instant} {shared after after' : SharedState} {result result' : Option Unit}

/-- Two responses leave the same cache if and only if they leave the same entry. -/
theorem altSvc_same_iff (https : Origin.fromUri uri = some origin) {raw raw' : Str}
    {value' : HeaderValue} (first : one.headers.get HeaderName.altSvc = some value)
    (text : value.toStr = some raw) (first' : other.headers.get HeaderName.altSvc = some value')
    (text' : value'.toStr = some raw')
    (executed : Executes (sends client) now.nanos shared (maybeUpdateAltSvc uri one) result after)
    (executed' : Executes (sends client) now.nanos shared (maybeUpdateAltSvc uri other) result'
      after') :
    after.altSvc = after'.altSvc ↔ shared.altSvc.poisoned = true ∨
      entryAfter raw now origin.port (shared.altSvc.value origin) =
        entryAfter raw' now origin.port (shared.altSvc.value origin) := by
  obtain ⟨lock, content⟩ := maybeUpdateAltSvc_executes https first text executed
  obtain ⟨lock', content'⟩ := maybeUpdateAltSvc_executes https first' text' executed'
  constructor
  · intro same
    cases poisoned : shared.altSvc.poisoned with
    | true => exact .inl rfl
    | false =>
      have atSlot := congrArg (fun lock => lock.value origin) same
      simp only [content, content', poisoned, and_self, if_true] at atSlot
      exact .inr atSlot
  · intro condition
    refine Lock.ext (funext fun o => ?_) (lock.trans lock'.symm)
    rw [content, content']
    by_cases changed : shared.altSvc.poisoned = false ∧ o = origin
    · obtain ⟨sound, rfl⟩ := changed
      have same := condition.resolve_left (by simp [sound])
      simp only [sound, true_and, if_true, same]
    · simp only [if_neg changed]

/-- Several Alt-Svc lines of visible ASCII leave the cache as one line with all of
them would, if and only if there is just one, or nothing is lost with the others. -/
theorem split_lines_same_iff {split joined : Response} {first : Str} {rest : List Str}
    (https : Origin.fromUri uri = some origin)
    (lines : (split.headers.getAll HeaderName.altSvc).map HeaderValue.toStr =
      (first :: rest).map some)
    (line : joined.headers.getAll HeaderName.altSvc = [value])
    (text : value.toStr = some (combined (first :: rest)))
    (executed : Executes (sends client) now.nanos shared (maybeUpdateAltSvc uri split) result after)
    (executed' : Executes (sends client) now.nanos shared (maybeUpdateAltSvc uri joined) result'
      after') :
    after.altSvc = after'.altSvc ↔
      shared.altSvc.poisoned = true ∨ rest = [] ∨
        NothingLost first (combined rest) now origin.port (shared.altSvc.value origin) := by
  obtain ⟨firstValue, values, all, firstText, -⟩ : ∃ firstValue values,
      split.headers.getAll HeaderName.altSvc = firstValue :: values ∧
        firstValue.toStr = some first ∧ values.map HeaderValue.toStr = rest.map some :=
    List.map_eq_cons_iff.mp lines
  have head : split.headers.get HeaderName.altSvc = some firstValue := by
    simp [HeaderMap.get, all]
  have head' : joined.headers.get HeaderName.altSvc = some value := by
    simp [HeaderMap.get, line]
  rw [altSvc_same_iff https head firstText head' text executed executed']
  cases rest with
  | nil => simp [combined]
  | cons next more =>
    have joinedText : combined (first :: next :: more) =
        first ++ ',' :: ' ' :: combined (next :: more) := rfl
    rw [joinedText, entryAfter_joined_iff]
    simp

end Lines

namespace Example

/-- A response with these Alt-Svc lines. -/
def withLines (lines : List Str) : Response :=
  Response.new ⟨200, lines.foldl (fun headers line =>
    match HeaderValue.fromStr line with
    | some value => headers.append HeaderName.altSvc value
    | none => headers) HeaderMap.empty⟩ 0

def otherProtocol : Str := "h2=\":443\"".toList

end Example

/-- The first line has an alternative of its own, so the second is not missed. -/
theorem split_lines_same_accepted :
    ∃ result after result' after',
      Executes (sends Example.client) 0 SharedState.new
        (maybeUpdateAltSvc Example.uri (Example.withLines [Example.ownPort, Example.otherProtocol]))
        result after ∧
      Executes (sends Example.client) 0 SharedState.new
        (maybeUpdateAltSvc Example.uri
          (Example.withLines [combined [Example.ownPort, Example.otherProtocol]])) result' after' ∧
      after.altSvc = after'.altSvc := by
  obtain ⟨result, after, executed⟩ := maybeUpdateAltSvc_runs Example.client Example.uri
    (Example.withLines [Example.ownPort, Example.otherProtocol]) Example.start SharedState.new
  obtain ⟨result', after', executed'⟩ := maybeUpdateAltSvc_runs Example.client Example.uri
    (Example.withLines [combined [Example.ownPort, Example.otherProtocol]]) Example.start
    SharedState.new
  refine ⟨result, after, result', after', executed, executed', ?_⟩
  have https : Origin.fromUri Example.uri = some Example.origin := rfl
  have lines : ((Example.withLines [Example.ownPort, Example.otherProtocol]).headers.getAll
      HeaderName.altSvc).map HeaderValue.toStr =
      [Example.ownPort, Example.otherProtocol].map some := rfl
  have kept : NothingLost Example.ownPort (combined [Example.otherProtocol]) Example.start 443
      none := .inr (.inl ⟨by decide, by decide, .inl (by decide)⟩)
  exact (split_lines_same_iff https lines rfl rfl executed executed').mpr (.inr (.inr kept))

/-- The alternative on the second line is not learned. -/
theorem split_lines_lose_alternative :
    ∃ result after result' after',
      Executes (sends Example.client) 0 SharedState.new
        (maybeUpdateAltSvc Example.uri (Example.withLines [Example.otherProtocol, Example.ownPort]))
        result after ∧
      Executes (sends Example.client) 0 SharedState.new
        (maybeUpdateAltSvc Example.uri
          (Example.withLines [combined [Example.otherProtocol, Example.ownPort]])) result' after' ∧
      after.altSvc ≠ after'.altSvc := by
  obtain ⟨result, after, executed⟩ := maybeUpdateAltSvc_runs Example.client Example.uri
    (Example.withLines [Example.otherProtocol, Example.ownPort]) Example.start SharedState.new
  obtain ⟨result', after', executed'⟩ := maybeUpdateAltSvc_runs Example.client Example.uri
    (Example.withLines [combined [Example.otherProtocol, Example.ownPort]]) Example.start
    SharedState.new
  refine ⟨result, after, result', after', executed, executed', ?_⟩
  have https : Origin.fromUri Example.uri = some Example.origin := rfl
  rw [ne_eq, altSvc_same_iff https rfl rfl rfl rfl executed executed']
  decide

open Grammar in
/-- A header that decides about the entry: `clear`, or a list whose first h3
alternative has a representable expiry. -/
def Decisive (raw : Str) (now : Instant) : Prop :=
  isClear raw = true ∨ ∃ elements endpoint parameters, raw = listText elements ∧
    firstH3 elements = some (endpoint, parameters) ∧
    now.nanos + (maxAge parameters).nanos < instantLimit

/-- What was held before a decisive header does not matter. -/
theorem entryAfter_of_decisive {raw : Str} {now : Instant} (decisive : Decisive raw now)
    (originPort : UInt16) (held held' : Option AltSvcEntry) :
    entryAfter raw now originPort held = entryAfter raw now originPort held' := by
  unfold entryAfter
  rcases decisive with clear | ⟨elements, endpoint, parameters, rfl, h3, representable⟩
  · rw [if_pos clear, if_pos clear]
  · have offered : ∃ entry, advertised (Grammar.listText elements) now originPort = some entry := by
      unfold advertised
      rw [Grammar.acceptedOffer_listText, h3]
      simp only [Option.map_some, Option.bind_some, Option.map_eq_some_iff]
      cases sum : now.checkedAdd (Grammar.maxAge parameters) with
      | none =>
        have late := Instant.checkedAdd_eq_none.mp sum
        omega
      | some expiresAt => exact ⟨_, expiresAt, rfl, rfl⟩
    obtain ⟨entry, offered⟩ := offered
    rw [offered]
    rfl

theorem entryAfter_of_no_h3 {elements : List Grammar.Element}
    (others : Grammar.firstH3 elements = none) (now : Instant) (originPort : UInt16)
    (held : Option AltSvcEntry) :
    entryAfter (Grammar.listText elements) now originPort held = held := by
  have listed : isClear (Grammar.listText elements) = false := Grammar.listText_not_clear elements
  simp [entryAfter, listed, advertised, Grammar.acceptedOffer_listText, others]

section Replacing

variable {client : Client} {pace : Pace} {clock : Nat} {w : World (sends client)} {uri : Uri}
  {origin : Origin} {response : Response} {value : HeaderValue} {raw : Str} {now : Instant}
  {after alone : SharedState} {result result' : Option Unit}

/-- Whatever the client has been through, a decisive header leaves the entry that
it leaves in an empty cache, and a list without an h3 alternative leaves the entry
that it finds. -/
theorem decisive_header_replaces (reached : Reachable pace (.start clock SharedState.new) w)
    (present : w.clock = now.nanos) (https : Origin.fromUri uri = some origin)
    (first : response.headers.get HeaderName.altSvc = some value) (text : value.toStr = some raw)
    (executed : Executes (sends client) w.clock w.shared (maybeUpdateAltSvc uri response) result
      after)
    (fromEmpty : Executes (sends client) w.clock SharedState.new (maybeUpdateAltSvc uri response)
      result' alone) :
    (Decisive raw now → after.altSvc.value origin = alone.altSvc.value origin) ∧
      ∀ elements, raw = Grammar.listText elements → Grammar.firstH3 elements = none →
        after.altSvc.value origin = w.shared.altSvc.value origin := by
  rw [present] at executed fromEmpty
  have sound := (altSvc_eq_after _ reached.replay_log).1
  have content := (maybeUpdateAltSvc_executes https first text executed).2 origin
  have content' := (maybeUpdateAltSvc_executes https first text fromEmpty).2 origin
  have empty : SharedState.new.altSvc.poisoned = false := rfl
  simp only [sound, empty, and_self, if_true] at content content'
  rw [content, content']
  constructor
  · exact fun decisive => entryAfter_of_decisive decisive _ _ _
  · rintro elements rfl others
    exact entryAfter_of_no_h3 others now _ _

end Replacing

namespace Example

theorem learned_reached : ∃ w : World (sends client),
    Reachable .strict (.start 0 SharedState.new) w ∧ w.clock = 0 ∧
      w.shared.altSvc.value origin = some (entryOn none) := by
  obtain ⟨w, task, reached, -, clock, -, log, -⟩ := reaches .strict
    (spawned client :: performs 0 (learns ownPort (entryOn none))) 0 0 false _
    ⟨builder client, rfl⟩ 0 true false rfl
  refine ⟨w, reached, clock, ?_⟩
  rw [(altSvc_eq_after _ reached.replay_log).2 origin, log]
  rfl

def h2 : Grammar.Element :=
  ⟨⟨[], nofun⟩, ⟨[], nofun⟩, some (.other
    ⟨"h2".toList, by decide, Str.forall_of_all (by decide)⟩ (by decide)
    ⟨":443".toList, Str.forall_of_all (by decide)⟩ [])⟩

end Example

theorem clear_header_replaces :
    ∃ w : World (sends Example.client), Reachable .strict (.start 0 SharedState.new) w ∧
      ∃ result after, Executes (sends Example.client) w.clock w.shared
        (maybeUpdateAltSvc Example.uri (Example.withLines ["clear".toList])) result after ∧
        after.altSvc.value Example.origin = none := by
  obtain ⟨w, reached, clock, -⟩ := Example.learned_reached
  have present : w.clock = Example.start.nanos := clock
  have https : Origin.fromUri Example.uri = some Example.origin := rfl
  obtain ⟨result, after, executed⟩ := maybeUpdateAltSvc_runs Example.client Example.uri
    (Example.withLines ["clear".toList]) Example.start w.shared
  obtain ⟨result', alone, fromEmpty⟩ := maybeUpdateAltSvc_runs Example.client Example.uri
    (Example.withLines ["clear".toList]) Example.start SharedState.new
  have empty := (maybeUpdateAltSvc_executes https rfl rfl fromEmpty).2 Example.origin
  rw [← present] at executed fromEmpty
  refine ⟨w, reached, result, after, executed, ?_⟩
  have same := (decisive_header_replaces reached present https rfl rfl executed fromEmpty).1
    (.inl (by decide))
  rw [same, empty]
  decide

/-- A server that went back to HTTP/2 keeps its h3 entry, which the header alone
would not have made. -/
theorem other_protocol_keeps_entry :
    ∃ w : World (sends Example.client), Reachable .strict (.start 0 SharedState.new) w ∧
      ∃ result after result' alone,
        Executes (sends Example.client) w.clock w.shared (maybeUpdateAltSvc Example.uri
          (Example.withLines [Grammar.listText [Example.h2]])) result after ∧
        Executes (sends Example.client) w.clock SharedState.new (maybeUpdateAltSvc Example.uri
          (Example.withLines [Grammar.listText [Example.h2]])) result' alone ∧
        after.altSvc.value Example.origin ≠ alone.altSvc.value Example.origin := by
  obtain ⟨w, reached, clock, held⟩ := Example.learned_reached
  have present : w.clock = Example.start.nanos := clock
  have sound := (altSvc_eq_after _ reached.replay_log).1
  have https : Origin.fromUri Example.uri = some Example.origin := rfl
  obtain ⟨result, after, executed⟩ := maybeUpdateAltSvc_runs Example.client Example.uri
    (Example.withLines [Grammar.listText [Example.h2]]) Example.start w.shared
  obtain ⟨result', alone, fromEmpty⟩ := maybeUpdateAltSvc_runs Example.client Example.uri
    (Example.withLines [Grammar.listText [Example.h2]]) Example.start SharedState.new
  have content := (maybeUpdateAltSvc_executes https rfl rfl executed).2 Example.origin
  have content' := (maybeUpdateAltSvc_executes https rfl rfl fromEmpty).2 Example.origin
  rw [← present] at executed fromEmpty
  refine ⟨w, reached, result, after, result', alone, executed, fromEmpty, ?_⟩
  rw [content, content', sound, held]
  decide

end MechanicsHttpClient.Guarantees
