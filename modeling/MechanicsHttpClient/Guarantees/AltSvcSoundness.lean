import MechanicsHttpClient.Guarantees.AltSvcGrammar

/-!
# Which Alt-Svc entries were advertised

src/alt_svc.rs:46-109, over every header text. An authority without a host is
refused when its port is bad; one with a host is given the origin's port, and
its host loses brackets that need not match. The first theorem says for which
headers the entry is still one that the header lists, the second which bad
ports are refused.
-/

namespace MechanicsHttpClient.Guarantees

open MechanicsHttpClient.Source
open MechanicsHttpClient.Source.AltSvc

namespace Grammar

/-- A notion of `uri-host`: its names, and what it allows between brackets. -/
structure HostSyntax where
  name : Str → Prop
  literal : Str → Prop

def HostSyntax.Allows (hosts : HostSyntax) : Host → Prop
  | .absent => True
  | .name text _ _ => hosts.name text
  | .literal text _ _ => hosts.literal text

def HostSyntax.WellFormed (hosts : HostSyntax) (authority : Str) : Prop :=
  ∃ endpoint : Endpoint, endpoint.text = authority ∧ hosts.Allows endpoint.host

/-- The authority is an optional host, a colon and a decimal port, and means this
host and this port. -/
def HostSyntax.Denotes (hosts : HostSyntax) (authority : Str) (host : Option Str)
    (port : UInt16) : Prop :=
  ∃ endpoint : Endpoint, endpoint.text = authority ∧ hosts.Allows endpoint.host ∧
    endpoint.host.denotes = host ∧ endpoint.portNumber = port

/-- The top-level elements of a list. -/
def elementsOf (raw : Str) : List Str := (pieces ',' false raw).1 :: (pieces ',' false raw).2

def Blank (s : Str) : Prop := ∀ ch ∈ s, isWhitespace ch = true

/-- The element is `h3="authority"`, up to whitespace and parameters. -/
def Advertises (element authority : Str) : Prop :=
  ∃ first second third last parameters : Str,
    Blank first ∧ Blank second ∧ Blank third ∧ Blank last ∧
    (parameters = [] ∨ ∃ more, parameters = ';' :: more) ∧
    element = first ++ "h3".toList ++ second ++
      '=' :: (third ++ inQuotes authority ++ last ++ parameters)

/-- An entry that the parser returns is one that the header lists. -/
def Sound (hosts : HostSyntax) (raw : Str) (now : Instant) (originPort : UInt16) : Prop :=
  ∀ entry, parseStr raw now originPort = .ok (.entry entry) →
    ∃ element ∈ elementsOf raw, ∃ authority, Advertises element authority ∧
      hosts.Denotes authority entry.host entry.port

/-- What stands between the quotes of an h3 element. -/
def authorityOf (element : Str) : Option Str :=
  match Str.splitOnce '=' element.trim with
  | none => none
  | some (protocol, rest) =>
    if protocol.trim ≠ "h3".toList then none
    else (Str.stripPrefix '"' (pieces ';' false rest).1.trim).bind (Str.stripSuffix '"')

def isBracket (ch : Char) : Bool := ch == '[' || ch == ']'

/-- Either there is no host and a number follows the colon, or something that is
no bracket stands before the last colon. -/
def readable (authority : Str) : Bool :=
  match Str.stripPrefix ':' authority with
  | some port => port.parseU16.isSome
  | none =>
    match Str.rsplitOnce ':' authority with
    | none => false
    | some (host, _) => host.any fun ch => !isBracket ch

def hostRead (authority : Str) : Option Str :=
  match Str.stripPrefix ':' authority with
  | some _ => none
  | none => (Str.rsplitOnce ':' authority).map fun split => split.1.trimMatches isBracket

def portRead (authority : Str) (originPort : UInt16) : UInt16 :=
  ((Str.rsplitOnce ':' authority).bind fun split => split.2.parseU16).getD originPort

/-- The authority of the first h3 element that the parser can read. -/
def firstReadable (raw : Str) : Option Str :=
  (elementsOf raw).findSome? fun element => (authorityOf element).filter readable

/-- A u16 is written with digits and at most one sign, so without a colon. -/
theorem no_colon_of_parseU16 {port : Str} {value : UInt16} (parsed : port.parseU16 = some value) :
    ':' ∉ port := by
  obtain ⟨number, parsed, -⟩ := Option.map_eq_some_iff.mp parsed
  obtain ⟨digits, same, -, all, -, -⟩ := Str.parseUnsigned_eq_some.mp parsed
  have absent : ':' ∉ digits := fun mem =>
    digit_ne (List.all_eq_true.mp all _ mem) (by decide) rfl
  rcases same with rfl | rfl
  · exact absent
  · simpa using absent

theorem Str.trimMatches_eq_nil {p : Char → Bool} {s : Str} :
    s.trimMatches p = [] ↔ s.any (fun ch => !p ch) = false := by
  rw [List.any_eq_false]
  constructor
  · intro empty ch mem
    by_contra kept
    have inside := Str.mem_trimMatches (p := p) mem (by simpa using kept)
    rw [empty] at inside
    cases inside
  · intro all
    have dropped : s.dropWhile p = [] := by
      rw [List.dropWhile_eq_nil_iff]
      intro ch mem
      simpa using all ch mem
    rw [Str.trimMatches, dropped]
    rfl

theorem parseAuthority_eq (raw : Str) (originPort : UInt16) :
    parseAuthority raw originPort =
      (((Str.stripPrefix '"' raw).bind (Str.stripSuffix '"')).filter readable).map
        fun authority => (hostRead authority, portRead authority originPort) := by
  unfold parseAuthority
  cases (Str.stripPrefix '"' raw).bind (Str.stripSuffix '"') with
  | none => rfl
  | some authority =>
    dsimp only
    rw [Option.filter_some]
    cases noHost : Str.stripPrefix ':' authority with
    | some port =>
      have text : authority = ':' :: port := Str.stripPrefix_eq_some.mp noHost
      cases parsed : port.parseU16 with
      | none => simp [readable, noHost, parsed]
      | some value =>
        have split : Str.rsplitOnce ':' authority = some ([], port) :=
          Str.rsplitOnce_eq_some.mpr ⟨text, no_colon_of_parseU16 parsed⟩
        simp [readable, hostRead, portRead, noHost, parsed, split]
    | none =>
      cases split : Str.rsplitOnce ':' authority with
      | none => simp [readable, noHost, split]
      | some parts =>
        obtain ⟨host, port⟩ := parts
        have brackets : (fun ch => ch == '[' || ch == ']') = isBracket := rfl
        by_cases empty : host.trimMatches isBracket = []
        · have unreadable := Str.trimMatches_eq_nil.mp empty
          simp [readable, noHost, split, brackets, empty, unreadable]
        · have somewhere : host.any (fun ch => !isBracket ch) = true := by
            by_contra nowhere
            exact empty (Str.trimMatches_eq_nil.mpr (by simpa using nowhere))
          simp [readable, hostRead, portRead, noHost, split, brackets, empty, somewhere]

theorem offerOf_endpoint (element : Str) (originPort : UInt16) :
    (offerOf element.trim originPort).map (fun offer => (offer.host, offer.port)) =
      ((authorityOf element).filter readable).map
        fun authority => (hostRead authority, portRead authority originPort) := by
  unfold offerOf authorityOf
  cases Str.splitOnce '=' element.trim with
  | none => rfl
  | some parts =>
    by_cases other : parts.1.trim ≠ "h3".toList
    · simp only [if_pos other]
      rfl
    · simp only [if_neg other, parseAuthority_eq, Option.map_map]
      rfl

/-- The parser takes the endpoint of the first element that it can read. -/
theorem acceptedOffer_endpoint (raw : Str) (originPort : UInt16) :
    (acceptedOffer raw originPort).map (fun offer => (offer.host, offer.port)) =
      (firstReadable raw).map
        fun authority => (hostRead authority, portRead authority originPort) := by
  unfold acceptedOffer firstReadable elementsOf
  rw [List.map_findSome?, List.map_findSome?]
  congr 1
  funext element
  exact offerOf_endpoint element originPort

theorem pieces_first (separator : Char) (s : Str) :
    ∃ tail, s = (pieces separator false s).1 ++ tail ∧
      (tail = [] ∨ ∃ more, tail = separator :: more) := by
  rcases SplitQuoted.scan_spec separator s 0 false with ⟨-, all⟩ | ⟨piece, rest, split, -, cut⟩
  · exact ⟨[], by rw [all, List.append_nil], .inl rfl⟩
  · exact ⟨separator :: rest, by rw [cut]; exact split, .inr ⟨rest, rfl⟩⟩

theorem Blank.append {s t : Str} (blank : Blank s) (blank' : Blank t) : Blank (s ++ t) := by
  intro ch mem
  exact (List.mem_append.mp mem).elim (blank ch) (blank' ch)

/-- Every trim of the parser took whitespace from both ends. -/
theorem advertises_of_authorityOf {element authority : Str}
    (found : authorityOf element = some authority) : Advertises element authority := by
  unfold authorityOf at found
  cases split : Str.splitOnce '=' element.trim with
  | none => simp [split] at found
  | some parts =>
    obtain ⟨protocol, rest⟩ := parts
    simp only [split] at found
    by_cases other : protocol.trim ≠ "h3".toList
    · rw [if_pos other] at found
      cases found
    · rw [if_neg other] at found
      obtain ⟨closed, opening, closing⟩ := Option.bind_eq_some_iff.mp found
      have quoted : (pieces ';' false rest).1.trim = inQuotes authority := by
        rw [Str.stripPrefix_eq_some.mp opening, Str.stripSuffix_eq_some.mp closing]
        rfl
      obtain ⟨lead, trail, whole, leadBlank, trailBlank⟩ :=
        Str.trimMatches_split isWhitespace element
      obtain ⟨before, second, name, beforeBlank, secondBlank⟩ :=
        Str.trimMatches_split isWhitespace protocol
      obtain ⟨third, last, piece, thirdBlank, lastBlank⟩ :=
        Str.trimMatches_split isWhitespace (pieces ';' false rest).1
      obtain ⟨tail, pieced, ends⟩ := pieces_first ';' rest
      have inner : element.trim = protocol ++ '=' :: rest := (Str.splitOnce_eq_some.mp split).1
      have text : element = (lead ++ before) ++ "h3".toList ++ second ++
          '=' :: (third ++ inQuotes authority ++ last ++ (tail ++ trail)) := by
        have named : protocol = before ++ "h3".toList ++ second := by
          rw [← not_ne_iff.mp other]
          exact name
        have listed : rest = third ++ inQuotes authority ++ last ++ tail := by
          rw [← quoted]
          exact pieced.trans (congrArg (· ++ tail) piece)
        have rebuilt : element = lead ++ element.trim ++ trail := whole
        rw [inner, named, listed] at rebuilt
        simpa using rebuilt
      have firstBlank : Blank (lead ++ before) := Blank.append leadBlank beforeBlank
      rcases ends with rfl | ⟨more, rfl⟩
      · exact ⟨lead ++ before, second, third, last ++ trail, [], firstBlank, secondBlank,
          thirdBlank, Blank.append lastBlank trailBlank, .inl rfl, by simpa using text⟩
      · exact ⟨lead ++ before, second, third, last, ';' :: (more ++ trail), firstBlank,
          secondBlank, thirdBlank, lastBlank, .inr ⟨_, rfl⟩, by simpa using text⟩

/-- What stands before a character that is kept is kept as well. -/
theorem rdropWhile_kept {p : Char → Bool} {ch : Char} (kept : p ch = false) (s more : Str) :
    ∃ rest, (s ++ ch :: more).rdropWhile p = s ++ ch :: rest := by
  induction more using List.reverseRecOn with
  | nil => exact ⟨[], List.rdropWhile_concat_neg _ _ _ (by simp [kept])⟩
  | append_singleton more last ih =>
    have regroup : s ++ ch :: (more ++ [last]) = (s ++ ch :: more) ++ [last] := by simp
    rw [regroup]
    by_cases blank : p last = true
    · rw [List.rdropWhile_concat_pos _ _ _ blank]
      exact ih
    · rw [List.rdropWhile_concat_neg _ _ _ blank]
      exact ⟨more ++ [last], by simp⟩

/-- Trimming an element leaves what stands before its parameters. -/
theorem trim_of_advertises {element authority : Str} (advertises : Advertises element authority) :
    ∃ second third last parameters : Str, Blank second ∧ Blank third ∧ Blank last ∧
      (parameters = [] ∨ ∃ more, parameters = ';' :: more) ∧
      element.trim = ("h3".toList ++ second) ++
        '=' :: (third ++ inQuotes authority ++ last ++ parameters) := by
  obtain ⟨first, second, third, last, parameters, firstBlank, secondBlank, thirdBlank, lastBlank,
    ends, text⟩ := advertises
  have protocol : Bare "h3".toList := bare_of_all (by decide) (Str.forall_of_all (by decide))
  rcases ends with rfl | ⟨more, rfl⟩
  · have bare := protocol.join (second ++ '=' :: third) (inQuotes_bare authority)
    have trimmed := bare.trim_blanks firstBlank lastBlank
    refine ⟨second, third, [], [], secondBlank, thirdBlank, nofun, .inl rfl, ?_⟩
    rw [text]
    simpa using trimmed
  · have semicolon : isWhitespace ';' = false := by decide
    obtain ⟨more', kept⟩ := rdropWhile_kept semicolon
      ("h3".toList ++ (second ++ '=' :: (third ++ inQuotes authority ++ last))) more
    refine ⟨second, third, last, ';' :: more', secondBlank, thirdBlank, lastBlank,
      .inr ⟨more', rfl⟩, ?_⟩
    have regroup : element = first ++ ("h3".toList ++
        (second ++ '=' :: (third ++ inQuotes authority ++ last)) ++ ';' :: more) := by
      rw [text]
      simp
    have dropped : element.dropWhile isWhitespace = "h3".toList ++
        (second ++ '=' :: (third ++ inQuotes authority ++ last)) ++ ';' :: more := by
      rw [regroup, List.dropWhile_append_of_pos firstBlank]
      rfl
    have trimmed : element.trim = (element.dropWhile isWhitespace).rdropWhile isWhitespace := rfl
    rw [trimmed, dropped, kept]
    simp

theorem Blank.inert {s : Str} (blank : Blank s) : Inert ';' s := by
  refine Inert.of_plain ?_
  intro ch mem
  constructor
  · rintro rfl
    exact absurd (blank _ mem) (by decide)
  · rintro rfl
    exact absurd (blank _ mem) (by decide)

/-- Without a quote inside, the authority of an element is what it advertises. -/
theorem authorityOf_eq_some_iff {element authority : Str} (noQuote : '"' ∉ authority) :
    authorityOf element = some authority ↔ Advertises element authority := by
  refine ⟨advertises_of_authorityOf, ?_⟩
  intro advertises
  obtain ⟨second, third, last, parameters, secondBlank, thirdBlank, lastBlank, ends, trimmed⟩ :=
    trim_of_advertises advertises
  have noEquals : '=' ∉ "h3".toList ++ second := by
    simp only [List.mem_append, not_or]
    refine ⟨by decide, ?_⟩
    intro mem
    exact absurd (secondBlank _ mem) (by decide)
  have split := Str.splitOnce_eq_some.mpr ⟨trimmed, noEquals⟩
  have protocol : Str.trim ("h3".toList ++ second) = "h3".toList :=
    (bare_of_all (by decide) (Str.forall_of_all (by decide)) : Bare "h3".toList).trim_later
      secondBlank
  have inert := (thirdBlank.inert.append (inQuotes_inert noQuote)).append lastBlank.inert
  have first : (pieces ';' false (third ++ inQuotes authority ++ last ++ parameters)).1 =
      third ++ inQuotes authority ++ last := by
    rcases ends with rfl | ⟨more, rfl⟩
    · rw [List.append_nil, inert.whole]
    · rw [inert.before_separator (by decide)]
  unfold authorityOf
  simp only [split, protocol, ne_eq, not_true_eq_false, if_false, first,
    (inQuotes_bare authority).trim_blanks thirdBlank lastBlank]
  exact strip_inQuotes authority

theorem authorityOf_of_firstReadable {raw authority : Str}
    (first : firstReadable raw = some authority) :
    ∃ element ∈ elementsOf raw, authorityOf element = some authority := by
  obtain ⟨element, listed, found⟩ := List.exists_of_findSome?_eq_some first
  exact ⟨element, listed, (Option.filter_eq_some_iff.mp found).1⟩

/-- A well-formed authority is read as what it denotes. -/
theorem HostSyntax.WellFormed.denotes {hosts : HostSyntax} {authority : Str}
    (wellFormed : hosts.WellFormed authority) (originPort : UInt16) :
    hosts.Denotes authority (hostRead authority) (portRead authority originPort) := by
  obtain ⟨endpoint, rfl, allowed⟩ := wellFormed
  have read := parseAuthority_endpoint endpoint originPort
  rw [parseAuthority_eq, strip_inQuotes] at read
  obtain ⟨authority, kept, same⟩ := Option.map_eq_some_iff.mp read
  obtain rfl : endpoint.text = authority := by
    simpa using (Option.filter_eq_some_iff.mp kept).1
  simp only [Prod.mk.injEq] at same
  exact ⟨endpoint, rfl, allowed, same.1.symm, same.2.symm⟩

theorem firstReadable_of_entry {raw : Str} {now : Instant} {originPort : UInt16}
    {entry : AltSvcEntry} (parsed : parseStr raw now originPort = .ok (.entry entry)) :
    raw.trim.eqIgnoreAsciiCase "clear".toList = false ∧
      ExpiryRepresentable raw originPort now ∧
      ∃ authority, firstReadable raw = some authority ∧ entry.host = hostRead authority ∧
        entry.port = portRead authority originPort := by
  have representable := (parseStr_returns_iff raw now originPort).mp ⟨_, parsed⟩
  have endpoint := acceptedOffer_endpoint raw originPort
  obtain ⟨listed, offer, expiresAt, accepted, -, rfl⟩ := offer_of_parseStr_entry parsed
  rw [accepted] at endpoint
  obtain ⟨authority, first, same⟩ := Option.map_eq_some_iff.mp endpoint.symm
  simp only [Prod.mk.injEq] at same
  exact ⟨listed, representable, authority, first, same.1.symm, same.2.symm⟩

theorem entry_of_firstReadable {raw : Str} {now : Instant} {originPort : UInt16} {authority : Str}
    (first : firstReadable raw = some authority)
    (listed : raw.trim.eqIgnoreAsciiCase "clear".toList = false)
    (representable : ExpiryRepresentable raw originPort now) :
    ∃ entry, parseStr raw now originPort = .ok (.entry entry) ∧ entry.host = hostRead authority ∧
      entry.port = portRead authority originPort := by
  obtain ⟨update, parsed⟩ := (parseStr_returns_iff raw now originPort).mpr representable
  have endpoint := acceptedOffer_endpoint raw originPort
  rw [first] at endpoint
  obtain ⟨offer, accepted, same⟩ := Option.map_eq_some_iff.mp endpoint
  simp only [Prod.mk.injEq] at same
  have outcome := parseStr_eq raw now originPort
  rw [listed, accepted, parsed] at outcome
  rcases outcomeAt_some now offer with ⟨panic, fails⟩ | ⟨entry, stores⟩
  · simp [fails] at outcome
  · simp only [Bool.false_eq_true, if_false, stores, Except.ok.injEq] at outcome
    subst outcome
    refine ⟨entry, parsed, ?_⟩
    cases sum : now.checkedAdd offer.maxAge with
    | none => simp [outcomeAt, sum] at stores
    | some expiresAt =>
      simp only [outcomeAt, sum, Except.ok.injEq, AltSvcUpdate.entry.injEq] at stores
      subst stores
      exact same

/-- The header gives no entry, or the first authority that can be read is well
formed, or another element advertises the endpoint it is taken for. -/
def ReadAsListed (hosts : HostSyntax) (raw : Str) (now : Instant) (originPort : UInt16) : Prop :=
  raw.trim.eqIgnoreAsciiCase "clear".toList = true ∨ ¬ ExpiryRepresentable raw originPort now ∨
    ∀ authority, firstReadable raw = some authority →
      hosts.WellFormed authority ∨
      ∃ element ∈ elementsOf raw, ∃ other, Advertises element other ∧
        hosts.Denotes other (hostRead authority) (portRead authority originPort)

theorem sound_iff (hosts : HostSyntax) (raw : Str) (now : Instant) (originPort : UInt16) :
    Sound hosts raw now originPort ↔ ReadAsListed hosts raw now originPort := by
  unfold ReadAsListed
  constructor
  · intro sound
    by_cases clear : raw.trim.eqIgnoreAsciiCase "clear".toList = true
    · exact .inl clear
    · by_cases representable : ExpiryRepresentable raw originPort now
      · refine .inr (.inr fun authority first => .inr ?_)
        obtain ⟨entry, parsed, host, port⟩ :=
          entry_of_firstReadable first (by simpa using clear) representable
        rw [← host, ← port]
        exact sound entry parsed
      · exact .inr (.inl representable)
  · intro condition entry parsed
    obtain ⟨listed, representable, authority, first, host, port⟩ := firstReadable_of_entry parsed
    rw [host, port]
    rcases condition with clear | late | genuine
    · rw [listed] at clear
      cases clear
    · exact absurd representable late
    · rcases genuine authority first with wellFormed | elsewhere
      · obtain ⟨element, mem, found⟩ := authorityOf_of_firstReadable first
        exact ⟨element, mem, authority, advertises_of_authorityOf found,
          wellFormed.denotes originPort⟩
      · exact elsewhere

/-- A port: digits whose value is in the range of a u16. -/
def IsPort (digits : Str) : Prop :=
  digits ≠ [] ∧ digits.all isDecimalDigit = true ∧ decimalOf digits < 2 ^ 16

/-- No port follows the last colon, or there is no colon. -/
def BadPort (authority : Str) : Prop :=
  ∀ host port, authority = host ++ ':' :: port → ':' ∉ port → ¬ IsPort port

/-- There is no colon; or no host, and not even a signed number after the colon;
or nothing but brackets before the last colon. -/
def Refused (authority : Str) : Prop :=
  ':' ∉ authority ∨
    (∃ port, authority = ':' :: port ∧ ∀ digits, port = '+' :: digits → ¬ IsPort digits) ∨
    ∃ host port, authority = host ++ ':' :: port ∧ ':' ∉ port ∧ authority.head? ≠ some ':' ∧
      ∀ ch ∈ host, isBracket ch = true

theorem parseU16_isSome {port : Str} :
    port.parseU16.isSome = true ↔
      ∃ digits, (port = digits ∨ port = '+' :: digits) ∧ IsPort digits := by
  unfold Str.parseU16
  rw [Option.isSome_map, Option.isSome_iff_exists]
  constructor
  · rintro ⟨number, parsed⟩
    obtain ⟨digits, same, filled, all, rfl, fits⟩ := Str.parseUnsigned_eq_some.mp parsed
    exact ⟨digits, same, filled, all, fits⟩
  · rintro ⟨digits, same, filled, all, fits⟩
    exact ⟨_, Str.parseUnsigned_eq_some.mpr ⟨digits, same, filled, all, rfl, fits⟩⟩

theorem readable_of_badPort {authority : Str} (bad : BadPort authority) :
    readable authority = false ↔ Refused authority := by
  unfold readable
  cases noHost : Str.stripPrefix ':' authority with
  | some port =>
    have text : authority = ':' :: port := Str.stripPrefix_eq_some.mp noHost
    dsimp only
    rw [← Bool.not_eq_true, parseU16_isSome]
    constructor
    · intro unsigned
      refine .inr (.inl ⟨port, text, ?_⟩)
      intro digits signed isPort
      exact unsigned ⟨digits, .inr signed, isPort⟩
    · rintro refused ⟨digits, same, isPort⟩
      have noColon : ':' ∉ digits := fun mem =>
        digit_ne (List.all_eq_true.mp isPort.2.1 _ mem) (by decide) rfl
      rcases same with rfl | signed
      · exact bad [] port text noColon isPort
      · rcases refused with absent | ⟨port', text', unsigned⟩ | ⟨host, port', -, -, start, -⟩
        · simp [text] at absent
        · obtain rfl : port = port' := by simpa [text] using text'
          exact unsigned digits signed isPort
        · simp [text] at start
  | none =>
    have start : authority.head? ≠ some ':' := by
      intro colon
      obtain ⟨port, text⟩ := List.head?_eq_some_iff.mp colon
      rw [Str.stripPrefix_eq_some.mpr text] at noHost
      cases noHost
    dsimp only
    cases split : Str.rsplitOnce ':' authority with
    | none =>
      have absent := Str.rsplitOnce_eq_none.mp split
      exact ⟨fun _ => .inl absent, fun _ => rfl⟩
    | some parts =>
      obtain ⟨host, port⟩ := parts
      obtain ⟨text, noColon⟩ := Str.rsplitOnce_eq_some.mp split
      dsimp only
      rw [List.any_eq_false]
      constructor
      · intro brackets
        refine .inr (.inr ⟨host, port, text, noColon, start, ?_⟩)
        intro ch mem
        simpa using brackets ch mem
      · rintro (absent | ⟨port', text', -⟩ | ⟨host', port', text', noColon', -, brackets⟩)
        · simp [text] at absent
        · simp [text'] at start
        · have same := Str.rsplitOnce_eq_some.mpr ⟨text', noColon'⟩
          rw [split, Option.some.injEq, Prod.mk.injEq] at same
          intro ch mem
          rw [same.1] at mem
          simp [brackets ch mem]

theorem parseAlternative_none_iff {element authority : Str}
    (found : authorityOf element = some authority) (now : Instant) (originPort : UInt16) :
    parseAlternative element.trim now originPort = .ok .none ↔ readable authority = false := by
  have endpoint := offerOf_endpoint element originPort
  rw [found, Option.filter_some] at endpoint
  rw [parseAlternative_eq]
  cases offered : offerOf element.trim originPort with
  | none =>
    cases unread : readable authority with
    | false => simp [outcomeAt]
    | true => simp [offered, unread] at endpoint
  | some offer =>
    cases unread : readable authority with
    | false => simp [offered, unread] at endpoint
    | true => rcases outcomeAt_some now offer with ⟨panic, fails⟩ | ⟨entry, stores⟩ <;> simp [*]

/-- Every entry was advertised if and only if the first readable authority is well
formed or names an endpoint that the list has anyway; an authority with a bad port
gives nothing if and only if it has no colon, no host and no sign, or no host but
brackets. -/
theorem entries_advertised_iff (hosts : HostSyntax) (raw : Str) (now : Instant)
    (originPort : UInt16) :
    (Sound hosts raw now originPort ↔ ReadAsListed hosts raw now originPort) ∧
      ∀ element authority, authorityOf element = some authority → BadPort authority →
        (parseAlternative element.trim now originPort = .ok .none ↔ Refused authority) := by
  refine ⟨sound_iff hosts raw now originPort, ?_⟩
  intro element authority found bad
  rw [parseAlternative_none_iff found]
  exact readable_of_badPort bad

namespace Example

/-- Every text is a host. -/
def anyHost : HostSyntax := ⟨fun _ => True, fun _ => True⟩

def namedPort : Str := "h3=\"alt.example:http\"".toList

def hostless : Str := "h3=\":http\"".toList

theorem namedPort_offer :
    acceptedOffer namedPort 443 = some ⟨some "alt.example".toList, 443, defaultMaxAge⟩ := by
  decide

/-- What follows the last colon is no port. -/
theorem no_port {authority host port : Str} (split : Str.rsplitOnce ':' authority = some (host, port))
    (noPort : ¬ IsPort port) : BadPort authority := by
  intro host' port' text noColon isPort
  have same := Str.rsplitOnce_eq_some.mpr ⟨text, noColon⟩
  rw [split, Option.some.injEq, Prod.mk.injEq] at same
  rw [same.2] at noPort
  exact noPort isPort

theorem sixtySeconds_wellFormed : anyHost.WellFormed ":443".toList :=
  ⟨⟨.absent, ⟨"443".toList, by decide⟩, by decide, by decide⟩, by decide, True.intro⟩

end Example

theorem entries_advertised_sixtySeconds :
    Sound Example.anyHost Guarantees.Example.sixtySeconds Guarantees.Example.start 443 ∧
      parseAlternative Example.hostless.trim Guarantees.Example.start 443 = .ok .none := by
  have listed := entries_advertised_iff Example.anyHost Guarantees.Example.sixtySeconds
    Guarantees.Example.start 443
  have digits : ¬ IsPort "http".toList := fun isPort => absurd isPort.2.1 (by decide)
  have split : Str.rsplitOnce ':' ":http".toList = some ([], "http".toList) := by decide
  constructor
  · refine listed.1.mpr (.inr (.inr ?_))
    intro authority first
    have same : firstReadable Guarantees.Example.sixtySeconds = some ":443".toList := by decide
    rw [same, Option.some.injEq] at first
    subst first
    exact .inl Example.sixtySeconds_wellFormed
  · refine (listed.2 Example.hostless ":http".toList (by decide)
      (Example.no_port split digits)).mpr (.inr (.inl ⟨"http".toList, by decide, ?_⟩))
    intro digits' signed
    cases signed

/-- The port `http` becomes the port of the origin, which nobody advertised. -/
theorem namedPort_not_advertised :
    ¬ Sound Example.anyHost Example.namedPort Guarantees.Example.start 443 := by
  rw [sound_iff]
  rintro (clear | late | genuine)
  · revert clear
    decide
  · refine late (.inr ?_)
    intro offer accepted
    rw [Example.namedPort_offer] at accepted
    cases accepted
    decide
  · -- the element advertises nothing but the authority that was read
    have only : ∃ endpoint : Endpoint, endpoint.text = "alt.example:http".toList := by
      rcases genuine "alt.example:http".toList (by decide) with
        ⟨endpoint, text, -⟩ | ⟨element, listed, other, advertises, endpoint, text, -⟩
      · exact ⟨endpoint, text⟩
      · have elements : elementsOf Example.namedPort = [Example.namedPort] := by decide
        rw [elements, List.mem_singleton] at listed
        subst listed
        have noQuote : '"' ∉ other := text ▸ endpoint.no_quote
        have found := (authorityOf_eq_some_iff noQuote).mpr advertises
        have read : authorityOf Example.namedPort = some "alt.example:http".toList := by decide
        rw [read, Option.some.injEq] at found
        exact ⟨endpoint, text.trans found.symm⟩
    obtain ⟨endpoint, text⟩ := only
    have split := endpoint.splitPort
    have read : Str.rsplitOnce ':' "alt.example:http".toList =
        some ("alt.example".toList, "http".toList) := by decide
    rw [text, read, Option.some.injEq, Prod.mk.injEq] at split
    have digits := endpoint.port.plain
    rw [← split.2] at digits
    revert digits
    decide

end Grammar

end MechanicsHttpClient.Guarantees
