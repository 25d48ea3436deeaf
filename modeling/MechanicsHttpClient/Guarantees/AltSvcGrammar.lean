import MechanicsHttpClient.Guarantees.AltSvcOverflow

/-!
# Every well-formed Alt-Svc list is read as it is meant

src/alt_svc.rs:46-146. A header is described as data: list elements with the
blanks around them, alternatives with their authority and parameters. `text`
writes such a list out, and the theorem at the end says what the parser reads
back from it: the first h3 alternative, its endpoint and its last usable `ma`.
-/

namespace MechanicsHttpClient.Guarantees

open MechanicsHttpClient.Source
open MechanicsHttpClient.Source.AltSvc

namespace Grammar

def isTokenChar (ch : Char) : Bool := (65 ≤ ch.toNat && ch.toNat ≤ 90) || isHeaderNameChar ch

structure Token where
  text : Str
  filled : text ≠ []
  plain : ∀ ch ∈ text, isTokenChar ch = true

/-- The inside of a quoted string without escapes. -/
structure Quoted where
  inside : Str
  plain : ∀ ch ∈ inside, ch ≠ '"' ∧ ch ≠ '\\'

structure Blanks where
  text : Str
  plain : ∀ ch ∈ text, ch = ' ' ∨ ch = '\t'

structure Digits where
  text : Str
  plain : text.all isDecimalDigit = true

inductive Host where
  | absent
  | name (text : Str) (filled : text ≠ [])
      (plain : ∀ ch ∈ text, ch ≠ ':' ∧ ch ≠ '[' ∧ ch ≠ ']' ∧ ch ≠ '"' ∧ ch ≠ '\\')
  | literal (text : Str) (filled : text ≠ [])
      (plain : ∀ ch ∈ text, ch ≠ '[' ∧ ch ≠ ']' ∧ ch ≠ '"' ∧ ch ≠ '\\')

/-- The authority of an h3 alternative. -/
structure Endpoint where
  host : Host
  port : Digits
  filled : port.text ≠ []
  inRange : decimalOf port.text < 2 ^ 16

inductive Value where
  | token (token : Token)
  | quoted (quoted : Quoted)

inductive Directive where
  | maxAge (name : Token) (isMa : name.text.eqIgnoreAsciiCase "ma".toList = true)
      (seconds : Digits) (inQuotes : Bool)
  | other (name : Token) (notMa : name.text.eqIgnoreAsciiCase "ma".toList = false) (value : Value)

/-- A directive, with the blanks on both sides of its semicolon. -/
structure Parameter where
  before : Blanks
  after : Blanks
  directive : Directive

inductive Alternative where
  | h3 (endpoint : Endpoint) (parameters : List Parameter)
  | other (protocol : Token) (notH3 : protocol.text ≠ "h3".toList) (authority : Quoted)
      (parameters : List Parameter)

/-- A list element, which may be empty, with the blanks around it. -/
structure Element where
  before : Blanks
  after : Blanks
  alternative : Option Alternative

def inQuotes (inside : Str) : Str := '"' :: inside ++ ['"']

def Host.text : Host → Str
  | .absent => []
  | .name text _ _ => text
  | .literal text _ _ => '[' :: text ++ [']']

def Endpoint.text (endpoint : Endpoint) : Str :=
  endpoint.host.text ++ ':' :: endpoint.port.text

def Value.text : Value → Str
  | .token name => name.text
  | .quoted string => inQuotes string.inside

def Directive.text : Directive → Str
  | .maxAge name _ seconds quotes =>
    name.text ++ '=' :: (if quotes then inQuotes seconds.text else seconds.text)
  | .other name _ value => name.text ++ '=' :: value.text

def parametersText : List Parameter → Str
  | [] => []
  | parameter :: rest =>
    parameter.before.text ++
      ';' :: (parameter.after.text ++ parameter.directive.text ++ parametersText rest)

def Alternative.text : Alternative → Str
  | .h3 endpoint parameters =>
    "h3".toList ++ '=' :: (inQuotes endpoint.text ++ parametersText parameters)
  | .other protocol _ authority parameters =>
    protocol.text ++ '=' :: (inQuotes authority.inside ++ parametersText parameters)

/-- An empty element is its blanks. -/
def Element.core (element : Element) : Str := element.alternative.elim [] Alternative.text

def Element.text (element : Element) : Str :=
  element.before.text ++ element.core ++ element.after.text

def listText : List Element → Str
  | [] => []
  | [element] => element.text
  | element :: rest => element.text ++ ',' :: listText rest

/-- The host without brackets. -/
def Host.denotes : Host → Option Str
  | .absent => none
  | .name text _ _ => some text
  | .literal text _ _ => some text

def Endpoint.portNumber (endpoint : Endpoint) : UInt16 := .ofNat (decimalOf endpoint.port.text)

/-- The seconds of a `ma` whose value fits in a u64. -/
def Parameter.seconds? (parameter : Parameter) : Option UInt64 :=
  match parameter.directive with
  | .maxAge _ _ seconds _ =>
    if seconds.text ≠ [] ∧ decimalOf seconds.text < 2 ^ 64 then
      some (.ofNat (decimalOf seconds.text))
    else none
  | .other _ _ _ => none

/-- The last usable `ma`, else 24 hours. -/
def maxAge (parameters : List Parameter) : Duration :=
  match (parameters.filterMap Parameter.seconds?).getLast? with
  | some seconds => Duration.fromSecs seconds
  | none => Duration.fromSecs (24 * 60 * 60)

def Alternative.h3? : Alternative → Option (Endpoint × List Parameter)
  | .h3 endpoint parameters => some (endpoint, parameters)
  | .other _ _ _ _ => none

/-- The first alternative whose token is h3. -/
def firstH3 (elements : List Element) : Option (Endpoint × List Parameter) :=
  elements.findSome? fun element => element.alternative.bind Alternative.h3?

theorem token_ne {ch bad : Char} (token : isTokenChar ch = true)
    (not_token : isTokenChar bad = false) : ch ≠ bad := by
  rintro rfl
  rw [token] at not_token
  cases not_token

theorem token_not_whitespace {ch : Char} (token : isTokenChar ch = true) :
    isWhitespace ch = false := by
  have symbols : ∀ ch ∈ "!#$%&'*+-.^_`|~".toList, isWhitespace ch = false :=
    Str.forall_of_all (by decide)
  unfold isTokenChar isHeaderNameChar at token
  simp only [Bool.or_eq_true, Bool.and_eq_true, decide_eq_true_eq] at token
  rcases token with letter | (letter | digit) | symbol
  · simp [isWhitespace]
    omega
  · simp [isWhitespace]
    omega
  · simp [isWhitespace]
    omega
  · exact symbols ch (List.contains_iff_mem.mp symbol)

theorem digit_range {ch : Char} (digit : isDecimalDigit ch = true) :
    48 ≤ ch.toNat ∧ ch.toNat ≤ 57 := of_decide_eq_true digit

theorem digit_not_whitespace {ch : Char} (digit : isDecimalDigit ch = true) :
    isWhitespace ch = false := by
  have range := digit_range digit
  simp [isWhitespace]
  omega

theorem digit_ne {ch bad : Char} (digit : isDecimalDigit ch = true)
    (not_digit : isDecimalDigit bad = false) : ch ≠ bad := by
  rintro rfl
  rw [digit] at not_digit
  cases not_digit

theorem Blanks.whitespace (blanks : Blanks) : ∀ ch ∈ blanks.text, isWhitespace ch = true := by
  intro ch mem
  rcases blanks.plain ch mem with rfl | rfl
  · decide
  · decide

section Inert

variable {separator : Char}

theorem Blanks.inert (blanks : Blanks) (noSpace : separator ≠ ' ') (noTab : separator ≠ '\t') :
    Inert separator blanks.text := by
  refine Inert.of_plain fun ch mem => ?_
  rcases blanks.plain ch mem with rfl | rfl
  · exact ⟨by decide, noSpace.symm⟩
  · exact ⟨by decide, noTab.symm⟩

theorem Token.inert (token : Token) (noToken : isTokenChar separator = false) :
    Inert separator token.text :=
  Inert.of_plain fun ch mem =>
    ⟨token_ne (token.plain ch mem) (by decide), token_ne (token.plain ch mem) noToken⟩

theorem Digits.inert (digits : Digits) (noDigit : isDecimalDigit separator = false) :
    Inert separator digits.text :=
  Inert.of_plain fun ch mem =>
    have digit := List.all_eq_true.mp digits.plain ch mem
    ⟨digit_ne digit (by decide), digit_ne digit noDigit⟩

theorem inQuotes_inert {inside : Str} (plain : '"' ∉ inside) : Inert separator (inQuotes inside) :=
  Inert.quoted plain

theorem Quoted.no_quote (quoted : Quoted) : '"' ∉ quoted.inside :=
  fun mem => (quoted.plain _ mem).1 rfl

theorem Digits.no_quote (digits : Digits) : '"' ∉ digits.text := by
  intro mem
  exact digit_ne (List.all_eq_true.mp digits.plain _ mem) (by decide) rfl

theorem Endpoint.no_quote (endpoint : Endpoint) : '"' ∉ endpoint.text := by
  intro mem
  rcases List.mem_append.mp mem with host | port
  · unfold Host.text at host
    split at host
    · simp at host
    · rename_i text filled plain _
      exact (plain _ host).2.2.2.1 rfl
    · rename_i text filled plain _
      have inside : '"' ∈ text := by simpa using host
      exact (plain _ inside).2.2.1 rfl
  · have digit : '"' ∈ endpoint.port.text := by simpa using port
    exact endpoint.port.no_quote digit

/-- A separator that no part of a directive contains outside quotes. -/
structure Neutral (separator : Char) : Prop where
  token : isTokenChar separator = false
  digit : isDecimalDigit separator = false
  equals : separator ≠ '='
  quote : separator ≠ '"'
  space : separator ≠ ' '
  tab : separator ≠ '\t'

theorem neutral_comma : Neutral ',' := by constructor <;> decide

theorem neutral_semicolon : Neutral ';' := by constructor <;> decide

variable (neutral : Neutral separator)
include neutral

theorem equals_inert : Inert separator ['='] :=
  Inert.of_plain fun ch mem => by
    rw [List.mem_singleton.mp mem]
    exact ⟨by decide, neutral.equals.symm⟩

theorem Directive.inert (directive : Directive) : Inert separator directive.text := by
  cases directive with
  | maxAge name isMa seconds quotes =>
    have value : Inert separator (if quotes then inQuotes seconds.text else seconds.text) := by
      cases quotes with
      | true => exact inQuotes_inert seconds.no_quote
      | false => exact seconds.inert neutral.digit
    exact (name.inert neutral.token).append ((equals_inert neutral).append value)
  | other name notMa value =>
    have valueInert : Inert separator value.text := by
      cases value with
      | token token => exact token.inert neutral.token
      | quoted quoted => exact inQuotes_inert quoted.no_quote
    exact (name.inert neutral.token).append ((equals_inert neutral).append valueInert)

end Inert

/-- The parameters after a part: all of it is passed over by a split at commas. -/
theorem parametersText_inert (parameters : List Parameter) :
    Inert ',' (parametersText parameters) := by
  induction parameters with
  | nil => exact Inert.nil
  | cons parameter rest ih =>
    have semicolon : Inert ',' [';'] := Inert.of_plain (Str.forall_of_all (by decide))
    have before : Inert ',' parameter.before.text := parameter.before.inert (by decide) (by decide)
    have after : Inert ',' parameter.after.text := parameter.after.inert (by decide) (by decide)
    have directive := Directive.inert neutral_comma parameter.directive
    exact before.append (semicolon.append ((after.append directive).append ih))

theorem Alternative.inert (alternative : Alternative) : Inert ',' alternative.text := by
  have equals := equals_inert neutral_comma
  cases alternative with
  | h3 endpoint parameters =>
    have protocol : Inert ',' "h3".toList :=
      Inert.of_plain (Str.forall_of_all (by decide))
    exact protocol.append (equals.append
      ((inQuotes_inert endpoint.no_quote).append (parametersText_inert parameters)))
  | other protocol notH3 authority parameters =>
    exact (protocol.inert neutral_comma.token).append (equals.append
      ((inQuotes_inert authority.no_quote).append (parametersText_inert parameters)))

theorem Element.inert (element : Element) : Inert ',' element.text := by
  have before : Inert ',' element.before.text := element.before.inert (by decide) (by decide)
  have after : Inert ',' element.after.text := element.after.inert (by decide) (by decide)
  have core : Inert ',' element.core := by
    unfold Element.core
    cases element.alternative with
    | none => exact Inert.nil
    | some alternative => exact alternative.inert
  exact (before.append core).append after

/-- Splitting a list at its commas gives back its elements. -/
theorem pieces_listText (element : Element) (rest : List Element) :
    (pieces ',' false (listText (element :: rest))).1 ::
        (pieces ',' false (listText (element :: rest))).2 =
      (element :: rest).map Element.text := by
  induction rest generalizing element with
  | nil => simp [listText, element.inert.whole]
  | cons next rest ih =>
    have cut := element.inert.before_separator (by decide) (listText (next :: rest))
    simp only [listText] at cut ⊢
    rw [cut, List.map_cons, ← ih next]

/-- The blanks between a part and the semicolon after it. -/
def leadingBlanks : List Parameter → Str
  | [] => []
  | parameter :: _ => parameter.before.text

/-- The parameters as a split at semicolons sees them. -/
def parameterPieces : List Parameter → List Str
  | [] => []
  | parameter :: rest =>
    (parameter.after.text ++ parameter.directive.text ++ leadingBlanks rest) ::
      parameterPieces rest

theorem pieces_parametersText {part : Str} (inert : Inert ';' part) (parameters : List Parameter) :
    pieces ';' false (part ++ parametersText parameters) =
      (part ++ leadingBlanks parameters, parameterPieces parameters) := by
  induction parameters generalizing part with
  | nil => simpa [parametersText, leadingBlanks, parameterPieces] using inert.whole
  | cons parameter rest ih =>
    have before : Inert ';' parameter.before.text := parameter.before.inert (by decide) (by decide)
    have after : Inert ';' parameter.after.text := parameter.after.inert (by decide) (by decide)
    have directive := Directive.inert neutral_semicolon parameter.directive
    have cut := (inert.append before).before_separator (by decide)
      (parameter.after.text ++ parameter.directive.text ++ parametersText rest)
    rw [ih (after.append directive)] at cut
    simp only [parametersText, leadingBlanks, parameterPieces]
    rw [← List.append_assoc]
    exact cut

/-- The text begins and ends with a character that is no whitespace. -/
def Bare (s : Str) : Prop :=
  (∃ ch rest, s = ch :: rest ∧ isWhitespace ch = false) ∧
    ∃ rest ch, s = rest ++ [ch] ∧ isWhitespace ch = false

theorem Bare.trim {s : Str} (bare : Bare s) : s.trim = s := by
  obtain ⟨⟨first, rest, startsWith, firstBare⟩, ⟨rest', last, endsWith, lastBare⟩⟩ := bare
  refine Str.trimMatches_bare ?_ ?_
  · rw [startsWith]
    simpa using firstBare
  · rw [endsWith]
    simpa using lastBare

theorem Bare.trim_blanks {s before after : Str} (bare : Bare s)
    (first : ∀ ch ∈ before, isWhitespace ch = true) (last : ∀ ch ∈ after, isWhitespace ch = true) :
    Str.trim (before ++ s ++ after) = s :=
  (Str.trimMatches_append first last s).trans bare.trim

theorem Bare.trim_later {s later : Str} (bare : Bare s)
    (last : ∀ ch ∈ later, isWhitespace ch = true) : Str.trim (s ++ later) = s := by
  have first : ∀ ch ∈ ([] : Str), isWhitespace ch = true := nofun
  exact bare.trim_blanks first last

/-- A beginning that ends well and an end that does. -/
theorem Bare.join {s t : Str} (bare : Bare s) (middle : Str) (bare' : Bare t) :
    Bare (s ++ middle ++ t) := by
  obtain ⟨⟨first, rest, startsWith, firstBare⟩, -⟩ := bare
  obtain ⟨-, ⟨rest', last, endsWith, lastBare⟩⟩ := bare'
  refine ⟨⟨first, rest ++ middle ++ t, ?_, firstBare⟩, ⟨s ++ middle ++ rest', last, ?_, lastBare⟩⟩
  · simp [startsWith]
  · simp [endsWith]

theorem Bare.join_equals {s t : Str} (bare : Bare s) (bare' : Bare t) : Bare (s ++ '=' :: t) := by
  simpa using bare.join ['='] bare'

theorem bare_of_all {s : Str} (filled : s ≠ []) (plain : ∀ ch ∈ s, isWhitespace ch = false) :
    Bare s := by
  constructor
  · cases s with
    | nil => exact absurd rfl filled
    | cons ch rest => exact ⟨ch, rest, rfl, plain ch List.mem_cons_self⟩
  · have split := List.dropLast_append_getLast filled
    exact ⟨_, _, split.symm, plain _ (List.getLast_mem filled)⟩

theorem Token.bare (token : Token) : Bare token.text :=
  bare_of_all token.filled fun ch mem => token_not_whitespace (token.plain ch mem)

theorem inQuotes_bare (inside : Str) : Bare (inQuotes inside) :=
  ⟨⟨'"', inside ++ ['"'], rfl, by decide⟩, ⟨'"' :: inside, '"', rfl, by decide⟩⟩

theorem equals_bare : Bare ['='] := ⟨⟨'=', [], rfl, by decide⟩, ⟨[], '=', rfl, by decide⟩⟩

theorem Directive.bare (directive : Directive) : Bare directive.text := by
  cases directive with
  | maxAge name isMa seconds quotes =>
    cases quotes with
    | true => exact name.bare.join_equals (inQuotes_bare _)
    | false =>
      by_cases filled : seconds.text = []
      · have text : (Directive.maxAge name isMa seconds false).text = name.text ++ [] ++ ['='] := by
          simp [Directive.text, filled]
        rw [text]
        exact name.bare.join [] equals_bare
      · exact name.bare.join_equals (bare_of_all filled fun ch mem =>
          digit_not_whitespace (List.all_eq_true.mp seconds.plain ch mem))
  | other name notMa value =>
    cases value with
    | token token => exact name.bare.join_equals token.bare
    | quoted quoted => exact name.bare.join_equals (inQuotes_bare _)

theorem parametersText_bare {part : Str} (bare : Bare part) (parameters : List Parameter) :
    Bare (part ++ parametersText parameters) := by
  induction parameters generalizing part with
  | nil => simpa [parametersText] using bare
  | cons parameter rest ih =>
    have longer := ih (bare.join (parameter.before.text ++ ';' :: parameter.after.text)
      parameter.directive.bare)
    simpa [parametersText] using longer

theorem Alternative.bare (alternative : Alternative) : Bare alternative.text := by
  cases alternative with
  | h3 endpoint parameters =>
    have protocol : Bare "h3".toList := bare_of_all (by decide) (Str.forall_of_all (by decide))
    simpa [Alternative.text] using
      parametersText_bare (protocol.join ['='] (inQuotes_bare endpoint.text)) parameters
  | other protocol notH3 authority parameters =>
    simpa [Alternative.text] using
      parametersText_bare (protocol.bare.join ['='] (inQuotes_bare authority.inside)) parameters

theorem Element.trim (element : Element) : element.text.trim = element.core := by
  cases present : element.alternative with
  | some alternative =>
    have core : element.core = alternative.text := by simp [Element.core, present]
    rw [core, Element.text, core]
    exact alternative.bare.trim_blanks element.before.whitespace element.after.whitespace
  | none =>
    have core : element.core = [] := by simp [Element.core, present]
    rw [core, Element.text, core]
    exact Str.trimMatches_append element.before.whitespace element.after.whitespace []

theorem strip_inQuotes (inside : Str) :
    (Str.stripPrefix '"' (inQuotes inside)).bind (Str.stripSuffix '"') = some inside := by
  rw [Str.stripPrefix_eq_some.mpr (show inQuotes inside = '"' :: (inside ++ ['"']) from rfl)]
  exact Str.stripSuffix_eq_some.mpr rfl

theorem Endpoint.parsePort (endpoint : Endpoint) :
    endpoint.port.text.parseU16 = some endpoint.portNumber := by
  have number := Str.parseUnsigned_eq_some.mpr
    ⟨endpoint.port.text, .inl rfl, endpoint.filled, endpoint.port.plain, rfl, endpoint.inRange⟩
  unfold Str.parseU16
  rw [number]
  rfl

theorem Endpoint.splitPort (endpoint : Endpoint) :
    Str.rsplitOnce ':' endpoint.text = some (endpoint.host.text, endpoint.port.text) :=
  Str.rsplitOnce_eq_some.mpr ⟨rfl, fun mem =>
    digit_ne (List.all_eq_true.mp endpoint.port.plain _ mem) (by decide) rfl⟩

/-- Trimming brackets only takes those of a literal. -/
theorem Host.trim_brackets (host : Host) :
    host.text.trimMatches (fun ch => ch == '[' || ch == ']') = host.denotes.getD [] := by
  cases host with
  | absent => rfl
  | name text filled plain =>
    refine Str.trimMatches_bare ?_ ?_
    · intro ch first
      have kept := plain ch (List.mem_of_head? first)
      simp [kept.2.1, kept.2.2.1]
    · intro ch last
      have kept := plain ch (List.mem_of_getLast? last)
      simp [kept.2.1, kept.2.2.1]
  | literal text filled plain =>
    have inner : text.trimMatches (fun ch => ch == '[' || ch == ']') = text := by
      refine Str.trimMatches_bare ?_ ?_
      · intro ch first
        have kept := plain ch (List.mem_of_head? first)
        simp [kept.1, kept.2.1]
      · intro ch last
        have kept := plain ch (List.mem_of_getLast? last)
        simp [kept.1, kept.2.1]
    have opening : ∀ ch ∈ ['['], (ch == '[' || ch == ']') = true := Str.forall_of_all (by decide)
    have closing : ∀ ch ∈ [']'], (ch == '[' || ch == ']') = true := Str.forall_of_all (by decide)
    exact (Str.trimMatches_append opening closing text).trans inner

theorem parseAuthority_endpoint (endpoint : Endpoint) (originPort : UInt16) :
    parseAuthority (inQuotes endpoint.text) originPort =
      some (endpoint.host.denotes, endpoint.portNumber) := by
  have port := endpoint.parsePort
  have split := endpoint.splitPort
  have brackets := endpoint.host.trim_brackets
  unfold parseAuthority
  rw [strip_inQuotes]
  cases found : endpoint.host with
  | absent =>
    have text : endpoint.text = ':' :: endpoint.port.text := by
      simp [Endpoint.text, found, Host.text]
    simp [text, Str.stripPrefix, port, Host.denotes]
  | name text filled plain =>
    have noColon : Str.stripPrefix ':' endpoint.text = none := by
      cases text with
      | nil => exact absurd rfl filled
      | cons ch rest =>
        simp [Endpoint.text, found, Host.text, Str.stripPrefix, (plain ch List.mem_cons_self).1]
    simp only [found, Host.text, Host.denotes, Option.getD_some] at split brackets
    simp only [noColon, split, brackets, if_neg filled, port, Option.getD_some, Host.denotes]
  | literal text filled plain =>
    have noColon : Str.stripPrefix ':' endpoint.text = none := by
      simp [Endpoint.text, found, Host.text, Str.stripPrefix]
    simp only [found, Host.text, Host.denotes, Option.getD_some] at split brackets
    simp only [noColon, split, brackets, if_neg filled, port, Option.getD_some, Host.denotes]

theorem leadingBlanks_whitespace (parameters : List Parameter) :
    ∀ ch ∈ leadingBlanks parameters, isWhitespace ch = true := by
  cases parameters with
  | nil => nofun
  | cons parameter rest => exact parameter.before.whitespace

theorem Token.no_equals (token : Token) : '=' ∉ token.text :=
  fun mem => token_ne (token.plain _ mem) (by decide) rfl

/-- Without its blanks and quotes the value of a `ma` is its digits. -/
theorem digits_of_value (seconds : Digits) (quotes : Bool) :
    ((if quotes then inQuotes seconds.text else seconds.text).trim).trimMatches (· == '"') =
      seconds.text := by
  have noQuotes : seconds.text.trimMatches (· == '"') = seconds.text := by
    refine Str.trimMatches_bare ?_ ?_
    · intro ch first
      have digit := List.all_eq_true.mp seconds.plain ch (List.mem_of_head? first)
      simpa using digit_ne digit (by decide)
    · intro ch last
      have digit := List.all_eq_true.mp seconds.plain ch (List.mem_of_getLast? last)
      simpa using digit_ne digit (by decide)
  cases quotes with
  | true =>
    simp only [if_true, (inQuotes_bare seconds.text).trim]
    have quote : ∀ ch ∈ ['"'], (ch == '"') = true := Str.forall_of_all (by decide)
    exact (Str.trimMatches_append quote quote seconds.text).trans noQuotes
  | false =>
    have bare : seconds.text.trim = seconds.text := by
      refine Str.trimMatches_bare ?_ ?_
      · exact fun ch first => digit_not_whitespace
          (List.all_eq_true.mp seconds.plain ch (List.mem_of_head? first))
      · exact fun ch last => digit_not_whitespace
          (List.all_eq_true.mp seconds.plain ch (List.mem_of_getLast? last))
    simp only [Bool.false_eq_true, if_false, bare, noQuotes]

theorem parseU64_digits (digits : Digits) :
    digits.text.parseU64 =
      if digits.text ≠ [] ∧ decimalOf digits.text < 2 ^ 64 then
        some (.ofNat (decimalOf digits.text))
      else none := by
  unfold Str.parseU64
  split
  · rename_i usable
    rw [Str.parseUnsigned_eq_some.mpr
      ⟨digits.text, .inl rfl, usable.1, digits.plain, rfl, usable.2⟩]
    rfl
  · rename_i unusable
    cases parsed : digits.text.parseUnsigned 64 with
    | none => rfl
    | some value =>
      obtain ⟨digits', same, filled, all, rfl, fits⟩ := Str.parseUnsigned_eq_some.mp parsed
      rcases same with same | same
      · rw [same] at unusable
        exact absurd ⟨filled, fits⟩ unusable
      · have sign := List.all_eq_true.mp digits.plain '+' (by simp [same])
        cases sign

/-- The parameter loop finds the last usable `ma`, and keeps what it has if there
is none. -/
theorem maxAgeOf_parameterPieces (parameters : List Parameter) : ∀ maxAge : Duration,
    maxAgeOf maxAge (parameterPieces parameters) =
      match (parameters.filterMap Parameter.seconds?).getLast? with
      | some seconds => Duration.fromSecs seconds
      | none => maxAge := by
  induction parameters with
  | nil => exact fun maxAge => rfl
  | cons parameter rest ih =>
    intro maxAge
    have part : Str.trim (parameter.after.text ++ parameter.directive.text ++ leadingBlanks rest) =
        parameter.directive.text :=
      parameter.directive.bare.trim_blanks parameter.after.whitespace
        (leadingBlanks_whitespace rest)
    simp only [parameterPieces, maxAgeOf, part]
    cases found : parameter.directive with
    | other name notMa value =>
      have split : Str.splitOnce '=' (name.text ++ '=' :: value.text) =
          some (name.text, value.text) := Str.splitOnce_eq_some.mpr ⟨rfl, name.no_equals⟩
      have none_here : parameter.seconds? = none := by simp [Parameter.seconds?, found]
      simp only [Directive.text, split, name.bare.trim, notMa, Bool.false_eq_true, if_false,
        List.filterMap_cons, none_here, ih]
    | maxAge name isMa seconds quotes =>
      have split := Str.splitOnce_eq_some.mpr
        ⟨show (Directive.maxAge name isMa seconds quotes).text = _ from rfl, name.no_equals⟩
      have here : parameter.seconds? = seconds.text.parseU64 := by
        simp only [Parameter.seconds?, found, parseU64_digits]
      simp only [split, name.bare.trim, isMa, if_true, digits_of_value, List.filterMap_cons, here]
      cases seconds.text.parseU64 with
      | none => exact ih maxAge
      | some value =>
        simp only [ih, List.getLast?_cons]
        cases (rest.filterMap Parameter.seconds?).getLast? with
        | none => rfl
        | some later => rfl

theorem offerOf_alternative (alternative : Alternative) (originPort : UInt16) :
    offerOf alternative.text originPort =
      alternative.h3?.map fun h3 => ⟨h3.1.host.denotes, h3.1.portNumber, maxAge h3.2⟩ := by
  cases alternative with
  | h3 endpoint parameters =>
    have split : Str.splitOnce '=' (Alternative.h3 endpoint parameters).text =
        some ("h3".toList, inQuotes endpoint.text ++ parametersText parameters) :=
      Str.splitOnce_eq_some.mpr ⟨rfl, by decide⟩
    have protocol : Str.trim "h3".toList = "h3".toList := by decide
    have authority : Str.trim (inQuotes endpoint.text ++ leadingBlanks parameters) =
        inQuotes endpoint.text :=
      (inQuotes_bare endpoint.text).trim_later (leadingBlanks_whitespace parameters)
    have ages := maxAgeOf_parameterPieces parameters defaultMaxAge
    simp only [offerOf, split, protocol, ne_eq, not_true_eq_false, if_false,
      pieces_parametersText (inQuotes_inert endpoint.no_quote), authority,
      parseAuthority_endpoint, Option.map_some, Alternative.h3?, ages]
    rfl
  | other protocol notH3 authority parameters =>
    have split := Str.splitOnce_eq_some.mpr
      ⟨show (Alternative.other protocol notH3 authority parameters).text = _ from rfl,
        protocol.no_equals⟩
    simp only [offerOf, split, protocol.bare.trim, ne_eq, notH3, not_false_eq_true, if_true,
      Alternative.h3?, Option.map_none]

theorem offerOf_element (element : Element) (originPort : UInt16) :
    offerOf element.text.trim originPort =
      (element.alternative.bind Alternative.h3?).map fun h3 =>
        ⟨h3.1.host.denotes, h3.1.portNumber, maxAge h3.2⟩ := by
  rw [element.trim]
  unfold Element.core
  cases element.alternative with
  | none => rfl
  | some alternative => exact offerOf_alternative alternative originPort

theorem acceptedOffer_listText (elements : List Element) (originPort : UInt16) :
    acceptedOffer (listText elements) originPort =
      (firstH3 elements).map fun h3 => ⟨h3.1.host.denotes, h3.1.portNumber, maxAge h3.2⟩ := by
  unfold acceptedOffer firstH3
  cases elements with
  | nil => rfl
  | cons element rest =>
    rw [pieces_listText, List.findSome?_map, List.map_findSome?]
    congr 1
    funext element
    exact offerOf_element element originPort

/-- A list contains an equals sign, or nothing but blanks and commas. -/
theorem listText_characters (elements : List Element) :
    '=' ∈ listText elements ∨ ∀ ch ∈ listText elements, ch = ' ' ∨ ch = '\t' ∨ ch = ',' := by
  have one : ∀ element : Element,
      '=' ∈ element.text ∨ ∀ ch ∈ element.text, ch = ' ' ∨ ch = '\t' ∨ ch = ',' := by
    intro element
    unfold Element.text Element.core
    cases element.alternative with
    | some alternative =>
      have equals : '=' ∈ alternative.text := by
        cases alternative with
        | h3 endpoint parameters => simp [Alternative.text]
        | other protocol notH3 authority parameters => simp [Alternative.text]
      exact .inl (by simp [equals])
    | none =>
      refine .inr fun ch mem => ?_
      simp only [Option.elim_none, List.append_nil, List.mem_append] at mem
      rcases mem with mem | mem
      · exact (element.before.plain ch mem).imp_right .inl
      · exact (element.after.plain ch mem).imp_right .inl
  induction elements with
  | nil => exact .inr nofun
  | cons element rest ih =>
    cases rest with
    | nil => exact one element
    | cons next rest =>
      simp only [listText, List.mem_append, List.mem_cons]
      rcases one element with equals | blank
      · exact .inl (.inl equals)
      · rcases ih with equals | blank'
        · exact .inl (.inr (.inr equals))
        · refine .inr ?_
          rintro ch (mem | rfl | mem)
          · exact blank ch mem
          · exact .inr (.inr rfl)
          · exact blank' ch mem

theorem listText_not_clear (elements : List Element) :
    (listText elements).trim.eqIgnoreAsciiCase "clear".toList = false := by
  refine decide_eq_false fun same => ?_
  rcases listText_characters elements with equals | blank
  · have kept := Str.mem_trimMatches (p := isWhitespace) equals (by decide)
    have listed : '=' ∈ (listText elements).trim.map toAsciiLowercase :=
      List.mem_map.mpr ⟨'=', kept, by decide⟩
    rw [same] at listed
    revert listed
    decide
  · have letter : 'c' ∈ (listText elements).trim.map toAsciiLowercase := by
      rw [same]
      decide
    obtain ⟨ch, mem, lower⟩ := List.mem_map.mp letter
    obtain ⟨before, later, split, -, -⟩ := Str.trimMatches_split isWhitespace (listText elements)
    have inside : ch ∈ listText elements := by
      rw [split]
      exact List.mem_append_left _ (List.mem_append_right _ mem)
    rcases blank ch inside with rfl | rfl | rfl
    · revert lower
      decide
    · revert lower
      decide
    · revert lower
      decide

/-- Of a well-formed list the parser reads the first h3 alternative: its host
without brackets, its port, and the expiry that its last usable `ma` asks for. -/
theorem wellFormed_list_read (elements : List Element) (now : Instant) (originPort : UInt16) :
    parseStr (listText elements) now originPort =
      match firstH3 elements with
      | none => .ok .none
      | some (endpoint, parameters) =>
        match now.checkedAdd (maxAge parameters) with
        | some expiresAt => .ok (.entry ⟨endpoint.host.denotes, endpoint.portNumber, expiresAt⟩)
        | none => .error .instantOverflow := by
  rw [parseStr_eq, listText_not_clear, acceptedOffer_listText]
  cases firstH3 elements with
  | none => rfl
  | some h3 =>
    simp only [Bool.false_eq_true, if_false, Option.map_some, outcomeAt]
    cases now.checkedAdd (maxAge h3.2) with
    | none => rfl
    | some expiresAt => rfl

end Grammar

end MechanicsHttpClient.Guarantees
