import MechanicsHttpClient.Source.Request

/-!
# The class of a transport error

src/request.rs:528-542 and src/error.rs:26-35. `map_legacy_error` looks for words
in the one line that hyper-util's error displays. That line has the name of the
error's kind and none of its sources, so the class is that of the name.
-/

namespace MechanicsHttpClient.Guarantees

open MechanicsHttpClient.Source

/-- An error of hyper-util's legacy client: its kind, and the chain of its sources. -/
structure TransportError (κ σ : Type) where
  kind : κ
  sources : List σ

/-- What is known of these errors: how the kinds are called, which are failures to
establish the connection and which to keep it, and which sources are failures of
TLS or of a certificate. -/
structure TransportErrors (κ σ : Type) where
  name : κ → Str
  connecting : κ → Bool
  keeping : κ → Bool
  tls : σ → Bool
  connect : ∀ kind, connecting kind = true → name kind = "Connect".toList

inductive ErrorClass where
  | unreachable | tls | internal | other
  deriving DecidableEq

def classOf : Error → ErrorClass
  | .unreachable _ => .unreachable
  | .tls _ => .tls
  | .internal _ => .internal
  | _ => .other

namespace TransportErrors

variable {κ σ : Type}

/-- `Display` of the error. -/
def shown (errors : TransportErrors κ σ) (err : TransportError κ σ) : LegacyError :=
  ⟨"client error (".toList ++ errors.name err.kind ++ ")".toList⟩

/-- The class that src/error.rs documents for the error. -/
def documented (errors : TransportErrors κ σ) (err : TransportError κ σ) : ErrorClass :=
  if errors.connecting err.kind then
    if err.sources.any errors.tls then .tls else .unreachable
  else if errors.keeping err.kind then .unreachable
  else .internal

end TransportErrors

def unreachableWords : List Str := ["connect".toList, "dns".toList]

def tlsWords : List Str := ["certificate".toList, "tls".toList, "TLS".toList]

def mentions (message : Str) (words : List Str) : Bool := words.any message.contains

/-- A message with `connection` in it has `connect` in it. -/
theorem contains_connection {message : Str}
    (found : message.contains "connection".toList = true) :
    message.contains "connect".toList = true := by
  have within : "connect".toList <:+: "connection".toList := ⟨[], "ion".toList, rfl⟩
  simp only [Str.contains, decide_eq_true_eq] at found ⊢
  exact within.trans found

theorem classOf_mapLegacyError (err : LegacyError) :
    classOf (mapLegacyError err) =
      if mentions err.display unreachableWords then .unreachable
      else if mentions err.display tlsWords then .tls
      else .internal := by
  have first : (err.display.contains "connection".toList ∨ err.display.contains "connect".toList ∨
      err.display.contains "dns".toList) ↔ mentions err.display unreachableWords = true := by
    simp only [mentions, unreachableWords, List.any_cons, List.any_nil, Bool.or_false,
      Bool.or_eq_true]
    constructor
    · rintro (connection | rest)
      · exact .inl (contains_connection connection)
      · exact rest
    · exact .inr
  have second : (err.display.contains "certificate".toList ∨ err.display.contains "tls".toList ∨
      err.display.contains "TLS".toList) ↔ mentions err.display tlsWords = true := by
    simp [mentions, tlsWords]
  unfold mapLegacyError
  simp only [first, second]
  split
  · rfl
  · split <;> rfl

section Shown

variable {κ σ : Type} (errors : TransportErrors κ σ) (err : TransportError κ σ)

/-- What stands around the name has none of the words in it. -/
theorem shown_contains {word : Str} (opens : '(' ∉ word) (closes : ')' ∉ word)
    (before : Str.contains "client error ".toList word = false) (proper : word ≠ []) :
    (errors.shown err).display.contains word = (errors.name err.kind).contains word := by
  have opening : "client error (".toList = "client error ".toList ++ ['('] := by decide
  have closing : ")".toList = [')'] := by decide
  have parts : ∀ before name : Str,
      before ++ ['('] ++ name ++ [')'] = before ++ '(' :: (name ++ ')' :: []) := by simp
  have whole : (errors.shown err).display =
      "client error ".toList ++ '(' :: (errors.name err.kind ++ ')' :: []) := by
    unfold TransportErrors.shown
    rw [opening, closing]
    exact parts _ _
  have nothing : Str.contains [] word = false := by
    simp [Str.contains, List.infix_nil, proper]
  rw [whole, Str.contains_separated opens, Str.contains_separated closes, before, nothing]
  simp

theorem shown_mentions {words : List Str} (plain : ∀ word ∈ words, '(' ∉ word ∧ ')' ∉ word ∧
      Str.contains "client error ".toList word = false ∧ word ≠ []) :
    mentions (errors.shown err).display words = mentions (errors.name err.kind) words := by
  unfold mentions
  rw [Bool.eq_iff_iff, List.any_eq_true, List.any_eq_true]
  have same : ∀ word ∈ words, (errors.shown err).display.contains word =
      (errors.name err.kind).contains word := by
    intro word listed
    obtain ⟨opens, closes, before, proper⟩ := plain word listed
    exact shown_contains errors err opens closes before proper
  constructor
  · rintro ⟨word, listed, found⟩
    exact ⟨word, listed, by rwa [← same word listed]⟩
  · rintro ⟨word, listed, found⟩
    exact ⟨word, listed, by rwa [same word listed]⟩

theorem classOf_shown :
    classOf (mapLegacyError (errors.shown err)) =
      if mentions (errors.name err.kind) unreachableWords then .unreachable
      else if mentions (errors.name err.kind) tlsWords then .tls
      else .internal := by
  rw [classOf_mapLegacyError, shown_mentions errors err (by decide),
    shown_mentions errors err (by decide)]

/-- `Connect` has a capital letter, so none of the words is found in it. -/
theorem classOf_connecting (connecting : errors.connecting err.kind = true) :
    classOf (mapLegacyError (errors.shown err)) = .internal := by
  have unread : mentions "Connect".toList unreachableWords = false ∧
      mentions "Connect".toList tlsWords = false := by decide
  rw [classOf_shown, errors.connect err.kind connecting, unread.1, unread.2]
  rfl

end Shown

/-- The class of an error depends on the name of its kind alone. It is the
documented one if and only if the error is no failure to connect, and its name
has `connect` or `dns` in it if the connection was lost, and none of the words
otherwise. -/
theorem legacy_error_class_iff {κ σ : Type} (errors : TransportErrors κ σ)
    (err : TransportError κ σ) :
    (∀ sources, classOf (mapLegacyError (errors.shown ⟨err.kind, sources⟩)) =
      classOf (mapLegacyError (errors.shown err))) ∧
    (classOf (mapLegacyError (errors.shown err)) = errors.documented err ↔
      errors.connecting err.kind = false ∧
      if errors.keeping err.kind then mentions (errors.name err.kind) unreachableWords = true
      else mentions (errors.name err.kind) (unreachableWords ++ tlsWords) = false) := by
  refine ⟨fun _ => rfl, ?_⟩
  unfold TransportErrors.documented
  cases connecting : errors.connecting err.kind with
  | true =>
    have missed := classOf_connecting errors err connecting
    constructor
    · intro same
      rw [missed, if_pos rfl] at same
      split at same <;> cases same
    · exact fun impossible => absurd impossible.1 (by decide)
  | false =>
    rw [classOf_shown]
    cases errors.keeping err.kind with
    | true =>
      cases mentions (errors.name err.kind) unreachableWords with
      | true => simp
      | false => cases mentions (errors.name err.kind) tlsWords <;> simp
    | false =>
      have both : mentions (errors.name err.kind) (unreachableWords ++ tlsWords) =
          (mentions (errors.name err.kind) unreachableWords ||
            mentions (errors.name err.kind) tlsWords) := List.any_append
      rw [both]
      cases mentions (errors.name err.kind) unreachableWords <;>
        cases mentions (errors.name err.kind) tlsWords <;> simp

namespace Example

/-- The kinds of hyper-util. -/
inductive Kind where
  | canceled | channelClosed | connect | userUnsupportedRequestMethod | userUnsupportedVersion
  | userAbsoluteUriRequired | sendRequest
  deriving DecidableEq

def Kind.name : Kind → Str
  | .canceled => "Canceled".toList
  | .channelClosed => "ChannelClosed".toList
  | .connect => "Connect".toList
  | .userUnsupportedRequestMethod => "UserUnsupportedRequestMethod".toList
  | .userUnsupportedVersion => "UserUnsupportedVersion".toList
  | .userAbsoluteUriRequired => "UserAbsoluteUriRequired".toList
  | .sendRequest => "SendRequest".toList

def transportErrors : TransportErrors Kind Str where
  name := Kind.name
  connecting kind := kind == .connect
  keeping kind := kind == .canceled || kind == .channelClosed || kind == .sendRequest
  tls source := source.contains "certificate".toList
  connect := by
    intro kind connecting
    rw [eq_of_beq connecting]
    rfl

end Example

/-- A connection that is lost is internal, as a request that cannot be sent is. -/
theorem legacy_error_class_iff_lost :
    classOf (mapLegacyError (Example.transportErrors.shown ⟨.sendRequest, []⟩)) ≠
      Example.transportErrors.documented ⟨.sendRequest, []⟩ ∧
    classOf (mapLegacyError (Example.transportErrors.shown ⟨.userUnsupportedVersion, []⟩)) =
      Example.transportErrors.documented ⟨.userUnsupportedVersion, []⟩ := by
  constructor
  · intro same
    have named := ((legacy_error_class_iff Example.transportErrors ⟨.sendRequest, []⟩).2.mp same).2
    exact absurd named (by decide)
  · exact (legacy_error_class_iff Example.transportErrors ⟨.userUnsupportedVersion, []⟩).2.mpr
      (by decide)

/-- Refused, or with a certificate that is not accepted: the error is internal. -/
theorem connect_error_internal :
    classOf (mapLegacyError (Example.transportErrors.shown
      ⟨.connect, ["tcp connect error".toList, "Connection refused (os error 111)".toList]⟩)) =
        .internal ∧
    Example.transportErrors.documented
      ⟨.connect, ["tcp connect error".toList, "Connection refused (os error 111)".toList]⟩ =
        .unreachable ∧
    classOf (mapLegacyError (Example.transportErrors.shown
      ⟨.connect, ["invalid peer certificate: UnknownIssuer".toList]⟩)) = .internal ∧
    Example.transportErrors.documented
      ⟨.connect, ["invalid peer certificate: UnknownIssuer".toList]⟩ = .tls := by
  decide

end MechanicsHttpClient.Guarantees
