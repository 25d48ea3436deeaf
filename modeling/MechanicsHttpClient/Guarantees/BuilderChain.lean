import MechanicsHttpClient.Data.CallChain
import MechanicsHttpClient.Source.Request
import Mathlib.Tactic.Common

/-!
# Chains of builder calls

src/request.rs:95-173 and src/client.rs:229-275. What each call of the two builders
changes, and what a whole chain makes of a builder. Each part of a builder is
followed through the chain by the lemmas of `Data.CallChain`; only Content-Type,
which `json` supplies where it finds none, needs an induction of its own.
-/

namespace MechanicsHttpClient.Guarantees

open MechanicsHttpClient.Data
open MechanicsHttpClient.Runtime
open MechanicsHttpClient.Source

theorem getOrInsert_eq (deferred : Option Error) (err : Error) :
    getOrInsert deferred err = deferred.or (some err) := by
  cases deferred <;> rfl

def bearerValue (token : Str) : Option HeaderValue :=
  HeaderValue.fromStr ("Bearer ".toList ++ token)

def headerError (name : Option HeaderName) (value : Option HeaderValue) : Option Error :=
  match name, value with
  | none, _ => some (.invalidHeader "header name rejected".toList)
  | some name, none =>
    some (.invalidHeader ("header `".toList ++ name.text ++ "` value rejected".toList))
  | some _, some _ => none

/-- The error of a call that fails. -/
def callError : RequestBuilder.Call → Option Error
  | .header name value => headerError name value
  | .bearerAuth token => headerError (some HeaderName.authorization) (bearerValue token)
  | .json (.error e) => some (.serializeJson e)
  | _ => none

/-- The header of a header call that succeeds. -/
def callHeader : RequestBuilder.Call → Option (HeaderName × HeaderValue)
  | .header (some name) (some value) => some (name, value)
  | .bearerAuth token => (bearerValue token).map fun value => (HeaderName.authorization, value)
  | _ => none

def callPayload : RequestBuilder.Call → Option RequestPayload
  | .body bytes => some (.replayable bytes)
  | .bodyStreaming body => some (.streaming (.streaming body))
  | .json (.ok bytes) => some (.replayable bytes)
  | _ => none

def callTimeout : RequestBuilder.Call → Option Duration
  | .timeout d => some d
  | _ => none

section Call

variable (builder : RequestBuilder) (call : RequestBuilder.Call)

/-- What one call can do: report an error and nothing else, or change one part
of the builder; only `json` may change two. -/
theorem apply_cases :
    (∃ err, callError call = some err ∧ callHeader call = none ∧ callPayload call = none ∧
      callTimeout call = none ∧
      builder.apply call = { builder with deferredError := getOrInsert builder.deferredError err }) ∨
    (∃ name value, callError call = none ∧ callHeader call = some (name, value) ∧
      callPayload call = none ∧ callTimeout call = none ∧
      builder.apply call = { builder with headers := builder.headers.append name value }) ∨
    (∃ d, callError call = none ∧ callHeader call = none ∧ callPayload call = none ∧
      callTimeout call = some d ∧ builder.apply call = { builder with timeout := some d }) ∨
    (∃ payload, callError call = none ∧ callHeader call = none ∧
      callPayload call = some payload ∧ callTimeout call = none ∧
      (builder.apply call = { builder with body := payload } ∨ ∃ bytes, call = .json (.ok bytes) ∧
        builder.apply call = { builder with
          body := payload
          headers :=
            if builder.headers.containsKey HeaderName.contentType then builder.headers
            else builder.headers.insert HeaderName.contentType RequestBuilder.applicationJson })) := by
  cases call with
  | header name value =>
    cases name with
    | none => exact .inl ⟨_, rfl, rfl, rfl, rfl, rfl⟩
    | some name =>
      cases value with
      | none => exact .inl ⟨_, rfl, rfl, rfl, rfl, rfl⟩
      | some value => exact .inr (.inl ⟨name, value, rfl, rfl, rfl, rfl, rfl⟩)
  | bearerAuth token =>
    cases accepted : bearerValue token with
    | none =>
      have rejected : HeaderValue.fromStr ("Bearer ".toList ++ token) = none := accepted
      left
      refine ⟨_, congrArg (headerError _) accepted, ?_, rfl, rfl, ?_⟩
      · simp [callHeader, accepted]
      · simp only [RequestBuilder.apply, RequestBuilder.header, rejected]
    | some value =>
      have valid : HeaderValue.fromStr ("Bearer ".toList ++ token) = some value := accepted
      right
      left
      refine ⟨HeaderName.authorization, value, congrArg (headerError _) accepted, ?_, rfl, rfl, ?_⟩
      · simp [callHeader, accepted]
      · simp only [RequestBuilder.apply, RequestBuilder.header, valid]
  | timeout d => exact .inr (.inr (.inl ⟨d, rfl, rfl, rfl, rfl, rfl⟩))
  | body bytes => exact .inr (.inr (.inr ⟨_, rfl, rfl, rfl, rfl, .inl rfl⟩))
  | bodyStreaming body => exact .inr (.inr (.inr ⟨_, rfl, rfl, rfl, rfl, .inl rfl⟩))
  | json serialised =>
    cases serialised with
    | error e => exact .inl ⟨_, rfl, rfl, rfl, rfl, rfl⟩
    | ok bytes => exact .inr (.inr (.inr ⟨_, rfl, rfl, rfl, rfl, .inr ⟨bytes, rfl, rfl⟩⟩))

theorem apply_deferredError :
    (builder.apply call).deferredError = builder.deferredError.or (callError call) := by
  rcases apply_cases builder call with ⟨err, error, -, -, -, same⟩ |
    ⟨name, value, error, -, -, -, same⟩ | ⟨d, error, -, -, -, same⟩ |
    ⟨payload, error, -, -, -, same | ⟨bytes, -, same⟩⟩
  · rw [same, error]
    exact getOrInsert_eq _ err
  all_goals rw [same, error, Option.or_none]

theorem apply_timeout : (builder.apply call).timeout = (callTimeout call).or builder.timeout := by
  rcases apply_cases builder call with ⟨err, -, -, -, timeout, same⟩ |
    ⟨name, value, -, -, -, timeout, same⟩ | ⟨d, -, -, -, timeout, same⟩ |
    ⟨payload, -, -, -, timeout, same | ⟨bytes, -, same⟩⟩
  all_goals
    rw [same, timeout]
    rfl

theorem apply_body :
    some (builder.apply call).body = (callPayload call).or (some builder.body) := by
  rcases apply_cases builder call with ⟨err, -, -, payload, -, same⟩ |
    ⟨name, value, -, -, payload, -, same⟩ | ⟨d, -, -, payload, -, same⟩ |
    ⟨body, -, -, payload, -, same | ⟨bytes, -, same⟩⟩
  all_goals
    rw [same, payload]
    rfl

/-- What no call touches. -/
theorem apply_rest :
    (builder.apply call).client = builder.client ∧ (builder.apply call).method = builder.method ∧
      (builder.apply call).uri = builder.uri := by
  rcases apply_cases builder call with ⟨err, -, -, -, -, same⟩ |
    ⟨name, value, -, -, -, -, same⟩ | ⟨d, -, -, -, -, same⟩ |
    ⟨body, -, -, -, -, same | ⟨bytes, -, same⟩⟩
  all_goals
    rw [same]
    exact ⟨rfl, rfl, rfl⟩

/-- A header call adds its header, any other call none; what `json` supplies is
left out here. -/
theorem apply_headers (name : HeaderName)
    (own : name ≠ HeaderName.contentType ∨ ∀ bytes, call ≠ .json (.ok bytes)) :
    (builder.apply call).headers.getAll name =
      builder.headers.getAll name ++ HeaderMap.pairedWith name (callHeader call).toList := by
  rcases apply_cases builder call with ⟨err, -, header, -, -, same⟩ |
    ⟨added, value, -, header, -, -, same⟩ | ⟨d, -, header, -, -, same⟩ |
    ⟨payload, -, header, -, -, same | ⟨bytes, isJson, same⟩⟩
  · simp [same, header, HeaderMap.pairedWith]
  · rw [same, header, HeaderMap.getAll_append]
    by_cases here : added = name
    · simp [here, HeaderMap.pairedWith]
    · simp [here, HeaderMap.pairedWith]
  · simp [same, header, HeaderMap.pairedWith]
  · simp [same, header, HeaderMap.pairedWith]
  · have other : HeaderName.contentType ≠ name := by
      rcases own with different | noJson
      · exact different.symm
      · exact absurd isJson (noJson bytes)
    rw [same, header]
    simp only [Option.toList_none, HeaderMap.pairedWith, List.filterMap_nil, List.append_nil]
    split
    · rfl
    · rw [HeaderMap.getAll_insert, if_neg other]

end Call

/-- A builder after a chain of calls. -/
def configured (start : RequestBuilder) (calls : List RequestBuilder.Call) : RequestBuilder :=
  calls.foldl RequestBuilder.apply start

/-- The values that the header calls give to a name, in order. -/
def valuesFor (name : HeaderName) (calls : List RequestBuilder.Call) : List HeaderValue :=
  calls.flatMap fun call => HeaderMap.pairedWith name (callHeader call).toList

/-- Some successful `json` call finds no Content-Type. -/
def SuppliesType (start : RequestBuilder) (calls : List RequestBuilder.Call) : Prop :=
  ∃ before bytes later, calls = before ++ .json (.ok bytes) :: later ∧
    (configured start before).headers.containsKey HeaderName.contentType = false

/-- The settings a chain asks for. -/
structure Configures (start : RequestBuilder) (calls : List RequestBuilder.Call)
    (builder : RequestBuilder) : Prop where
  payload : builder.body = ((calls.filterMap callPayload).getLast?).getD start.body
  timeout : builder.timeout = ((calls.filterMap callTimeout).getLast?).or start.timeout
  headers : ∀ name, name ≠ HeaderName.contentType →
    builder.headers.getAll name = valuesFor name calls
  supplied : SuppliesType start calls → builder.headers.getAll HeaderName.contentType =
    RequestBuilder.applicationJson :: valuesFor HeaderName.contentType calls
  unsupplied : ¬ SuppliesType start calls → builder.headers.getAll HeaderName.contentType =
    valuesFor HeaderName.contentType calls

section Chain

variable {start : RequestBuilder}

theorem configured_append (calls : List RequestBuilder.Call) (call : RequestBuilder.Call) :
    configured start (calls ++ [call]) = (configured start calls).apply call := by
  simp [configured]

theorem valuesFor_append (name : HeaderName) (calls : List RequestBuilder.Call)
    (call : RequestBuilder.Call) :
    valuesFor name (calls ++ [call]) =
      valuesFor name calls ++ HeaderMap.pairedWith name (callHeader call).toList := by
  simp [valuesFor]

theorem configured_deferredError (start : RequestBuilder) (calls : List RequestBuilder.Call) :
    (configured start calls).deferredError =
      start.deferredError.or (calls.findSome? callError) :=
  foldl_earliest apply_deferredError calls start

theorem configured_rest (start : RequestBuilder) (calls : List RequestBuilder.Call) :
    (configured start calls).client = start.client ∧
      (configured start calls).uri = start.uri := by
  induction calls using List.reverseRecOn with
  | nil => exact ⟨rfl, rfl⟩
  | append_singleton calls call ih =>
    obtain ⟨client, -, uri⟩ := apply_rest (configured start calls) call
    rw [configured_append, client, uri]
    exact ih

theorem suppliesType_append (calls : List RequestBuilder.Call) (call : RequestBuilder.Call) :
    SuppliesType start (calls ++ [call]) ↔ SuppliesType start calls ∨
      ∃ bytes, call = .json (.ok bytes) ∧
        (configured start calls).headers.containsKey HeaderName.contentType = false := by
  constructor
  · rintro ⟨before, bytes, later, split, absent⟩
    rcases List.eq_nil_or_concat later with rfl | ⟨later, last, rfl⟩
    · obtain ⟨same, isJson⟩ := List.append_inj' split rfl
      cases isJson
      exact .inr ⟨bytes, rfl, same ▸ absent⟩
    · rw [List.concat_eq_append, ← List.cons_append, ← List.append_assoc] at split
      obtain ⟨same, -⟩ := List.append_inj' split rfl
      exact .inl ⟨before, bytes, later, same, absent⟩
  · rintro (⟨before, bytes, later, rfl, absent⟩ | ⟨bytes, rfl, absent⟩)
    · exact ⟨before, bytes, later ++ [call], by simp, absent⟩
    · exact ⟨calls, bytes, [], rfl, absent⟩

/-- Induction on the chain: once a `json` call has supplied the type, the map has
one, and no later call can supply it again. -/
theorem configured_contentType (empty : start.headers.getAll HeaderName.contentType = [])
    (calls : List RequestBuilder.Call) :
    (SuppliesType start calls →
      (configured start calls).headers.getAll HeaderName.contentType =
        RequestBuilder.applicationJson :: valuesFor HeaderName.contentType calls) ∧
    (¬ SuppliesType start calls →
      (configured start calls).headers.getAll HeaderName.contentType =
        valuesFor HeaderName.contentType calls) := by
  induction calls using List.reverseRecOn with
  | nil =>
    refine ⟨?_, fun _ => empty⟩
    rintro ⟨before, bytes, later, split, -⟩
    simp at split
  | append_singleton calls call ih =>
    obtain ⟨supplied, unsupplied⟩ := ih
    rw [suppliesType_append, configured_append, valuesFor_append]
    by_cases isJson : ∃ bytes, call = .json (.ok bytes)
    · obtain ⟨bytes, rfl⟩ := isJson
      have noHeader : HeaderMap.pairedWith HeaderName.contentType
          (callHeader (.json (.ok bytes))).toList = [] := rfl
      rw [noHeader, List.append_nil]
      cases present : (configured start calls).headers.containsKey HeaderName.contentType with
      | true =>
        have same : ((configured start calls).apply (.json (.ok bytes))).headers =
            (configured start calls).headers := by
          simp only [RequestBuilder.apply, present, if_true]
        simp only [same, Bool.true_eq_false, and_false, exists_false, or_false]
        exact ⟨supplied, unsupplied⟩
      | false =>
        have absent : (configured start calls).headers.getAll HeaderName.contentType = [] := by
          by_contra there
          rw [(HeaderMap.containsKey_iff _ _).mpr there] at present
          cases present
        have never : ¬ SuppliesType start calls := by
          intro supplies
          have there := supplied supplies
          rw [absent] at there
          cases there
        have nothing := unsupplied never
        rw [absent] at nothing
        refine ⟨fun _ => ?_, fun no => absurd (.inr ⟨bytes, rfl, rfl⟩) no⟩
        simp only [RequestBuilder.apply, present, Bool.false_eq_true, if_false]
        rw [HeaderMap.getAll_insert, if_pos rfl, ← nothing]
    · have added := apply_headers (configured start calls) call HeaderName.contentType
        (.inr fun bytes same => isJson ⟨bytes, same⟩)
      have still : (SuppliesType start calls ∨ ∃ bytes, call = .json (.ok bytes) ∧
          (configured start calls).headers.containsKey HeaderName.contentType = false) ↔
          SuppliesType start calls :=
        or_iff_left fun supplies => isJson ⟨supplies.choose, supplies.choose_spec.1⟩
      rw [still, added]
      refine ⟨fun supplies => ?_, fun never => ?_⟩
      · rw [supplied supplies, List.cons_append]
      · rw [unsupplied never]

theorem configured_configures (empty : start.headers = HeaderMap.empty)
    (calls : List RequestBuilder.Call) : Configures start calls (configured start calls) := by
  have type := configured_contentType (by rw [empty]; rfl) calls
  refine ⟨?_, foldl_latest apply_timeout calls start, ?_, type.1, type.2⟩
  · have last : some (configured start calls).body =
        ((calls.filterMap callPayload).getLast?).or (some start.body) :=
      @foldl_latest _ _ _ _ (fun builder => some builder.body) callPayload apply_body calls start
    rw [Option.or_some] at last
    exact Option.some.inj last
  · intro name other
    have gathered : (configured start calls).headers.getAll name =
        start.headers.getAll name ++ valuesFor name calls :=
      @foldl_gathered _ _ _ _ (fun builder => builder.headers.getAll name) _
        (fun builder call => apply_headers builder call name (.inl other)) calls start
    rw [gathered, empty]
    rfl

end Chain

/-- A client builder after a chain of calls. -/
def clientConfigured (calls : List ClientBuilder.Call) : ClientBuilder :=
  calls.foldl ClientBuilder.apply ClientBuilder.new

/-- The error of a call that fails. -/
def defaultsError : ClientBuilder.Call → Option Error
  | .userAgent none => some (.invalidHeader "User-Agent value rejected".toList)
  | .defaultHeader none _ => some (.invalidHeader "default header name rejected".toList)
  | .defaultHeader (some name) none =>
    some (.invalidHeader ("default header `".toList ++ name.text ++ "` value rejected".toList))
  | _ => none

/-- The value of a `user_agent` call that succeeds. -/
def callAgent : ClientBuilder.Call → Option HeaderValue
  | .userAgent value => value
  | _ => none

def isAgentCall : ClientBuilder.Call → Bool
  | .userAgent _ => true
  | _ => false

/-- The defaults that the other calls of a chain leave. -/
def otherDefaults (calls : List ClientBuilder.Call) : HeaderMap :=
  (clientConfigured (calls.filter fun call => !isAgentCall call)).defaultHeaders

/-- What `build` makes of a chain. -/
structure BuiltFrom (calls : List ClientBuilder.Call) : Prop where
  failed : ∀ err, calls.findSome? defaultsError = some err →
    ∀ setup, (clientConfigured calls).build setup = .error err
  built : calls.findSome? defaultsError = none → ∀ setup,
    (∃ client, (clientConfigured calls).build setup = .ok client) ↔
      setup.protocolVersions = .ok () ∧ setup.resolver = .ok ()
  defaults : ∀ setup client, (clientConfigured calls).build setup = .ok client →
    ∀ name, client.defaultHeaders.getAll name =
      if name = HeaderName.userAgent then
        (((calls.filterMap callAgent).getLast?).map fun ua => [ua]).getD
          ((otherDefaults calls).getAll name)
      else (otherDefaults calls).getAll name

section Build

theorem apply_invalidDefaultHeader (builder : ClientBuilder) (call : ClientBuilder.Call) :
    (builder.apply call).invalidDefaultHeader =
      builder.invalidDefaultHeader.or (defaultsError call) := by
  cases call with
  | userAgent ua =>
    cases ua with
    | none => exact getOrInsert_eq _ _
    | some value => exact (Option.or_none).symm
  | defaultHeader name value =>
    cases name with
    | none => exact getOrInsert_eq _ _
    | some name =>
      cases value with
      | none => exact getOrInsert_eq _ _
      | some value => exact (Option.or_none).symm
  | _ => exact (Option.or_none).symm

theorem apply_userAgent (builder : ClientBuilder) (call : ClientBuilder.Call) :
    (builder.apply call).userAgent = (callAgent call).or builder.userAgent := by
  cases call with
  | userAgent ua => cases ua <;> rfl
  | defaultHeader name value =>
    cases name with
    | none => rfl
    | some name => cases value <;> rfl
  | _ => rfl

/-- The default headers do not depend on the rest of the builder, and a
`user_agent` call leaves them alone. -/
theorem apply_defaultHeaders (builder other : ClientBuilder) (call : ClientBuilder.Call)
    (same : builder.defaultHeaders = other.defaultHeaders) :
    (builder.apply call).defaultHeaders =
      if isAgentCall call then builder.defaultHeaders else (other.apply call).defaultHeaders := by
  cases call with
  | userAgent ua => cases ua <;> rfl
  | defaultHeader name value =>
    cases name with
    | none => exact same
    | some name =>
      cases value with
      | none => exact same
      | some value => exact congrArg (fun headers => headers.insert name value) same
  | defaultHeaders headers => rfl
  | _ => exact same

theorem clientConfigured_defaultHeaders (calls : List ClientBuilder.Call) :
    (clientConfigured calls).defaultHeaders = otherDefaults calls := by
  induction calls using List.reverseRecOn with
  | nil => rfl
  | append_singleton calls call ih =>
    have whole : clientConfigured (calls ++ [call]) = (clientConfigured calls).apply call := by
      simp [clientConfigured]
    rw [whole, apply_defaultHeaders _ _ call ih]
    unfold otherDefaults at ih ⊢
    cases agent : isAgentCall call with
    | true => simpa [agent] using ih
    | false => simp [agent, clientConfigured]

theorem clientConfigured_builtFrom (calls : List ClientBuilder.Call) : BuiltFrom calls := by
  have invalid : (clientConfigured calls).invalidDefaultHeader = calls.findSome? defaultsError :=
    foldl_earliest apply_invalidDefaultHeader calls ClientBuilder.new
  have agent : (clientConfigured calls).userAgent = (calls.filterMap callAgent).getLast? :=
    (foldl_latest apply_userAgent calls ClientBuilder.new).trans Option.or_none
  have others := clientConfigured_defaultHeaders calls
  refine ⟨?_, ?_, ?_⟩
  · intro err failing setup
    unfold ClientBuilder.build
    rw [invalid, failing]
  · intro fine setup
    unfold ClientBuilder.build ClientBuilder.webpkiRootsClientConfig
    rw [invalid, fine]
    cases tls : setup.protocolVersions with
    | error e => simp
    | ok _ => cases dns : setup.resolver <;> simp
  · intro setup client built name
    unfold ClientBuilder.build at built
    rw [invalid] at built
    cases failing : calls.findSome? defaultsError with
    | some err =>
      rw [failing] at built
      cases built
    | none =>
      rw [failing] at built
      dsimp only at built
      split at built
      · cases built
      · split at built
        · cases built
        · cases built
          dsimp only
          rw [agent, others]
          cases (calls.filterMap callAgent).getLast? with
          | none => simp
          | some ua =>
            simp only [HeaderMap.getAll_insert, Option.map_some, Option.getD_some]
            by_cases here : name = HeaderName.userAgent
            · simp [here]
            · simp [here, Ne.symm here]

end Build

end MechanicsHttpClient.Guarantees
