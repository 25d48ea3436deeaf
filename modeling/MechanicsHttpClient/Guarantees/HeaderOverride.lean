import MechanicsHttpClient.Guarantees.Footprint

/-!
# Default headers and request headers

The documentation of `ClientBuilder` says that per-request headers override the
defaults name by name. `send` appends both (src/request.rs:189-196), so the
promise holds for exactly those requests that share no name with the defaults.
-/

namespace MechanicsHttpClient.Guarantees

open MechanicsHttpClient.Runtime
open MechanicsHttpClient.Source

/-- What the double loop of `send` makes of the two maps. -/
theorem getAll_mergeHeaders (defaultHeaders headers : HeaderMap) (name : HeaderName) :
    (mergeHeaders defaultHeaders headers).getAll name =
      defaultHeaders.getAll name ++ headers.getAll name := by
  unfold mergeHeaders
  rw [HeaderMap.getAll_appendAll, HeaderMap.getAll_appendAll, HeaderMap.pairedWith_iter,
    HeaderMap.pairedWith_iter, HeaderMap.getAll_empty, List.nil_append]

/-- The values a name should have on the wire. -/
def overridden (defaultHeaders headers : HeaderMap) (name : HeaderName) : List HeaderValue :=
  if headers.containsKey name then headers.getAll name else defaultHeaders.getAll name

theorem getAll_mergeHeaders_eq_overridden_iff (defaultHeaders headers : HeaderMap)
    (name : HeaderName) :
    (mergeHeaders defaultHeaders headers).getAll name = overridden defaultHeaders headers name ↔
      ¬ (defaultHeaders.containsKey name = true ∧ headers.containsKey name = true) := by
  rw [getAll_mergeHeaders]
  unfold overridden
  by_cases own : headers.containsKey name = true
  · rw [if_pos own, HeaderMap.containsKey_iff]
    simp [own]
  · have absent : headers.getAll name = [] := by
      by_contra present
      exact own ((HeaderMap.containsKey_iff headers name).mpr present)
    rw [if_neg own, absent]
    simp [own]

/-- The headers of a request as it is handed to hyper or put on an h3 stream. -/
def handedOver : Label sig → Option HeaderMap
  | .issue (.hyperRequest request) => some request.headers
  | .issue (.sendRequest request) => some request.headers
  | _ => none

theorem handedOver_eq {builder : RequestBuilder} {label : Label sig} {headers : HeaderMap}
    (listed : (sendFootprint builder).Has label) (sent : handedOver label = some headers) :
    headers = mergeHeaders builder.client.defaultHeaders builder.headers := by
  unfold handedOver at sent
  split at sent
  · cases sent
    exact (listed.2.resolve_left id).2.2.1
  · cases sent
    exact (listed.2.resolve_right id).2.2.2
  · cases sent

/-- On either transport, in any run: the request's headers override the
defaults if and only if no name is set on both sides. -/
theorem headers_override_iff_disjoint {client : Client} {pace : Pace} {clock : Nat}
    {shared : SharedState} {w : World (sends client)}
    (reached : Reachable pace (.start clock shared) w) {i : Nat} {task : Task (sends client)}
    (found : w.tasks[i]? = some task) {e : Entry sig} (logged : e ∈ w.logOf i)
    {headers : HeaderMap} (sent : handedOver e.label = some headers) :
    (∀ name, headers.getAll name =
        overridden client.defaultHeaders task.job.val.headers name) ↔
      ∀ name, ¬ (client.defaultHeaders.containsKey name = true ∧
        task.job.val.headers.containsKey name = true) := by
  have merged := handedOver_eq (run_footprint reached found e logged) sent
  rw [task.job.property] at merged
  subst merged
  simp only [getAll_mergeHeaders_eq_overridden_iff]

namespace Example

def defaultAgent : HeaderValue := ⟨"default".toList.flatMap String.utf8EncodeChar, by decide⟩

def ownAgent : HeaderValue := ⟨"own".toList.flatMap String.utf8EncodeChar, by decide⟩

def agentClient : Client :=
  { client with defaultHeaders := HeaderMap.empty.insert HeaderName.userAgent defaultAgent }

def httpUri : Uri := ⟨some "http".toList, some "o.example".toList, none, "/".toList⟩

def agentBuilder : RequestBuilder :=
  (RequestBuilder.new agentClient .get "http://o.example/".toList (.ok httpUri)).apply
    (.header (some HeaderName.userAgent) (some ownAgent))

def agentRequest : Request RequestBody :=
  ⟨.get, httpUri, (HeaderMap.empty.append HeaderName.userAgent defaultAgent).append
    HeaderName.userAgent ownAgent, .empty⟩

/-- One send over TCP, up to hyper. -/
def agentRun : List (Event (sends agentClient)) :=
  .spawn ⟨agentBuilder, rfl⟩ :: performs 0 [.issue (.hyperRequest agentRequest)]

end Example

theorem agentRun_reaches :
    ∃ (w : World (sends Example.agentClient)) (task : Task (sends Example.agentClient)),
    Reachable .strict (.start 0 SharedState.new) w ∧ w.tasks[0]? = some task ∧
      task.job.val = Example.agentBuilder ∧
      w.logOf 0 = [⟨0, 0, .issue (.hyperRequest Example.agentRequest)⟩] := by
  have ran : ((World.start 0 SharedState.new).run .strict Example.agentRun).map
      (fun w => (w.tasks[0]?.map fun task => task.job, w.logOf 0)) =
      some (some ⟨Example.agentBuilder, rfl⟩,
        [⟨0, 0, .issue (.hyperRequest Example.agentRequest)⟩]) := rfl
  obtain ⟨w, reached, seen⟩ := Option.map_eq_some_iff.mp ran
  obtain ⟨spawned, log⟩ := Prod.mk.inj seen
  obtain ⟨task, found, job⟩ := Option.map_eq_some_iff.mp spawned
  exact ⟨w, task, .of_run _ .refl reached, found, congrArg Subtype.val job, log⟩

theorem headers_override_iff_disjoint_agent :
    (∀ name, Example.agentRequest.headers.getAll name = overridden
        Example.agentClient.defaultHeaders Example.agentBuilder.headers name) ↔
      ∀ name, ¬ (Example.agentClient.defaultHeaders.containsKey name = true ∧
        Example.agentBuilder.headers.containsKey name = true) := by
  obtain ⟨w, task, reached, found, job, log⟩ := agentRun_reaches
  rw [← job]
  exact headers_override_iff_disjoint reached found (by rw [log]; exact List.mem_cons_self) rfl

/-- A default User-Agent travels together with the request's own. -/
theorem default_userAgent_not_overridden :
    ClientBuilder.build ⟨.ok (), .ok ()⟩ (ClientBuilder.new.apply
        (.userAgent (some Example.defaultAgent))) = .ok Example.agentClient ∧
    Example.agentBuilder.deferredError = none ∧
    ∃ (w : World (sends Example.agentClient)) (task : Task (sends Example.agentClient)),
      Reachable .strict (.start 0 SharedState.new) w ∧ w.tasks[0]? = some task ∧
      task.job.val = Example.agentBuilder ∧
      ∃ e ∈ w.logOf 0, ∃ headers, handedOver e.label = some headers ∧
        ¬ ∀ name, headers.getAll name = overridden
          Example.agentClient.defaultHeaders Example.agentBuilder.headers name := by
  refine ⟨rfl, rfl, ?_⟩
  obtain ⟨w, task, reached, found, job, log⟩ := agentRun_reaches
  refine ⟨w, task, reached, found, job, ⟨0, 0, .issue (.hyperRequest Example.agentRequest)⟩,
    by rw [log]; exact List.mem_cons_self, Example.agentRequest.headers, rfl, ?_⟩
  intro overrides
  have agents := overrides HeaderName.userAgent
  revert agents
  decide

end MechanicsHttpClient.Guarantees
