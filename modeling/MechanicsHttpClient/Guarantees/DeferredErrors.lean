import MechanicsHttpClient.Guarantees.BuilderChain
import MechanicsHttpClient.Guarantees.HeaderOverride
import MechanicsHttpClient.Guarantees.Phases

/-!
# Deferred configuration errors

src/request.rs:68-179 and src/client.rs:229-295. No chain method of the two
builders fails: the first error waits for `send` or `build`, which return it
before they do anything else. A send that is not rejected does what its builder
says.
-/

namespace MechanicsHttpClient.Guarantees

open MechanicsHttpClient.Data
open MechanicsHttpClient.Runtime
open MechanicsHttpClient.Source

/-- The errors of a wrong argument. -/
def Error.IsConfiguration : Error → Prop
  | .invalidUrl _ | .invalidHeader _ | .serializeJson _ => True
  | _ => False

/-- Why the URL is rejected. -/
def urlError (url : Str) (parsed : Except Str Uri) : Option Error :=
  match parsed with
  | .error e =>
    some (.invalidUrl ("could not parse `".toList ++ url ++ "`: ".toList ++ e))
  | .ok uri =>
    if uri.schemeStr = some "http".toList ∨ uri.schemeStr = some "https".toList then none
    else some (.invalidUrl ("unsupported scheme `".toList ++ uri.schemeStr.getD [] ++
      "` in `".toList ++ url ++ "`".toList))

/-- The error of the earliest failing call, or else that of the URL. -/
def earliestError (url : Str) (parsed : Except Str Uri) (calls : List RequestBuilder.Call) :
    Option Error :=
  (calls.findSome? callError).or (urlError url parsed)

section Error

variable {client : Client} {method : Method} {url : Str} {parsed : Except Str Uri}
  {calls : List RequestBuilder.Call}

theorem new_uri_rejected (err : Error) :
    (RequestBuilder.new client method url parsed).uri = .error err ↔
      urlError url parsed = some err := by
  cases parsed with
  | error e => simp [RequestBuilder.new, urlError]
  | ok uri =>
    cases known : uri.schemeStr with
    | none => simp [RequestBuilder.new, urlError, known]
    | some scheme =>
      simp only [RequestBuilder.new, urlError, known, Option.getD_some, Option.some.injEq]
      by_cases web : scheme = "http".toList ∨ scheme = "https".toList
      · rw [if_pos web, if_pos web]
        simp
      · rw [if_neg web, if_neg web, Except.error.injEq, Option.some.injEq]

theorem callError_isConfiguration {call : RequestBuilder.Call} {err : Error}
    (failing : callError call = some err) : Error.IsConfiguration err := by
  have header : ∀ name value, headerError name value = some err → Error.IsConfiguration err := by
    intro name value failed
    unfold headerError at failed
    split at failed <;> cases failed
    · exact True.intro
    · exact True.intro
  cases call with
  | header name value => exact header name value failing
  | bearerAuth token => exact header _ _ failing
  | json serialised =>
    cases serialised <;> cases failing
    exact True.intro
  | _ => cases failing

theorem earliestError_isConfiguration {err : Error}
    (failing : earliestError url parsed calls = some err) : Error.IsConfiguration err := by
  rcases Option.or_eq_some_iff.mp failing with called | ⟨-, rejected⟩
  · obtain ⟨call, -, failed⟩ := List.exists_of_findSome?_eq_some called
    exact callError_isConfiguration failed
  · unfold urlError at rejected
    split at rejected
    · cases rejected
      exact True.intro
    · split at rejected <;> cases rejected
      exact True.intro

/-- The builder that `send` is given holds that error in one of its two places. -/
theorem earliestError_eq_some (err : Error) :
    earliestError url parsed calls = some err ↔
      (configured (RequestBuilder.new client method url parsed) calls).deferredError = some err ∨
      ((configured (RequestBuilder.new client method url parsed) calls).deferredError = none ∧
        (configured (RequestBuilder.new client method url parsed) calls).uri = .error err) := by
  obtain ⟨-, uri⟩ := configured_rest (RequestBuilder.new client method url parsed) calls
  have deferred := configured_deferredError (RequestBuilder.new client method url parsed) calls
  have fresh : (RequestBuilder.new client method url parsed).deferredError = none := rfl
  rw [fresh, Option.none_or] at deferred
  rw [deferred, uri, new_uri_rejected, earliestError, Option.or_eq_some_iff]

end Error

/-- Checks that the request's timer is armed with its own timeout. -/
def settingsMonitor (builder : RequestBuilder) : Monitor sig Unit where
  next _ _ _ := ()
  assume _ _ _ := True
  check _ t label :=
    match label with
    | .arm .request deadline => ∃ d, builder.effectiveTimeout = some d ∧ deadline = t + d.nanos
    | _ => True
  rest _ _ := True

/-- Everything but the request's timer. -/
def untimed : Alphabet sig := ⟨fun _ => True, fun timer => timer ≠ .request, True⟩

theorem settingsMonitor_ignores (builder : RequestBuilder) :
    (settingsMonitor builder).IgnoresAll untimed := by
  intro s t label has
  cases label with
  | arm timer deadline =>
    cases timer with
    | request => exact absurd rfl has
    | _ => exact ⟨rfl, True.intro⟩
  | _ => exact ⟨rfl, True.intro⟩

theorem insideTryHttp3_untimed : insideTryHttp3.Within untimed :=
  ⟨fun _ _ => True.intro, fun _ timed => timed, id⟩

/-- No error of a send that has got past its checks is one of configuration. -/
def sendsWell : Post Unit (Except Error Response) where
  returned result _ _ := ∀ err, result = .error err → ¬ Error.IsConfiguration err
  panicked _ _ := True
  dropped _ _ := True

theorem mapLegacyError_notConfiguration (err : LegacyError) :
    ¬ Error.IsConfiguration (mapLegacyError err) := by
  unfold mapLegacyError
  dsimp only
  split
  · exact id
  · split
    · exact id
    · exact id

section Sends

variable {builder : RequestBuilder} {pace : Pace} {t : Nat} {s : Unit}

theorem sendsWell_error (t : Nat) (s : Unit) {err : Error} (other : ¬ Error.IsConfiguration err) :
    sendsWell.returned (.error err) t s := by
  intro found same
  cases same
  exact other

theorem sendsWell_ok (t : Nat) (s : Unit) {response : Response} :
    sendsWell.returned (.ok response) t s := by
  intro found same
  cases same

/-- `try_http3` returns no error at all. -/
theorem tryHttp3_settings {origin : Origin} {request : Request Unit} {body : Option Bytes} :
    (tryHttp3 builder.client origin request body).Sat (settingsMonitor builder) pace
      ⟨fun result _ _ => ∃ response, result = .ok response, fun _ _ => True, fun _ _ => True⟩
      t s := by
  let anywhere : Stages Unit := ⟨fun _ _ => True, fun _ _ _ _ => True, fun _ _ _ => True,
    fun _ _ => True, fun _ _ => True⟩
  have inside := (settingsMonitor_ignores builder).within insideTryHttp3_untimed
  have kept : ∀ now, anywhere.Kept (settingsMonitor builder) pace builder.client now := by
    intro now
    refine ⟨?_, ?_, fun _ _ _ _ _ _ => True.intro, ?_, ?_⟩
    · intro target request body attempt t s _
      refine Prog.Sat.of_uses inside _ (guardedAttempt_uses
        (insideTryHttp3_admitsRetry builder.client target request body) attempt)
        (fun _ _ => True.intro) ?_ (fun _ _ _ => True.intro) (fun _ _ => True.intro)
      intro result _ _
      cases result <;> exact True.intro
    · intro origin attempt err t s _ _
      exact Sync.Sat.of_uses inside _
        (insertNegative_uses True.intro True.intro True.intro) (fun _ _ _ => True.intro)
        (fun _ _ _ => True.intro)
    · intro origin t s _
      exact Prog.Sat.of_uses inside _
        (httpsRrEntry_uses True.intro True.intro (by simp [insideTryHttp3]) fun _ => True.intro)
        (fun _ _ => True.intro) (fun _ _ _ => True.intro) (fun _ _ _ => True.intro)
        (fun _ _ => True.intro)
    · exact fun _ _ _ _ _ _ _ _ => ⟨True.intro, True.intro⟩
  have walked : (tryHttp3 builder.client origin request body).Sat (settingsMonitor builder) pace
      anywhere.after t s := by
    apply Stages.tryHttp3
    intro t₁ _
    refine ⟨True.intro, fun s₁ _ t₂ now _ _ => ⟨True.intro, kept now, ?_⟩⟩
    intro s₂ _ t₃ hit _
    exact ⟨True.intro, fun s₃ _ => ⟨True.intro, fun _ _ _ => ⟨True.intro, True.intro⟩⟩⟩
  refine walked.mono ?_ (fun _ _ => id) fun _ _ => id
  intro result t s ended
  rcases result with err | found
  · exact ended.elim
  · exact ⟨found, rfl⟩

/-- The timer is armed as it should be, and otherwise not looked at. -/
theorem settingsMonitor_armed (builder : RequestBuilder) (d : Duration)
    (timed : builder.effectiveTimeout = some d) (s : Unit) (t : Nat) :
    (settingsMonitor builder).next s t (.arm .request (t + d.nanos)) = s ∧
      (settingsMonitor builder).check s t (.arm .request (t + d.nanos)) ∧
      (settingsMonitor builder).Ignores .request (t + d.nanos) :=
  ⟨rfl, ⟨d, timed, rfl⟩, fun _ _ _ => ⟨rfl, True.intro⟩⟩

theorem tcpPhase_settings (uri : Uri) (headers : HeaderMap) :
    (tcpPhase builder uri headers).Sat (settingsMonitor builder) pace sendsWell t s := by
  have ignores := settingsMonitor_ignores builder
  have sent : (suspend (.hyperRequest ⟨builder.method, uri, headers,
      builder.body.intoBody⟩)).Uses untimed := Prog.Uses.suspend True.intro
  have ended : ∀ result t s,
      AfterHyper (settingsMonitor builder) pace sendsWell uri result t s := by
    intro result t s
    rcases result with err | ⟨parts, incoming⟩
    · exact sendsWell_error t s (mapLegacyError_notConfiguration err)
    · exact Prog.Sat.of_uses ignores _
        (maybeUpdateAltSvc_uses True.intro (fun _ _ _ => True.intro) True.intro _)
        (fun _ _ => True.intro) (fun _ _ _ => sendsWell_ok t s) (fun _ _ _ => True.intro)
        (fun _ _ => True.intro)
  refine tcpPhase_armed (I := fun _ => True) (settingsMonitor_armed builder)
    (fun _ _ _ _ _ => True.intro) (fun _ _ _ _ => True.intro) ?_
  intro t' _
  exact Prog.Sat.of_uses ignores _ sent (fun _ _ => True.intro) (fun result t _ => ended result t s)
    (fun _ _ _ => True.intro) fun t _ => ⟨fun _ => sendsWell_error t s id, True.intro⟩

/-- A builder without an error sends: its timers are the timeout's, and it fails
for other reasons only. -/
theorem send_settings (fine : builder.deferredError = none) (valid : ∀ err, builder.uri ≠ .error err) :
    (send builder).Sat (settingsMonitor builder) pace sendsWell t s := by
  refine send_sat ?_ ?_
  · rintro err (deferred | rejected)
    · rw [fine] at deferred
      cases deferred
    · exact absurd rejected (valid err)
  · intro uri _ parsed
    have ended : ∀ found t s, AfterHttp3 (settingsMonitor builder) pace sendsWell builder uri
        (.ok found) t s := by
      intro found t s
      cases found with
      | none => exact tcpPhase_settings uri _
      | some response => exact sendsWell_ok t s
    refine http3Phase_sat parsed (fun _ => ended none _ _) ?_
    intro origin body _
    refine h3Result_armed (I := fun _ => True) (settingsMonitor_armed builder)
      (fun _ _ _ _ _ => True.intro) (fun _ _ _ _ => True.intro) ?_
    intro t' _
    refine h3Attempt_sat (tryHttp3_settings.mono ?_ (fun _ _ _ => True.intro) ?_)
    · rintro result t s ⟨found, rfl⟩ t₁ _
      exact ⟨True.intro, ended found t₁ _⟩
    · intro t s _
      refine ⟨fun _ => ?_, True.intro⟩
      apply Prog.Sat.perform_bind
      intro t₁ now _ _
      refine ⟨True.intro, Prog.Sat.bind _ (Prog.Sat.ofSync _ (insertNegative_ignored ?_
        (fun t _ => sendsWell_error t () id) fun _ _ => True.intro))⟩
      rintro s t label (⟨ans, rfl⟩ | ⟨ans, rfl⟩)
      · exact ⟨rfl, True.intro⟩
      · exact ⟨rfl, True.intro⟩

end Sends

/-- Under each name the values of the client's defaults, then those of the builder. -/
def MergedFrom (builder : RequestBuilder) (headers : HeaderMap) : Prop :=
  ∀ name, headers.getAll name =
    builder.client.defaultHeaders.getAll name ++ builder.headers.getAll name

theorem mergedFrom_sentHeaders (builder : RequestBuilder) :
    MergedFrom builder (sentHeaders builder) := fun name => getAll_mergeHeaders _ _ name

/-- What a task hands to a transport, and when it stops waiting for it, is made of
its builder. -/
def MadeOf (builder : RequestBuilder) (t : Nat) : Label sig → Prop
  | .issue (.hyperRequest request) =>
    IsHyperRequest builder request ∧ MergedFrom builder request.headers
  | .issue (.sendRequest request) =>
    CarriesRequest builder request ∧ MergedFrom builder request.headers
  | .issue (.sendData bytes) => builder.body = .replayable bytes
  | .arm .request deadline => ∃ d, builder.effectiveTimeout = some d ∧ deadline = t + d.nanos
  | _ => True

theorem madeOf_of_footprint {builder : RequestBuilder} {t : Nat} {label : Label sig}
    (listed : (sendFootprint builder).Has label)
    (timed : (settingsMonitor builder).check () t label) : MadeOf builder t label := by
  unfold MadeOf
  split
  · have whole := listed.2.resolve_left id
    refine ⟨whole, ?_⟩
    rw [whole.2.2.1]
    exact mergedFrom_sentHeaders builder
  · have whole := (listed.2.resolve_right id).2
    refine ⟨whole, ?_⟩
    rw [whole.2.2]
    exact mergedFrom_sentHeaders builder
  · obtain ⟨origin, tries⟩ := listed.2.resolve_right id
    have replayable := tries.body
    cases body : builder.body with
    | replayable bytes' =>
      rw [body] at replayable
      cases replayable
      rfl
    | empty =>
      rw [body] at replayable
      cases replayable
    | streaming stream =>
      rw [body] at replayable
      cases replayable
  · exact timed
  · exact True.intro

theorem send_of_error {builder : RequestBuilder} {err : Error}
    (failing : builder.deferredError = some err ∨
      (builder.deferredError = none ∧ builder.uri = .error err)) :
    send builder = .ret (.error err) := by
  unfold send
  rcases failing with deferred | ⟨fine, rejected⟩
  · rw [deferred]
  · rw [fine, rejected]

/-- Configuration errors wait for `send` and `build`. A task fails with one of them
exactly if a call of its chain failed or the URL was rejected; it is the earliest,
and the task does nothing. Otherwise the task sends what the chain asked for. -/
theorem configuration_errors_deferred {client : Client} {pace : Pace} {clock : Nat}
    {shared : SharedState} {w : World (sends client)}
    (reached : Reachable pace (.start clock shared) w) {i : Nat} {task : Task (sends client)}
    (found : w.tasks[i]? = some task) {method : Method} {url : Str} {parsed : Except Str Uri}
    {calls : List RequestBuilder.Call}
    (job : task.job.val = configured (RequestBuilder.new client method url parsed) calls) :
    (∀ err, earliestError url parsed calls = some err →
      task.body = .running (.ret (.error err)) ∧ w.logOf i = [] ∧ Error.IsConfiguration err) ∧
    (∀ err, task.body = .running (.ret (.error err)) → Error.IsConfiguration err →
      earliestError url parsed calls = some err) ∧
    Configures (RequestBuilder.new client method url parsed) calls task.job.val ∧
    (∀ e ∈ w.logOf i, MadeOf task.job.val e.time e.label) ∧
    (∀ builder call err, callError call = some err → RequestBuilder.apply builder call =
      { builder with deferredError := getOrInsert builder.deferredError err }) ∧
    ∀ chain, BuiltFrom chain := by
  have holds : ∀ err, earliestError url parsed calls = some err ↔
      task.job.val.deferredError = some err ∨
        (task.job.val.deferredError = none ∧ task.job.val.uri = .error err) := by
    intro err
    rw [job]
    exact earliestError_eq_some err
  have verified : ∀ (job : (sends client).Job) t, ((sends client).program job).Sat
      (settingsMonitor job.val) pace
      ⟨fun result t s => job.val.deferredError = none → (∀ err, job.val.uri ≠ .error err) →
        sendsWell.returned result t s, fun _ _ => True, fun _ _ => True⟩ t () := by
    intro job t
    by_cases fine : job.val.deferredError = none ∧ ∀ err, job.val.uri ≠ .error err
    · exact (send_settings fine.1 fine.2).mono (fun _ _ _ well _ _ => well) (fun _ _ => id)
        fun _ _ => id
    · refine send_sat (fun _ _ deferred valid => absurd ⟨deferred, valid⟩ fine) ?_
      intro uri deferred parsed
      refine absurd ⟨deferred, fun err rejected => ?_⟩ fine
      rw [parsed] at rejected
      cases rejected
  have admits := Monitor.admits_of_trivial (settingsMonitor task.job.val)
    (fun _ _ _ => True.intro) () (w.logOf i)
  obtain ⟨passes, t, -, sat⟩ := reached.sat verified found admits
  have fails : ∀ err, earliestError url parsed calls = some err →
      task.body = .running (.ret (.error err)) ∧ w.logOf i = [] := by
    intro err failing
    have atOnce : (sends client).program task.job = .ret (.error err) :=
      send_of_error ((holds err).mp failing)
    exact reached.over_at_once found atOnce
  refine ⟨?_, ?_, ?_, ?_, ?_, clientConfigured_builtFrom⟩
  · intro err failing
    obtain ⟨ended, silent⟩ := fails err failing
    exact ⟨ended, silent, earliestError_isConfiguration failing⟩
  · intro err returned configuration
    cases known : earliestError url parsed calls with
    | some other =>
      have ended := (fails other known).1
      rw [returned] at ended
      cases ended
      rfl
    | none =>
      have fine : task.job.val.deferredError = none := by
        cases deferred : task.job.val.deferredError with
        | none => rfl
        | some other =>
          rw [(holds other).mpr (.inl deferred)] at known
          cases known
      have valid : ∀ other, task.job.val.uri ≠ .error other := by
        intro other rejected
        rw [(holds other).mpr (.inr ⟨fine, rejected⟩)] at known
        cases known
      rw [returned] at sat
      exact absurd configuration (sat fine valid err rfl)
  · rw [job]
    exact configured_configures rfl calls
  · intro e logged
    obtain ⟨before, later, split⟩ := List.append_of_mem logged
    exact madeOf_of_footprint (run_footprint reached found e logged)
      (Monitor.Passes.at _ passes split)
  · intro builder call err failing
    rcases apply_cases builder call with ⟨err', error, -, -, -, same⟩ |
      ⟨name, value, error, -⟩ | ⟨d, error, -⟩ | ⟨payload, error, -⟩
    · rw [error, Option.some.injEq] at failing
      rw [same, failing]
    all_goals
      rw [error] at failing
      cases failing

namespace Example

/-- Two calls fail, after one that succeeds, on a URL that is rejected too. -/
def muddled : List RequestBuilder.Call :=
  [.json (.ok [1]), .header none none, .json (.error "not a map".toList), .body [2]]

def ftpUrl : Str := "ftp://o.example/".toList

def ftpUri : Uri := ⟨some "ftp".toList, some "o.example".toList, none, "/".toList⟩

def muddledBuilder : RequestBuilder :=
  configured (RequestBuilder.new client .get ftpUrl (.ok ftpUri)) muddled

end Example

theorem configuration_errors_deferred_muddled :
    ∃ (w : World (sends Example.client)) (task : Task (sends Example.client)),
      Reachable .strict (.start 0 SharedState.new) w ∧ w.tasks[0]? = some task ∧
      task.job.val = Example.muddledBuilder ∧
      task.body =
        .running (.ret (Except.error (.invalidHeader "header name rejected".toList))) ∧
      w.logOf 0 = [] := by
  have spawned : Reachable .strict (.start 0 SharedState.new)
      (⟨0, SharedState.new, [⟨⟨Example.muddledBuilder, rfl⟩, 0,
        .running (send Example.muddledBuilder)⟩], []⟩ : World (sends Example.client)) :=
    .next (.spawn ⟨Example.muddledBuilder, rfl⟩) .refl rfl
  have job : Example.muddledBuilder = configured
      (RequestBuilder.new Example.client .get Example.ftpUrl (.ok Example.ftpUri))
      Example.muddled := rfl
  obtain ⟨fails, -⟩ := configuration_errors_deferred (i := 0) spawned rfl job
  obtain ⟨ended, silent, -⟩ := fails (.invalidHeader "header name rejected".toList) rfl
  exact ⟨_, _, spawned, rfl, rfl, ended, silent⟩

end MechanicsHttpClient.Guarantees
