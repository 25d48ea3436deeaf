import MechanicsHttpClient.Guarantees.SendConformance

/-!
# What a peer has seen before its response is returned

src/http3.rs:64-87. A response over HTTP/3 is returned by the attempt that was
started last, and after the whole of its request: the head, the body if there is
one, and the end of the stream, each once, each accepted and in this order. A peer
that answers early is not heard before.
-/

namespace MechanicsHttpClient.Guarantees

open MechanicsHttpClient.Runtime
open MechanicsHttpClient.Source

/-- The attempt that is started with this label. -/
def attemptStarted : Label sig → Option Http3Call
  | .call (.trace (.http3Request _ call)) _ => some call
  | _ => none

/-- An operation on the request stream has ended. -/
def onStream : Label sig → Bool
  | .done (.sendRequest _) _ => true
  | .done (.sendData _) _ => true
  | .done .finish _ => true
  | .done .recvResponse _ => true
  | _ => false

def uploaded : Option Bytes → List (Label sig)
  | some body => [.done (.sendData body) (.ok ())]
  | none => []

/-- What goes over the stream of an attempt that is answered. -/
def transmission (call : Http3Call) (stream : BodyHandle) (parts : ResponseParts) :
    List (Label sig) :=
  [.done (.sendRequest call.request) (.ok stream)] ++ uploaded call.body ++
    [.done .finish (.ok ()), .done .recvResponse (.ok parts)]

/-- The last attempt, and what has gone over its stream. -/
abbrev Sent : Type := Option (Since sig Http3Call)

def transmissionMonitor : Monitor sig Sent := Monitor.since attemptStarted onStream

/-- The response came at the end of all that the last attempt had to send. -/
def Answered (response : Response) (sent : Sent) : Prop :=
  ∃ since stream parts, sent = some since ∧ response = Response.newH3 parts stream ∧
    since.labels = transmission since.event stream parts

def transmissionStages : Stages Sent where
  idle _ _ := True
  failed _ _ _ _ := True
  answered response _ sent := Answered response sent
  broken _ _ := True
  gone _ _ := True

section Send

variable {client : Client} {pace : Pace} {t : Nat} {sent : Sent}

/-- A part that nothing is said of. -/
theorem part_unwatched {α : Type} {R : α → Nat → Sent → Prop}
    (returned : ∀ value t sent, R value t sent) (part : Prog sig α) :
    part.Sat transmissionMonitor pace ⟨R, fun _ _ => True, fun _ _ => True⟩ t sent := by
  apply Monitor.since_anyway
  · exact returned
  · exact fun _ _ => True.intro
  · exact fun _ _ => True.intro

/-- The ends of a part that succeeds with these labels on the stream. -/
def Adds {ε α : Type} (since : Since sig Http3Call) (labels : α → List (Label sig)) :
    Post Sent (Except ε α) where
  returned
    | .ok value => fun _ sent => sent = some { since with labels := since.labels ++ labels value }
    | .error _ => fun _ _ => True
  panicked _ _ := True
  dropped _ _ := True

/-- The `?` operator. -/
theorem Adds.andThen {ε α β : Type} {since : Since sig Http3Call} {labels : α → List (Label sig)}
    {P : Post Sent (Except ε β)} {p : Prog sig (Except ε α)} {f : α → Prog sig (Except ε β)}
    (first : p.Sat transmissionMonitor pace (Adds since labels) t sent)
    (rest : ∀ value t, (f value).Sat transmissionMonitor pace P t
      (some { since with labels := since.labels ++ labels value }))
    (failed : ∀ err t sent, P.returned (.error err) t sent)
    (panicked : ∀ t sent, P.panicked t sent) (dropped : ∀ t sent, P.dropped t sent) :
    (p.andThen f).Sat transmissionMonitor pace P t sent := by
  refine Prog.Sat.andThen _ (first.mono ?_ (fun t s _ => panicked t s) fun t s _ => dropped t s)
  intro result t s returned
  cases result with
  | error err => exact failed err t s
  | ok value =>
    have same : s = some { since with labels := since.labels ++ labels value } := returned
    rw [same]
    exact rest value t

/-- An awaited operation on the stream. -/
theorem suspend_adds {since : Since sig Http3Call} {op : Op} {P : Post Sent op.Ans}
    (noted : ∀ ans, onStream (.done op ans) = true)
    (returned : ∀ ans t,
      P.returned ans t (some { since with labels := since.labels ++ [.done op ans] }))
    (dropped : ∀ t, P.dropped t (some since)) :
    (suspend op).Sat transmissionMonitor pace P t (some since) := by
  apply Prog.Sat.suspend
  intro t₁ _ _
  refine ⟨True.intro, ?_⟩
  intro t₂ _
  have issued : transmissionMonitor.next (some since) t₁ (.issue op) = some since := rfl
  rw [issued]
  refine ⟨True.intro, ?_, dropped t₂⟩
  intro ans _
  have answered : transmissionMonitor.next (some since) t₂ (.done op ans) =
      some { since with labels := since.labels ++ [.done op ans] } := by
    have quiet : attemptStarted (.done op ans) = none := rfl
    simp only [transmissionMonitor, Monitor.since, quiet, noted ans, if_true, Option.map_some]
  rw [answered]
  exact ⟨True.intro, returned ans t₂⟩

/-- The timeouts of an attempt leave no trace on the stream. -/
theorem timed_adds {ε ε' α : Type} {since : Since sig Http3Call} {labels : α → List (Label sig)}
    {timer : Timer} {d : Duration} {elapsed : ε} {failed : ε' → ε} {p : Prog sig (Except ε' α)}
    (inner : ∀ t, p.Sat transmissionMonitor pace (Adds since labels) t (some since)) :
    (timed timer d elapsed failed p).Sat transmissionMonitor pace (Adds since labels) t
      (some since) := by
  apply Prog.Sat.timed_cut
  intro t' _ _
  refine ⟨True.intro, fun _ _ _ => ⟨rfl, True.intro⟩, (inner t').mono ?_ (fun _ _ => id) ?_⟩
  · intro result t s returned
    cases result with
    | ok value => exact returned
    | error err => exact True.intro
  · exact fun _ _ _ => ⟨True.intro, True.intro⟩

theorem opens_adds (since : Since sig Http3Call) (request : Request Unit) :
    (timed .streamOpen h3StreamOpenTimeout (Http3AttemptError.stream true)
      (fun _ => .stream true) (suspend (.sendRequest request))).Sat transmissionMonitor pace
      (Adds since fun stream => [.done (.sendRequest request) (.ok stream)]) t (some since) := by
  apply timed_adds
  intro t
  refine suspend_adds (fun _ => rfl) ?_ fun _ => True.intro
  intro ans t
  cases ans with
  | ok stream => rfl
  | error _ => exact True.intro

theorem uploads_adds (since : Since sig Http3Call) (body : Option Bytes) :
    (uploadBody body).Sat transmissionMonitor pace (Adds since fun _ => uploaded body) t
      (some since) := by
  cases body with
  | none =>
    have same : since.labels ++ [] = since.labels := List.append_nil _
    simp only [uploadBody, uploaded, Adds, Prog.Sat, same]
  | some bytes =>
    apply timed_adds
    intro t
    refine suspend_adds (fun _ => rfl) ?_ fun _ => True.intro
    intro ans t
    cases ans with
    | ok _ => rfl
    | error _ => exact True.intro

theorem finishes_adds (since : Since sig Http3Call) :
    (h3StreamPhase h3StreamUploadTimeout (suspend .finish)).Sat transmissionMonitor pace
      (Adds since fun _ => [.done .finish (.ok ())]) t (some since) := by
  apply timed_adds
  intro t
  refine suspend_adds (fun _ => rfl) ?_ fun _ => True.intro
  intro ans t
  cases ans with
  | ok _ => rfl
  | error _ => exact True.intro

/-- The request is on its stream, and the stream is finished, before the response is awaited. -/
theorem requestOnStream_transmits (call : Http3Call) (time : Nat) (attempt : Nat) :
    (requestOnStream call.request call.body).Sat transmissionMonitor pace
      (transmissionStages.afterAttempt attempt) t (some ⟨call, time, []⟩) := by
  unfold requestOnStream
  refine Adds.andThen (opens_adds _ _) ?_ (fun _ _ _ => True.intro) (fun _ _ => True.intro)
    (fun _ _ => True.intro)
  intro stream t
  refine Adds.andThen (uploads_adds _ _) ?_ (fun _ _ _ => True.intro) (fun _ _ => True.intro)
    (fun _ _ => True.intro)
  intro _ t
  refine Adds.andThen (finishes_adds _) ?_ (fun _ _ _ => True.intro) (fun _ _ => True.intro)
    (fun _ _ => True.intro)
  intro _ t
  apply Prog.Sat.bind
  refine suspend_adds (fun _ => rfl) ?_ fun _ => True.intro
  intro ans t
  cases ans with
  | error _ => exact True.intro
  | ok parts => exact ⟨_, stream, parts, rfl, rfl, by simp [transmission]⟩

/-- Everything that does not touch the stream. -/
def offStream : Alphabet sig where
  op
    | .sendRequest _ | .sendData _ | .finish | .recvResponse => False
    | .trace (.http3Request _ _) => False
    | _ => True
  timer _ := True
  unwinds := True

theorem transmissionMonitor_ignores : transmissionMonitor.IgnoresAll offStream := by
  intro sent t label has
  refine ⟨?_, True.intro⟩
  cases label with
  | call op ans =>
    cases op with
    | trace point =>
      cases point with
      | http3Request origin call => exact has.elim
      | _ => rfl
    | _ => rfl
  | done op ans =>
    cases op with
    | sendRequest request => exact has.elim
    | sendData body => exact has.elim
    | finish => exact has.elim
    | recvResponse => exact has.elim
    | _ => rfl
  | _ => rfl

theorem connection_offStream (call : Http3Call) :
    (connection call.authorityHost call.origin.port call.addresses).Uses offStream := by
  unfold connection
  refine Prog.Uses.andThen ?_ _ (Prog.Uses.perform True.intro)
  intro _
  refine Prog.Uses.andThen ?_ _ (firstSocketAddr_uses True.intro True.intro)
  intro addr
  refine Prog.Uses.andThen ?_ _ (Prog.Uses.perform True.intro)
  intro _
  refine Prog.Uses.andThen ?_ _ (Prog.Uses.timed True.intro _ (Prog.Uses.suspend True.intro))
  intro _
  exact Prog.Uses.timed True.intro _ (Prog.Uses.suspend True.intro)

theorem http3Request_transmits (call : Http3Call) (time : Nat) (attempt : Nat) :
    (http3Request call).Sat transmissionMonitor pace (transmissionStages.afterAttempt attempt) t
      (some ⟨call, time, []⟩) := by
  unfold http3Request
  refine Prog.Sat.bind _ (Prog.Sat.of_uses transmissionMonitor_ignores _
    (connection_offStream call) (fun _ _ => True.intro) ?_ (fun _ _ _ => True.intro)
    fun _ _ => True.intro)
  intro connected t' _
  cases connected with
  | error err => exact True.intro
  | ok _ => exact requestOnStream_transmits call time attempt

theorem cancellationGuardDrop_unwatched {origin : Origin} :
    (cancellationGuardDrop client origin).Sat transmissionMonitor pace
      ⟨fun _ _ _ => True, fun _ _ => True, fun _ _ => True⟩ t sent := by
  apply Sync.Sat.of_invariant (I := fun _ => True)
  · exact fun _ _ _ _ => ⟨True.intro, True.intro⟩
  · exact fun _ _ _ _ => True.intro
  · exact fun _ _ _ => True.intro
  · exact True.intro

/-- An attempt that is answered has sent what it was called with. -/
theorem transmissionStages_kept (client : Client) (now : Instant) :
    transmissionStages.Kept transmissionMonitor pace client now where
  attempt := by
    intro target request body attempt t sent _
    unfold guardedAttempt
    apply Prog.Sat.perform_bind
    intro t₁ _ _ _
    refine ⟨True.intro, Prog.Sat.bind _ (Prog.Sat.guarded _
      ((http3Request_transmits _ t₁ attempt).mono ?_ ?_ ?_))⟩
    · intro result t₂ sent₂ ended
      apply Prog.Sat.perform_bind
      intro t₃ _ _ _
      refine ⟨True.intro, ?_⟩
      cases result with
      | error err => exact True.intro
      | ok response => exact ended
    · exact fun _ _ _ => cancellationGuardDrop_unwatched
    · exact fun _ _ _ => cancellationGuardDrop_unwatched
  written _ _ _ _ _ _ _ := by
    apply Sync.Sat.of_invariant (I := fun _ => True)
    · exact fun _ _ _ _ => ⟨True.intro, True.intro⟩
    · exact fun _ _ _ _ => True.intro
    · exact fun _ _ _ => True.intro
    · exact True.intro
  again _ _ _ _ _ _ := True.intro
  looked _ _ _ _ := part_unwatched (fun _ _ _ => True.intro) _
  routed _ _ _ _ _ _ _ _ := ⟨True.intro, True.intro⟩

theorem tryHttp3_transmits {origin : Origin} {request : Request Unit} {body : Option Bytes} :
    (tryHttp3 client origin request body).Sat transmissionMonitor pace transmissionStages.after t
      sent := by
  apply Stages.tryHttp3
  intro t₁ _
  refine ⟨True.intro, ?_⟩
  intro sent₁ _ t₂ now _ _
  refine ⟨True.intro, transmissionStages_kept client now, ?_⟩
  intro sent₂ _ t₃ hit _
  refine ⟨True.intro, ?_⟩
  intro sent₃ _
  exact ⟨True.intro, fun _ _ _ => ⟨True.intro, True.intro⟩⟩

/-- A response over HTTP/3 comes at the end of its transmission. -/
def transmitted : Post Sent (Except Error Response) where
  returned result _ sent :=
    ∀ response stream, result = .ok response → response.body = .h3 stream → Answered response sent
  panicked _ _ := True
  dropped _ _ := True

/-- A response over TCP is none over HTTP/3. -/
theorem tcpPhase_transmits {builder : RequestBuilder} {uri : Uri} {headers : HeaderMap} :
    (tcpPhase builder uri headers).Sat transmissionMonitor pace transmitted t sent := by
  refine tcpPhase_sat (fun _ _ _ => ⟨rfl, True.intro, fun _ _ _ => ⟨rfl, True.intro⟩⟩) ?_
  intro t₁ _
  apply Prog.Sat.suspend
  intro t₂ _ _
  refine ⟨True.intro, ?_⟩
  intro t₃ _
  refine ⟨True.intro, ?_, by simp [transmitted], True.intro⟩
  intro result _
  refine ⟨True.intro, ?_⟩
  rcases result with err | ⟨parts, incoming⟩
  · simp [AfterHyper, transmitted]
  · refine part_unwatched ?_ _
    intro _ t sent response stream isResult overHttp3
    cases isResult
    cases overHttp3

theorem send_transmits (builder : RequestBuilder) (t : Nat) :
    (send builder).Sat transmissionMonitor pace transmitted t none := by
  refine send_sat (by simp [transmitted]) ?_
  intro uri _ parsed
  refine http3Phase_sat parsed (fun _ => tcpPhase_transmits) ?_
  intro origin body _
  refine transmissionStages.h3Result (I := fun _ => True)
    (fun _ _ _ => ⟨rfl, True.intro, fun _ _ _ => ⟨rfl, True.intro⟩⟩) (fun _ _ _ _ _ => True.intro)
    (fun _ _ _ _ => True.intro) (fun _ _ => ⟨rfl, True.intro⟩) (fun _ _ => tryHttp3_transmits)
    ?_ ?_ ?_ ?_
  · exact fun _ _ _ _ _ => tcpPhase_transmits
  · intro response t sent t' answered _ other stream same _
    cases same
    exact answered
  · exact fun _ _ _ => True.intro
  · intro t₁ sent₁ _
    refine ⟨fun _ => ?_, True.intro⟩
    unfold h3TimedOut
    refine Prog.Sat.bind _ (part_unwatched ?_ _)
    intro now t₂ sent₂
    refine Prog.Sat.bind _ (part_unwatched ?_ _)
    intro _ t₃ sent₃
    simp [AfterHttp3, transmitted, Prog.Sat]

end Send

/-- An attempt is started with the builder's request and body. -/
theorem attempt_carries {builder : RequestBuilder} {label : Label sig} {call : Http3Call}
    (listed : (sendFootprint builder).Has label) (starts : attemptStarted label = some call) :
    CarriesRequest builder call.request ∧ builder.body.replayableForH3 = some call.body := by
  unfold attemptStarted at starts
  split at starts
  · cases starts
    obtain ⟨-, ops | ops⟩ := listed
    · exact ⟨ops.2, ops.1.body⟩
    · exact ops.elim
  · cases starts

/-- A response that a send returns over HTTP/3 belongs to the attempt it started last, and comes
after all of the builder's request has been sent on the stream: once, in order, and to its
end. -/
theorem http3_response_follows_request {client : Client} {pace : Pace} {clock : Nat}
    {shared : SharedState} {w : World (sends client)} {i : Nat} {task : Task (sends client)}
    {response : Response} {stream : BodyHandle}
    (reached : Reachable pace (.start clock shared) w) (found : w.tasks[i]? = some task)
    (returned : task.body = .running (.ret (.ok response)))
    (overHttp3 : response.body = .h3 stream) :
    ∃ before started later call, w.logOf i = before ++ started :: later ∧
      attemptStarted started.label = some call ∧
      CarriesRequest task.job.val call.request ∧
      task.job.val.body.replayableForH3 = some call.body ∧
      (∀ e ∈ later, attemptStarted e.label = none) ∧
      (later.map Entry.label).filter onStream = transmission call stream response.parts := by
  have verified : ∀ (job : (sends client).Job) t, ((sends client).program job).Sat
      transmissionMonitor pace transmitted t none := fun job t => send_transmits job.val t
  have admits := Monitor.admits_of_trivial transmissionMonitor (fun _ _ _ => True.intro) none
    (w.logOf i)
  obtain ⟨-, t, live, sat⟩ := reached.sat verified found admits
  rw [returned] at sat
  obtain ⟨since, stream', parts, ran, rfl, labels⟩ := sat response stream rfl overHttp3
  cases overHttp3
  obtain ⟨before, started, later, split, starts, -, noted, silent⟩ :=
    Monitor.run_since (w.logOf i) ran
  have listed := run_footprint reached found started (by simp [split])
  obtain ⟨carried, replayed⟩ := attempt_carries listed starts
  refine ⟨before, started, later, since.event, split, starts, carried, replayed, silent, ?_⟩
  rw [← noted, labels]
  rfl

namespace Example

/-- An attempt whose body is uploaded. -/
def sendsBody : RequestBuilder := (builder client).apply (.body [104, 105])

def uploadCall : Http3Call :=
  callOf (altSvcTarget origin (entryOn none)) h3Request (some [104, 105])

def answersUpload : List (Label sig) :=
  consults start (some (entryOn none)) ++
  [.call (.trace (.altSvcRoute origin none 443)) (),
    .call (.trace (.http3Request origin uploadCall)) ()] ++
  dials 0 origin.host ++
  [.arm .connect 500000000, .issue .connecting, .done .connecting (.ok ()),
    .arm .setup 500000000, .issue .h3Build, .done .h3Build (.ok ()),
    .arm .streamOpen 150000000, .issue (.sendRequest h3Request),
    .done (.sendRequest h3Request) (.ok 7),
    .arm .upload 500000000, .issue (.sendData [104, 105]), .done (.sendData [104, 105]) (.ok ()),
    .arm .upload 500000000, .issue .finish, .done .finish (.ok ()), .issue .recvResponse,
    .done .recvResponse (.ok ⟨200, HeaderMap.empty⟩),
    .call (.trace (.http3Outcome origin 0 .responded)) (), .call (.trace .tryHttp3Left) ()]

/-- The alternative is learned, and the next send uploads a body over it. -/
def uploadsOverHttp3 : List (Event (sends client)) :=
  spawned client :: performs 0 (learns ownPort (entryOn none)) ++
  [.spawn ⟨sendsBody, rfl⟩] ++ performs 1 answersUpload

end Example

/-- A body of two bytes. -/
theorem http3_response_follows_request_upload :
    ∃ (w : World (sends Example.client)) (before later : List (Entry sig)) (started : Entry sig)
      (call : Http3Call), w.logOf 1 = before ++ started :: later ∧
      call.body = some [104, 105] ∧
      (later.map Entry.label).filter onStream = transmission call 7 ⟨200, HeaderMap.empty⟩ := by
  obtain ⟨w, task, reached, found, log, job, isOver⟩ := Example.ends .strict
    Example.uploadsOverHttp3 1
    (Example.logged 0 0 (Example.learns Example.ownPort (Example.entryOn none)) ++
      Example.logged 1 0 Example.answersUpload)
    ⟨Example.sendsBody, rfl⟩ (some (.ok (Response.newH3 ⟨200, HeaderMap.empty⟩ 7))) rfl
  obtain ⟨before, started, later, call, split, -, -, replayed, -, labels⟩ :=
    http3_response_follows_request reached found (Example.ended_returned isOver) rfl
  rw [job] at replayed
  exact ⟨w, before, later, started, call, split, (Option.some.inj replayed).symm, labels⟩

end MechanicsHttpClient.Guarantees
