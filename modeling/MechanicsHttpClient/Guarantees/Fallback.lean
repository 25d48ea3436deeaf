import MechanicsHttpClient.Guarantees.SendCourse

/-!
# Falling back to TCP

src/request.rs:43-66, 174-250 and 265-382. Where HTTP/3 brings no response and
the request's timer does not expire, `send` hands hyper the request that it would
hand it with HTTP/3 switched off, once, and returns what hyper answers. Two sums
of instants can keep it from that, and both panic: the expiry of a negative
entry, before hyper is asked, and that of an alternative in hyper's response.
-/

namespace MechanicsHttpClient.Guarantees

open MechanicsHttpClient.Runtime
open MechanicsHttpClient.Source

/-- The client built with `http3(false)`. -/
def withoutHttp3 (client : Client) : Client := { client with http3Enabled := false }

/-- The same builder on that client. -/
def onTcp (builder : RequestBuilder) : RequestBuilder :=
  { builder with client := withoutHttp3 builder.client }

/-- The send has ended by itself, and not by the request's timer. -/
structure RunsToEnd {client : Client} (w : World (sends client)) (i : Nat)
    (task : Task (sends client)) : Prop where
  found : w.tasks[i]? = some task
  finished : task.body.unfinished = false
  undropped : ∃ p, task.body = .running p
  uncut : ∀ e ∈ w.logOf i, cutsShort e.label = false
  fine : task.job.val.deferredError = none

/-- The request that hyper got, once, and what the send returned for its answer. -/
structure HandsOver {client : Client} (w : World (sends client)) (i : Nat)
    (task : Task (sends client)) (uri : Uri) : Prop where
  handed : recordOf sentToHyper (w.logOf i) = [hyperRequestOf task.job.val uri]
  answered : ∃ answer, recordOf hyperAnswered (w.logOf i) = [answer] ∧
    task.body = .running (.ret (resultOf answer))

section Run

variable {client : Client} {pace : Pace} {clock : Nat} {shared : SharedState}
  {w : World (sends client)} {i : Nat} {task : Task (sends client)} {uri : Uri}

/-- The three ends of a send that no response, timer or drop has ended. -/
theorem course_ends (reached : Reachable pace (.start clock shared) w) (ends : RunsToEnd w i task)
    (parsed : task.job.val.uri = .ok uri)
    (unanswered : ∀ e ∈ w.logOf i, attemptResponds e.label = false) :
    ((w.logOf i).any (fun e => insertPanics e.label) = true ∧
      ∀ result, task.body ≠ .running (.ret result)) ∨
    (¬ AnswerFits (originOf task.job.val) (w.logOf i) ∧
      recordOf sentToHyper (w.logOf i) = [hyperRequestOf task.job.val uri] ∧
      ∀ result, task.body ≠ .running (.ret result)) ∨
    ((w.logOf i).any (fun e => insertPanics e.label) = false ∧
      AnswerFits (originOf task.job.val) (w.logOf i) ∧ HandsOver w i task uri) := by
  have verified : ∀ (job : (sends client).Job) t, ((sends client).program job).Sat
      (courseMonitor (originOf job.val) true) pace (courseEnds job.val true) t Course.start :=
    fun job t => send_course job.val true t
  have admits : (courseMonitor (originOf task.job.val) true).Admits Course.start (w.logOf i) := by
    apply Monitor.admits_of_forall
    intro e own course
    have silent := ends.uncut e own
    unfold courseMonitor
    simp only
    split
    · rename_i here
      rw [here] at silent
      cases silent
    · exact True.intro
  obtain ⟨-, t, live, sat⟩ := reached.sat verified ends.found admits
  have handed := course_handed (originOf task.job.val) true (w.logOf i)
  have answers := course_answers (originOf task.job.val) true (w.logOf i)
  have responded := course_responded (originOf task.job.val) true (w.logOf i)
  have overflowed := course_overflowed (originOf task.job.val) true (w.logOf i)
  have spoiled := course_spoiled (originOf task.job.val) true (w.logOf i)
  have finished := ends.finished
  obtain ⟨p, running⟩ := ends.undropped
  rw [running] at finished sat
  cases p with
  | panic =>
    have notReturned : ∀ result, task.body ≠ .running (.ret result) := by
      intro result isOver
      rw [running] at isOver
      cases isOver
    rcases sat with overflow | ⟨lost, uri', parsed', sent⟩
    · rw [overflowed] at overflow
      exact .inl ⟨overflow, notReturned⟩
    · rw [parsed] at parsed'
      cases parsed'
      refine .inr (.inl ⟨?_, handed.symm.trans sent, notReturned⟩)
      rw [← spoiled, lost]
      exact Bool.false_ne_true ∘ Eq.symm
  | ret result =>
    have silent : ((w.logOf i).any fun e => attemptResponds e.label) = false := by
      simpa using unanswered
    rcases sat with rejected | response | ⟨impatient, -⟩ | ⟨uri', answer, parsed', isOver, course⟩
    · rcases rejected with deferred | unparsed
      · exact absurd ends.fine deferred
      · exact absurd parsed (unparsed uri)
    · rw [responded, silent] at response
      cases response
    · cases impatient
    · rw [parsed] at parsed'
      cases parsed'
      rw [course] at handed answers overflowed spoiled
      refine .inr (.inr ⟨overflowed.symm, spoiled.mp rfl, handed.symm, answer, answers.symm, ?_⟩)
      rw [running, isOver]
  | call op k => cases finished
  | arm timer d k => cases finished
  | await issued op k timers expired cleanup => cases finished

/-- A send whose client does not try HTTP/3 hands its request over. -/
theorem handed_over_without_http3 (reached : Reachable pace (.start clock shared) w)
    (ends : RunsToEnd w i task) (parsed : task.job.val.uri = .ok uri)
    (never : ∀ origin body, ¬ TriesHttp3 task.job.val origin body) :
    recordOf sentToHyper (w.logOf i) = [hyperRequestOf task.job.val uri] := by
  have listed := run_footprint reached ends.found
  have unanswered : ∀ e ∈ w.logOf i, attemptResponds e.label = false := by
    intro e own
    have has := listed e own
    unfold attemptResponds
    split
    · rename_i origin attempt ans here
      rw [here] at has
      obtain ⟨body, tries⟩ := has.2.resolve_right id
      exact absurd tries (never origin body)
    · rfl
  have unwritten : (w.logOf i).any (fun e => insertPanics e.label) = false := by
    apply List.any_eq_false.mpr
    intro e own
    have has := listed e own
    unfold insertPanics
    split
    · rename_i origin now duration panic here
      rw [here] at has
      obtain ⟨body, tries⟩ := (has.2.resolve_right id).1
      exact absurd tries (never origin body)
    · exact Bool.false_ne_true
  rcases course_ends reached ends parsed unanswered with
    ⟨overflow, -⟩ | ⟨-, handed, -⟩ | ⟨-, -, isOver⟩
  · rw [unwritten] at overflow
    cases overflow
  · exact handed
  · exact isOver.handed

end Run

/-- Whenever the send writes a negative entry its expiry is representable, or the
lock has been poisoned before. -/
def EntriesFit {client : Client} (shared : SharedState) (w : World (sends client)) (i : Nat) : Prop :=
  ∀ before e later, w.log = before ++ e :: later → e.task = i →
    ∀ origin now duration ans, e.label = .call (.negativeInsert origin now duration) ans →
      ∀ held, replay (sends client) shared before = some held →
        held.negative.poisoned = true ∨ now.nanos + duration.nanos < instantLimit

theorem negativeInsert_ok_iff (shared : SharedState) (origin : Origin) (now : Instant)
    (duration : Duration) :
    (shared.negativeInsert origin now duration).1 = .ok () ↔
      shared.negative.poisoned = true ∨ now.nanos + duration.nanos < instantLimit := by
  unfold SharedState.negativeInsert
  cases poisoned : shared.negative.poisoned with
  | true => simp
  | false =>
    cases sum : now.checkedAdd duration with
    | none =>
      have late := Instant.checkedAdd_eq_none.mp sum
      simp only [Bool.false_eq_true, if_false, reduceCtorEq, false_or, false_iff]
      omega
    | some expiresAt =>
      have early : now.checkedAdd duration ≠ none := by simp [sum]
      rw [ne_eq, Instant.checkedAdd_eq_none] at early
      simp only [Bool.false_eq_true, if_false, false_or, true_iff]
      omega

/-- What a send's HTTP/3 attempts are given and put on their streams is the request
for hyper: the same method, URI and headers, and the same bytes. -/
structure AttemptsCarry (builder : RequestBuilder) (uri : Uri) (log : List (Entry sig)) : Prop where
  called : ∀ e ∈ log, ∀ origin call, e.label = .call (.trace (.http3Request origin call)) () →
    call.request = h3RequestOf builder uri ∧
      (hyperRequestOf builder uri).body = call.body.elim .empty .full
  sent : ∀ e ∈ log, ∀ request, e.label = .issue (.sendRequest request) →
    request = h3RequestOf builder uri
  uploaded : ∀ e ∈ log, ∀ bytes, e.label = .issue (.sendData bytes) →
    (hyperRequestOf builder uri).body = .full bytes

theorem intoBody_of_replayable {payload : RequestPayload} {body : Option Bytes}
    (replayable : payload.replayableForH3 = some body) :
    payload.intoBody = body.elim .empty .full := by
  cases payload with
  | empty =>
    cases replayable
    rfl
  | replayable bytes =>
    cases replayable
    rfl
  | streaming handle => cases replayable

section Run

variable {client : Client} {pace : Pace} {clock : Nat} {shared : SharedState}
  {w : World (sends client)} {i : Nat} {task : Task (sends client)} {uri : Uri}

theorem entriesFit_iff (reached : Reachable pace (.start clock shared) w) :
    EntriesFit shared w i ↔ (w.logOf i).any (fun e => insertPanics e.label) = false := by
  have answer : ∀ {before e later origin now duration ans held}, w.log = before ++ e :: later →
      e.label = .call (.negativeInsert origin now duration) ans →
      replay (sends client) shared before = some held →
      (held.negativeInsert origin now duration).1 = ans := by
    intro before e later origin now duration ans held split insert state
    obtain ⟨middle, left, state', effect, -⟩ := reached.answered split
    rw [state] at state'
    cases state'
    rw [insert] at effect
    have responded : respond (.negativeInsert origin now duration) e.time held ans = some left :=
      effect
    simp only [respond] at responded
    exact (answered_eq_some responded).1
  constructor
  · intro fits
    apply List.any_eq_false.mpr
    intro e own
    unfold insertPanics
    split
    · rename_i origin now duration panic insert
      obtain ⟨ownBefore, ownLater, ownSplit⟩ := List.append_of_mem own
      obtain ⟨before, later, split, mine, -, -⟩ := World.log_split ownSplit
      obtain ⟨held, -, state, -, -⟩ := reached.answered split
      have stored := (negativeInsert_ok_iff held origin now duration).mpr
        (fits before e later split mine origin now duration _ insert held state)
      rw [answer split insert state] at stored
      cases stored
    · exact Bool.false_ne_true
  · intro none before e later split mine origin now duration ans insert held state
    have own : e ∈ w.logOf i := by simp [World.logOf, split, mine]
    have silent := List.any_eq_false.mp none e own
    rw [insert] at silent
    rw [← negativeInsert_ok_iff held origin, answer split insert state]
    cases ans with
    | error panic => exact absurd rfl silent
    | ok _ => rfl

/-- A response over HTTP/3 and a request to hyper exclude each other. -/
theorem course_exclusive {origin : Option Origin} {patient : Bool} (log : List (Entry sig)) :
    (courseMonitor origin patient).Passes Course.start log →
      ((courseMonitor origin patient).run Course.start log).responded = true →
      ((courseMonitor origin patient).run Course.start log).handed = [] := by
  induction log using List.reverseRecOn with
  | nil => exact fun _ _ => rfl
  | append_singleton log e ih =>
    intro passes
    rw [Monitor.passes_append] at passes
    obtain ⟨earlier, check, -⟩ := passes
    rw [Monitor.run_append, Monitor.run, Monitor.run, courseMonitor_next]
    intro responded
    simp only [Bool.or_eq_true] at responded
    rcases responded with before | now
    · have none := ih earlier before
      cases sent : sentToHyper e.label with
      | none => simpa [sent] using none
      | some request =>
        unfold sentToHyper at sent
        split at sent
        · rename_i here
          rw [here] at check
          have unanswered : ((courseMonitor origin patient).run Course.start log).responded = false :=
            check
          rw [before] at unanswered
          cases unanswered
        · cases sent
    · unfold attemptResponds at now
      split at now
      · rename_i here
        rw [here] at check ⊢
        have none : ((courseMonitor origin patient).run Course.start log).handed = [] := check
        simp [none, sentToHyper]
      · cases now

theorem responded_not_handed (reached : Reachable pace (.start clock shared) w)
    (found : w.tasks[i]? = some task)
    (responded : ∃ e ∈ w.logOf i, attemptResponds e.label = true) :
    recordOf sentToHyper (w.logOf i) = [] := by
  have verified : ∀ (job : (sends client).Job) t, ((sends client).program job).Sat
      (courseMonitor (originOf job.val) false) pace (courseEnds job.val false) t Course.start :=
    fun job t => send_course job.val false t
  have admits : (courseMonitor (originOf task.job.val) false).Admits Course.start (w.logOf i) := by
    apply Monitor.admits_of_trivial
    intro course t label
    unfold courseMonitor
    simp only
    split <;> trivial
  obtain ⟨passes, -⟩ := reached.sat verified found admits
  rw [← course_handed (originOf task.job.val) false]
  refine course_exclusive _ passes ?_
  rw [course_responded]
  exact List.any_eq_true.mpr responded

theorem attempts_carry (reached : Reachable pace (.start clock shared) w)
    (found : w.tasks[i]? = some task) (parsed : task.job.val.uri = .ok uri) :
    AttemptsCarry task.job.val uri (w.logOf i) := by
  have listed := run_footprint reached found
  have carried : ∀ request : Request Unit, CarriesRequest task.job.val request →
      request = h3RequestOf task.job.val uri := by
    rintro ⟨method, uri', headers, body⟩ ⟨parsed', rfl, rfl⟩
    rw [parsed] at parsed'
    cases parsed'
    rfl
  constructor
  · intro e own origin call label
    have has := listed e own
    rw [label] at has
    obtain ⟨tries, carries⟩ := has.2.resolve_right id
    exact ⟨carried call.request carries, intoBody_of_replayable tries.body⟩
  · intro e own request label
    have has := listed e own
    rw [label] at has
    exact carried request (has.2.resolve_right id).2
  · intro e own bytes label
    have has := listed e own
    rw [label] at has
    obtain ⟨origin, tries⟩ := has.2.resolve_right id
    exact intoBody_of_replayable tries.body

/-- Whatever becomes of HTTP/3: attempts carry the send's own request, a response
of theirs keeps hyper out of it, and a streaming body goes to hyper alone. Where
they bring no response and the request's timer does not expire, hyper gets the
request it would get with HTTP/3 switched off, once, and its answer is returned,
if and only if every expiry on the way is representable. -/
theorem transparent_fallback (reached : Reachable pace (.start clock shared) w)
    (found : w.tasks[i]? = some task) (parsed : task.job.val.uri = .ok uri) :
    AttemptsCarry task.job.val uri (w.logOf i) ∧
    ((∃ e ∈ w.logOf i, attemptResponds e.label = true) →
      recordOf sentToHyper (w.logOf i) = []) ∧
    (∀ handle, task.job.val.body = .streaming handle →
      (∀ e ∈ w.logOf i, opensAttempt e.label = false) ∧
      (hyperRequestOf task.job.val uri).body = handle ∧
      (RunsToEnd w i task →
        recordOf sentToHyper (w.logOf i) = [hyperRequestOf task.job.val uri])) ∧
    (RunsToEnd w i task → (∀ e ∈ w.logOf i, attemptResponds e.label = false) →
      ((HandsOver w i task uri ∧
        ∀ (pace' : Pace) (clock' : Nat) (shared' : SharedState)
          (w' : World (sends (withoutHttp3 client))) (j : Nat)
          (task' : Task (sends (withoutHttp3 client))),
          Reachable pace' (.start clock' shared') w' → RunsToEnd w' j task' →
          task'.job.val = onTcp task.job.val →
          recordOf sentToHyper (w'.logOf j) = recordOf sentToHyper (w.logOf i)) ↔
        EntriesFit shared w i ∧ AnswerFits (originOf task.job.val) (w.logOf i))) := by
  refine ⟨attempts_carry reached found parsed, responded_not_handed reached found, ?_, ?_⟩
  · intro handle streaming
    have never : ∀ origin body, ¬ TriesHttp3 task.job.val origin body := by
      intro origin body tries
      have replayable := tries.body
      rw [streaming] at replayable
      cases replayable
    refine ⟨?_, ?_, fun ends => handed_over_without_http3 reached ends parsed never⟩
    · intro e own
      have has := run_footprint reached found e own
      unfold opensAttempt
      split
      · rename_i origin call ans here
        rw [here] at has
        exact absurd (has.2.resolve_right id).1 (never origin call.body)
      · rfl
    · simp only [hyperRequestOf, streaming]
      rfl
  · intro ends unanswered
    rw [entriesFit_iff reached]
    rcases course_ends reached ends parsed unanswered with
      ⟨overflow, unreturned⟩ | ⟨lost, -, unreturned⟩ | ⟨fits, readable, isOver⟩
    · constructor
      · rintro ⟨⟨-, answer, -, returned⟩, -⟩
        exact absurd returned (unreturned _)
      · rintro ⟨fits, -⟩
        rw [overflow] at fits
        cases fits
    · constructor
      · rintro ⟨⟨-, answer, -, returned⟩, -⟩
        exact absurd returned (unreturned _)
      · rintro ⟨-, readable⟩
        exact absurd readable lost
    · refine ⟨fun _ => ⟨fits, readable⟩, fun _ => ⟨isOver, ?_⟩⟩
      intro pace' clock' shared' w' j task' reached' ends' same
      have never : ∀ origin body, ¬ TriesHttp3 task'.job.val origin body := by
        intro origin body tries
        have enabled := tries.enabled
        rw [same] at enabled
        cases enabled
      have parsed' : task'.job.val.uri = .ok uri := by
        rw [same]
        exact parsed
      rw [handed_over_without_http3 reached' ends' parsed' never, isOver.handed, same]
      rfl

end Run

namespace Example

/-- No endpoint for HTTP/3; hyper answers. -/
def refusedThenAnswered : List (Label sig) :=
  consults start none ++ refused start 0 client.http3NegativeCacheDuration ++
  [.call (.trace .tryHttp3Left) (), .issue (.hyperRequest hyperRequest),
    .done (.hyperRequest hyperRequest) (.ok (⟨200, HeaderMap.empty⟩, 0))]

/-- A client that is to remember failures for ever. -/
def unforgiving : Client :=
  { client with http3NegativeCacheDuration := Duration.fromSecs 18446744073709551615 }

/-- The same failure; its negative entry has no expiry, and the send panics. -/
def refusedForEver : List (Label sig) :=
  consults start none ++ resolves start 0 [h3Record] ++
  [.call (.httpsRrInsert origin h3Entry) (),
    .call (.trace (.http3Request origin (call (httpsRrTarget origin h3Entry)))) (),
    .call .endpoint (.error []),
    .call (.trace (.http3Outcome origin 0 (.failed (.handshake [])))) (),
    .call (.negativeInsert origin start unforgiving.http3NegativeCacheDuration)
      (.error .instantOverflow)]

end Example

/-- After a failure over HTTP/3 hyper's response is returned. -/
theorem transparent_fallback_refused :
    ∃ (w : World (sends Example.client)) (task : Task (sends Example.client)),
      (∃ e ∈ w.logOf 0, opensAttempt e.label = true) ∧
      HandsOver w 0 task Example.uri := by
  have ran : ((World.start 0 SharedState.new).run .strict (Example.spawned Example.client ::
      Example.performs 0 Example.refusedThenAnswered)).map (fun w => (w.tasks, w.log)) =
      some ([⟨⟨Example.builder Example.client, rfl⟩, 0,
          .running (.ret (Except.ok (Response.new ⟨200, HeaderMap.empty⟩ 0)))⟩],
        Example.logged 0 0 Example.refusedThenAnswered) := rfl
  obtain ⟨w, reached, seen⟩ := Option.map_eq_some_iff.mp ran
  simp only [Prod.mk.injEq] at seen
  obtain ⟨tasks, log⟩ := seen
  have reached := Reachable.of_run _ .refl reached
  have found : w.tasks[0]? = some ⟨⟨Example.builder Example.client, rfl⟩, 0,
      .running (.ret (Except.ok (Response.new ⟨200, HeaderMap.empty⟩ 0)))⟩ := by
    rw [tasks]
    rfl
  have own : w.logOf 0 = Example.logged 0 0 Example.refusedThenAnswered := by
    rw [World.logOf, log]
    rfl
  have uncut : (w.logOf 0).any (fun e => cutsShort e.label) = false := by
    rw [own]
    rfl
  have unanswered : (w.logOf 0).any (fun e => attemptResponds e.label) = false := by
    rw [own]
    rfl
  have opened : (w.logOf 0).any (fun e => opensAttempt e.label) = true := by
    rw [own]
    rfl
  have fits : EntriesFit SharedState.new w 0 := by
    rw [entriesFit_iff reached, own]
    rfl
  have readable : AnswerFits (some Example.origin) (w.logOf 0) := by
    rw [← course_spoiled _ true, own]
    rfl
  have ends : RunsToEnd w 0 _ := ⟨found, rfl, ⟨_, rfl⟩, by simpa using uncut, rfl⟩
  obtain ⟨-, -, -, falls⟩ := transparent_fallback reached found rfl
  exact ⟨w, _, List.any_eq_true.mp opened,
    ((falls ends (by simpa using unanswered)).mpr ⟨fits, readable⟩).1⟩

/-- With a duration past the last instant the same failure keeps the request from
hyper, and unwinds instead. -/
theorem transparent_fallback_panics :
    ∃ (w : World (sends Example.unforgiving)) (task : Task (sends Example.unforgiving)),
      Reachable .strict (.start 0 SharedState.new) w ∧ w.tasks[0]? = some task ∧
      task.body = .running .panic ∧ (∀ e ∈ w.logOf 0, attemptResponds e.label = false) ∧
      (∀ e ∈ w.logOf 0, cutsShort e.label = false) ∧
      recordOf sentToHyper (w.logOf 0) = [] := by
  have ran : ((World.start 0 SharedState.new).run .strict (Example.spawned Example.unforgiving ::
      Example.performs 0 Example.refusedForEver)).map (fun w => (w.tasks[0]?.map Task.body, w.log)) =
      some (some (.running .panic), Example.logged 0 0 Example.refusedForEver) := rfl
  obtain ⟨w, reached, seen⟩ := Option.map_eq_some_iff.mp ran
  simp only [Prod.mk.injEq] at seen
  obtain ⟨body, log⟩ := seen
  obtain ⟨task, found, isOver⟩ := Option.map_eq_some_iff.mp body
  have own : w.logOf 0 = Example.logged 0 0 Example.refusedForEver := by
    rw [World.logOf, log]
    rfl
  refine ⟨w, task, Reachable.of_run _ .refl reached, found, isOver, ?_, ?_, ?_⟩
  · have none : (w.logOf 0).any (fun e => attemptResponds e.label) = false := by
      rw [own]
      rfl
    simpa using none
  · have none : (w.logOf 0).any (fun e => cutsShort e.label) = false := by
      rw [own]
      rfl
    simpa using none
  · rw [own]
    rfl

end MechanicsHttpClient.Guarantees
