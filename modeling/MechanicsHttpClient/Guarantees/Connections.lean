import MechanicsHttpClient.Guarantees.SendOutcome
import MechanicsHttpClient.Guarantees.SendTransmission

/-!
# Connections are made for one request

src/http3.rs:50-141. The endpoint is set up once for a client and then kept. The
connections on it are not shared: every request that goes over HTTP/3 has been
preceded, in its own attempt, by a connection made for it, and it is the first
on that connection.
-/

namespace MechanicsHttpClient.Guarantees

open MechanicsHttpClient.Runtime
open MechanicsHttpClient.Source

/-- What an attempt does with its connection. -/
def onConnection : Label sig → Bool
  | .call .endpoint _ => true
  | .call (.connect _ _) _ => true
  | .done .connecting _ => true
  | .done .h3Build _ => true
  | .issue (.sendRequest _) => true
  | _ => false

def connectionMonitor : Monitor sig (Option (Since sig Http3Call)) :=
  Monitor.since attemptStarted onConnection

/-- A connection to this address, on which nothing has been sent. -/
def connectedTo (addr : SocketAddr) (serverName : Str) : List (Label sig) :=
  [.call .endpoint (.ok ()), .call (.connect addr serverName) (.ok ()),
    .done .connecting (.ok ()), .done .h3Build (.ok ())]

/-- How much of the connection has been made before this part of an attempt. -/
def Leg.made : Leg → Nat
  | .endpoint => 0
  | .resolve => 1
  | .connect _ => 1
  | .connecting => 2
  | .build => 3
  | _ => 4

/-- The parts before the request is sent. -/
def Leg.unsent : Leg → Wait → Bool
  | .openStream, .issued => false
  | .upload _ _, _ => false
  | .finish _, _ => false
  | .receive _, _ => false
  | _, _ => true

/-- Where an attempt that has not sent its request is with its connection. -/
def Stage.Connects (plan : Plan) (last : Option (Since sig Http3Call)) : Stage → Prop
  | .attempting round leg wait => leg.unsent wait = true →
    ∃ time addr, last = some ⟨callOf round.target plan.http3Request round.aim.body, time,
      (connectedTo addr round.target.authorityHost).take leg.made⟩
  | _ => True

section Step

variable {plan : Plan} {last : Option (Since sig Http3Call)} {t : Nat} {label : Label sig}
  {round : Round} {leg leg' : Leg} {wait wait' : Wait}

theorem connects_silent (before : (Stage.attempting round leg wait).Connects plan last)
    (unsent : leg.unsent wait = true) (same : leg'.made = leg.made)
    (starts : attemptStarted label = none) (silent : onConnection label = false) :
    (Stage.attempting round leg' wait').Connects plan (connectionMonitor.next last t label) := by
  intro _
  obtain ⟨time, addr, known⟩ := before unsent
  refine ⟨time, addr, ?_⟩
  simp [connectionMonitor, Monitor.since, starts, silent, known, same]

theorem connects_noted (before : (Stage.attempting round leg wait).Connects plan last)
    (unsent : leg.unsent wait = true) (starts : attemptStarted label = none)
    (noted : onConnection label = true)
    (next : ∀ addr, ∃ addr',
      (connectedTo addr round.target.authorityHost).take leg.made ++ [label] =
        (connectedTo addr' round.target.authorityHost).take leg'.made) :
    (Stage.attempting round leg' wait').Connects plan (connectionMonitor.next last t label) := by
  intro _
  obtain ⟨time, addr, known⟩ := before unsent
  obtain ⟨addr', made⟩ := next addr
  refine ⟨time, addr', ?_⟩
  simp only [connectionMonitor, Monitor.since, starts, noted, known, if_true, Option.map_some, made]

/-- Once there is a stream, the request has been sent. -/
theorem connects_sent (sent : leg.stream ≠ none) :
    (Stage.attempting round leg wait).Connects plan last := by
  cases leg with
  | upload stream body => simp [Stage.Connects, Leg.unsent]
  | finish stream => simp [Stage.Connects, Leg.unsent]
  | receive stream => simp [Stage.Connects, Leg.unsent]
  | _ => exact absurd rfl sent

theorem opened_connects (stream : BodyHandle) : (round.opened stream).Connects plan last := by
  obtain ⟨leg, same, has⟩ := round.opened_eq stream
  rw [same]
  exact connects_sent (by simp [has])

theorem AttemptStep.connects_sent {next : Stage}
    (step : AttemptStep plan round leg wait label next) (sent : leg.stream ≠ none) :
    next.Connects plan last := by
  cases step with
  | arms deadline => exact Guarantees.connects_sent sent
  | starts op within early => exact Guarantees.connects_sent sent
  | goesOn forward kept plain called => exact Guarantees.connects_sent (by rwa [kept])
  | opens stream => exact opened_connects stream
  | refuses => exact True.intro
  | fails started plain called => exact True.intro
  | answers stream parts => exact True.intro

/-- An awaited part before the request, by what its answers lead to. -/
theorem await_connects {op : Op} {timer : Option Timer} {settled : op.Ans → Stage}
    {elapsed next : Stage} (unsent : ∀ wait, leg.unsent wait = true)
    (silent : onConnection (.issue op) = false)
    (answered : ∀ ans, (Stage.attempting round leg .issued).Connects plan last →
      (settled ans).Connects plan (connectionMonitor.next last t (.done op ans)))
    (cut : ∀ last, elapsed.Connects plan last)
    (taken : (@Await.move sig _ ⟨op, timer, settled, elapsed⟩ (.attempting round leg) wait).step
      label = some next)
    (before : (Stage.attempting round leg wait).Connects plan last) :
    next.Connects plan (connectionMonitor.next last t label) := by
  rcases Await.step_cases taken with
    ⟨own, deadline, rfl, -, rfl, rfl⟩ | ⟨early, rfl, rfl⟩ | ⟨ans, rfl, rfl, rfl⟩ |
    ⟨own, j, deadline, rfl, isOwn, rfl, rfl⟩
  · exact connects_silent before (unsent _) rfl rfl rfl
  · exact connects_silent before (unsent _) rfl rfl silent
  · exact answered ans before
  · exact cut _

/-- One part of an attempt. -/
theorem attempt_connects {next : Stage}
    (taken : (plan.attemptMove round leg wait).step label = some next)
    (before : (Stage.attempting round leg wait).Connects plan last) :
    next.Connects plan (connectionMonitor.next last t label) := by
  cases leg with
  | endpoint =>
    cases wait with
    | due =>
      obtain ⟨ans, rfl, rfl⟩ := Move.step_call_iff.mp taken
      cases ans with
      | error message => exact True.intro
      | ok _ =>
        rcases round.dialling_eq with same | ⟨addr, same⟩
        · simp only [same]
          exact connects_noted before rfl rfl rfl fun addr => ⟨addr, rfl⟩
        · simp only [same]
          exact connects_noted before rfl rfl rfl fun addr => ⟨addr, rfl⟩
    | armed => exact absurd taken Move.step_stop
    | issued => exact absurd taken Move.step_stop
  | connect addr =>
    cases wait with
    | due =>
      obtain ⟨ans, rfl, rfl⟩ := Move.step_call_iff.mp taken
      cases ans with
      | error message => exact True.intro
      | ok _ => exact connects_noted before rfl rfl rfl fun _ => ⟨addr, rfl⟩
    | armed => exact absurd taken Move.step_stop
    | issued => exact absurd taken Move.step_stop
  | resolve =>
    rw [Plan.attemptMove] at taken
    refine await_connects (fun _ => rfl) rfl ?_ ?_ taken before
    · intro ans before
      rcases ans with message | _ | ⟨addr, rest⟩
      · exact True.intro
      · exact True.intro
      · exact connects_silent before rfl rfl rfl rfl
    · exact fun _ => True.intro
  | connecting =>
    rw [Plan.attemptMove] at taken
    refine await_connects (fun _ => rfl) rfl ?_ ?_ taken before
    · intro ans before
      cases ans with
      | error message => exact True.intro
      | ok _ => exact connects_noted before rfl rfl rfl fun addr => ⟨addr, rfl⟩
    · exact fun _ => True.intro
  | build =>
    rw [Plan.attemptMove] at taken
    refine await_connects (fun _ => rfl) rfl ?_ ?_ taken before
    · intro ans before
      cases ans with
      | error message => exact True.intro
      | ok _ => exact connects_noted before rfl rfl rfl fun addr => ⟨addr, rfl⟩
    · exact fun _ => True.intro
  | openStream =>
    rw [Plan.attemptMove] at taken
    rcases Await.step_cases taken with
      ⟨own, deadline, rfl, -, rfl, rfl⟩ | ⟨early, rfl, rfl⟩ | ⟨ans, rfl, rfl, rfl⟩ |
      ⟨own, j, deadline, rfl, isOwn, rfl, rfl⟩
    · exact connects_silent before rfl rfl rfl rfl
    · -- From here on the request may have been sent.
      simp [Stage.Connects, Leg.unsent]
    · cases ans with
      | error _ => exact True.intro
      | ok stream => exact opened_connects stream
    · exact True.intro
  | upload stream body => exact (Plan.attemptMove_step taken).connects_sent (by simp [Leg.stream])
  | finish stream => exact (Plan.attemptMove_step taken).connects_sent (by simp [Leg.stream])
  | receive stream => exact (Plan.attemptMove_step taken).connects_sent (by simp [Leg.stream])

/-- The other stages lead into an attempt only where one is started. -/
theorem move_connects {stage after : Stage} (moved : (plan.move stage).step label = some after)
    (before : stage.Connects plan last) :
    after.Connects plan (connectionMonitor.next last t label) := by
  cases stage with
  | opening round =>
    obtain ⟨_, rfl, rfl⟩ := Move.step_call_iff.mp moved
    -- Nothing has been connected to yet, so any address will do.
    exact fun _ => ⟨t, ⟨.v4 0, 0⟩, rfl⟩
  | attempting round leg wait => exact attempt_connects moved before
  | arming aim =>
    obtain ⟨_, rfl⟩ := Move.step_arm_iff.mp moved
    exact True.intro
  | checking aim now =>
    obtain ⟨hit, rfl, rfl⟩ := Move.step_call_iff.mp moved
    cases hit <;> exact True.intro
  | recalling aim now =>
    obtain ⟨found, rfl, rfl⟩ := Move.step_call_iff.mp moved
    cases found <;> exact True.intro
  | closing round result =>
    obtain ⟨_, rfl, rfl⟩ := Move.step_call_iff.mp moved
    rcases result with (message | retryWithoutH3) | response
    · exact True.intro
    · simp only [Round.next]
      split <;> exact True.intro
    · exact True.intro
  | blaming round =>
    obtain ⟨stored, rfl, rfl⟩ := Move.step_call_iff.mp moved
    cases stored <;> exact True.intro
  | evicting round =>
    obtain ⟨_, rfl, rfl⟩ := Move.step_call_iff.mp moved
    unfold Round.abandon
    split <;> exact True.intro
  | caching aim now =>
    obtain ⟨cached, rfl, rfl⟩ := Move.step_call_iff.mp moved
    cases cached with
    | some entry =>
      simp only [Plan.advertised]
      split <;> exact True.intro
    | none => exact True.intro
  | looking aim now wait =>
    rw [Plan.move] at moved
    rcases Await.step_cases moved with
      ⟨timer, deadline, rfl, own, rfl, rfl⟩ | ⟨early, rfl, rfl⟩ | ⟨ans, rfl, rfl, rfl⟩ |
      ⟨timer, j, deadline, rfl, own, rfl, rfl⟩
    · exact True.intro
    · exact True.intro
    · rcases ans with e | records
      · exact True.intro
      · simp only
        split <;> exact True.intro
    · exact True.intro
  | storing aim now entry =>
    obtain ⟨_, rfl, rfl⟩ := Move.step_call_iff.mp moved
    simp only [Plan.advertised]
    split <;> exact True.intro
  | leaving response =>
    cases response with
    | some response =>
      obtain ⟨_, rfl, rfl⟩ := Move.step_call_iff.mp moved
      exact True.intro
    | none =>
      obtain ⟨_, rfl, rfl⟩ := Move.step_call_iff.mp moved
      exact True.intro
  | transmitting wait =>
    rw [Plan.move] at moved
    rcases Await.step_cases moved with
      ⟨timer, deadline, rfl, own, rfl, rfl⟩ | ⟨early, rfl, rfl⟩ | ⟨ans, rfl, rfl, rfl⟩ |
      ⟨timer, j, deadline, rfl, own, rfl, rfl⟩
    · exact True.intro
    · exact True.intro
    · rcases ans with err | ⟨parts, incoming⟩
      · exact True.intro
      · simp only [Plan.answered, Plan.arrived]
        split <;> exact True.intro
    · exact True.intro
  | learning response origin value =>
    obtain ⟨now, rfl, rfl⟩ := Move.step_call_iff.mp moved
    split <;> exact True.intro
  | condemning aim now =>
    obtain ⟨stored, rfl, rfl⟩ := Move.step_call_iff.mp moved
    cases stored <;> exact True.intro
  | timedOut aim now =>
    obtain ⟨stored, rfl, rfl⟩ := Move.step_call_iff.mp moved
    cases stored <;> exact True.intro
  | dropped aim => exact absurd moved Move.step_stop
  | ended result => exact absurd moved Move.step_stop
  | unwound => exact absurd moved Move.step_stop
  | _ =>
    obtain ⟨_, rfl, rfl⟩ := Move.step_call_iff.mp moved
    exact True.intro

theorem step_connects {position next : Position}
    (taken : plan.protocol.step position label = some next)
    (before : position.stage.Connects plan last) :
    next.stage.Connects plan (connectionMonitor.next last t label) := by
  obtain ⟨stage, expired⟩ := position
  rcases Plan.step_cases taken with
    ⟨after, moved, rfl, called⟩ | ⟨after, op, ans, rfl, cleaned, rfl⟩ |
    ⟨after, op, ans, rfl, rfl, cut, rfl⟩ | ⟨j, deadline, rfl, rfl, probing, rfl⟩
  · exact move_connects moved before
  · unfold Plan.cleanup at cleaned
    split at cleaned
    · obtain ⟨_, same, rfl⟩ := Move.step_call_iff.mp cleaned
      exact True.intro
    · exact absurd cleaned Move.step_stop
  · unfold Plan.afterCut at cut
    split at cut
    · obtain ⟨_, same, rfl⟩ := Move.step_call_iff.mp cut
      exact True.intro
    · obtain ⟨_, same, rfl⟩ := Move.step_call_iff.mp cut
      exact True.intro
    · exact absurd cut Move.step_stop
  · -- The expiry of the request's timeout is no step of the attempt.
    exact before

theorem attempt_sends {next : Stage} {request : Request Unit}
    (taken : (plan.attemptMove round leg wait).step (.issue (.sendRequest request)) = some next) :
    leg = .openStream ∧ wait ≠ .issued ∧ request = plan.http3Request := by
  cases leg with
  | openStream =>
    rw [Plan.attemptMove] at taken
    obtain ⟨early, same⟩ := Await.step_issued taken
    cases same
    exact ⟨rfl, early, rfl⟩
  | endpoint =>
    cases wait with
    | due =>
      obtain ⟨_, no, _⟩ := Move.step_call_iff.mp taken
      cases no
    | _ => exact absurd taken Move.step_stop
  | connect addr =>
    cases wait with
    | due =>
      obtain ⟨_, no, _⟩ := Move.step_call_iff.mp taken
      cases no
    | _ => exact absurd taken Move.step_stop
  | _ =>
    rw [Plan.attemptMove] at taken
    obtain ⟨_, no⟩ := Await.step_issued taken
    cases no

/-- A request is put on a stream by an attempt that has connected and not sent it yet. -/
theorem move_sends {stage after : Stage} {request : Request Unit}
    (moved : (plan.move stage).step (.issue (.sendRequest request)) = some after) :
    ∃ round wait, stage = .attempting round .openStream wait ∧ wait ≠ .issued ∧
      request = plan.http3Request := by
  cases stage with
  | attempting round leg wait =>
    obtain ⟨rfl, early, same⟩ := attempt_sends moved
    exact ⟨round, wait, rfl, early, same⟩
  | arming aim =>
    obtain ⟨⟨_, no⟩, _⟩ := Move.step_arm_iff.mp moved
    cases no
  | looking aim now wait =>
    rw [Plan.move] at moved
    obtain ⟨_, no⟩ := Await.step_issued moved
    cases no
  | transmitting wait =>
    rw [Plan.move] at moved
    obtain ⟨_, no⟩ := Await.step_issued moved
    cases no
  | leaving response =>
    cases response <;>
    · obtain ⟨_, no, _⟩ := Move.step_call_iff.mp moved
      cases no
  | dropped aim => exact absurd moved Move.step_stop
  | ended result => exact absurd moved Move.step_stop
  | unwound => exact absurd moved Move.step_stop
  | _ =>
    obtain ⟨_, no, _⟩ := Move.step_call_iff.mp moved
    cases no

end Step

section Runs

variable {client : Client} {pace : Pace} {clock : Nat} {w : World (sends client)}

theorem start_connects (plan : Plan) : plan.start.Connects plan none := by
  unfold Plan.start
  split
  · split <;> exact True.intro
  · exact True.intro

theorem run_connects {plan : Plan} {position : Position} {log : List (Entry sig)}
    (ran : plan.protocol.run ⟨plan.start, false⟩ log = some position) :
    position.stage.Connects plan (connectionMonitor.run none log) := by
  have keeps : ∀ last (here : Position) t label next, plan.protocol.step here label = some next →
      here.stage.Connects plan last →
      next.stage.Connects plan (connectionMonitor.next last t label) :=
    fun _ _ _ _ _ taken before => step_connects taken before
  exact Protocol.run_tracks keeps ran (start_connects plan)

/-- Every request that goes over HTTP/3 goes over a connection that its own attempt has made,
and is the first on it. -/
theorem requests_open_connections {shared : SharedState}
    (reached : Reachable pace (.start clock shared) w) {i : Nat} {task : Task (sends client)}
    (found : w.tasks[i]? = some task) {before after : List (Entry sig)} {e : Entry sig}
    (split : w.logOf i = before ++ e :: after) {request : Request Unit}
    (isSent : e.label = .issue (.sendRequest request)) :
    ∃ older started between call addr, before = older ++ started :: between ∧
      attemptStarted started.label = some call ∧ call.request = request ∧
      (∀ e' ∈ between, attemptStarted e'.label = none) ∧
      (between.map Entry.label).filter onConnection = connectedTo addr call.authorityHost := by
  obtain ⟨position, ran, -⟩ := send_follows reached found
  rw [split] at ran
  obtain ⟨here, next, ranBefore, taken, -⟩ := Protocol.run_split ran
  obtain ⟨plan, planned⟩ : ∃ plan, planOf task.job.val = .ok plan := by
    cases planned : planOf task.job.val with
    | ok plan => exact ⟨plan, rfl⟩
    | error err =>
      simp only [sendProtocol, planned] at taken
      cases taken
  simp only [sendProtocol, sendStart, planned] at ranBefore taken
  obtain ⟨stage, expired⟩ := here
  rw [isSent] at taken
  have known := run_connects ranBefore
  rcases Plan.step_cases taken with
    ⟨_, moved, -, -⟩ | ⟨_, _, _, no, -⟩ | ⟨_, _, _, no, -⟩ | ⟨_, _, no, -⟩
  · obtain ⟨round, wait, rfl, early, rfl⟩ := move_sends moved
    have unsent : Leg.openStream.unsent wait = true := by
      cases wait with
      | issued => exact absurd rfl early
      | _ => rfl
    obtain ⟨time, addr, last⟩ := known unsent
    obtain ⟨older, started, between, same, starts, -, noted, silent⟩ :=
      Monitor.run_since before last
    exact ⟨older, started, between, _, addr, same, starts, rfl, silent, noted.symm⟩
  · cases no
  · cases no
  · cases no

end Runs

/-- The request of two bytes. -/
theorem requests_open_connections_upload :
    ∃ (w : World (sends Example.client)) (older between : List (Entry sig)) (started : Entry sig)
      (call : Http3Call) (addr : SocketAddr), older ++ started :: between <+: w.logOf 1 ∧
      attemptStarted started.label = some call ∧ call.request = Example.h3Request ∧
      (between.map Entry.label).filter onConnection = connectedTo addr call.authorityHost := by
  obtain ⟨w, task, reached, found, log, -, -⟩ := Example.ends .strict
    Example.uploadsOverHttp3 1
    (Example.logged 0 0 (Example.learns Example.ownPort (Example.entryOn none)) ++
      Example.logged 1 0 Example.answersUpload)
    ⟨Example.sendsBody, rfl⟩ (some (.ok (Response.newH3 ⟨200, HeaderMap.empty⟩ 7))) rfl
  have split : w.logOf 1 = (Example.logged 1 0 Example.answersUpload).take 18 ++
      ⟨1, 0, .issue (.sendRequest Example.h3Request)⟩ ::
        (Example.logged 1 0 Example.answersUpload).drop 19 := by
    rw [World.logOf, log]
    rfl
  obtain ⟨older, started, between, call, addr, before, starts, same, -, labels⟩ :=
    requests_open_connections reached found split rfl
  have started_of : older ++ started :: between <+: w.logOf 1 := ⟨_, by rw [split, before]⟩
  exact ⟨w, older, between, started, call, addr, started_of, starts, same, labels⟩

/-- An endpoint is there, or has just been set up. -/
def hasEndpoint : Label sig → Bool
  | .call .endpoint (.ok _) => true
  | _ => false

def lacksEndpoint : Label sig → Bool
  | .call .endpoint (.error _) => true
  | _ => false

section Endpoint

variable {client : Client} {pace : Pace} {clock : Nat} {shared shared' : SharedState}

theorem respond_endpoint {op : Op} {ans : op.Ans}
    (answers : respond op clock shared ans = some shared') (other : op ≠ .endpoint) :
    shared'.endpoint = shared.endpoint := by
  cases op with
  | endpoint => exact absurd rfl other
  | instantNow =>
    simp only [respond] at answers
    split at answers <;> cases answers
    rfl
  | negativeCacheHit origin now =>
    obtain ⟨-, rfl⟩ := answered_eq_some answers
    rfl
  | altSvcEntry origin now =>
    obtain ⟨-, rfl⟩ := answered_eq_some answers
    rfl
  | httpsRrCached origin now =>
    obtain ⟨-, rfl⟩ := answered_eq_some answers
    rfl
  | httpsRrInsert origin entry =>
    obtain ⟨-, rfl⟩ := answered_eq_some answers
    unfold SharedState.httpsRrInsert
    split <;> rfl
  | negativeInsert origin now duration =>
    obtain ⟨-, rfl⟩ := answered_eq_some answers
    unfold SharedState.negativeInsert
    repeat' split
    all_goals rfl
  | altSvcRemove origin =>
    obtain ⟨-, rfl⟩ := answered_eq_some answers
    unfold SharedState.altSvcRemove
    split <;> rfl
  | altSvcUpdate origin update =>
    obtain ⟨-, rfl⟩ := answered_eq_some answers
    unfold SharedState.altSvcUpdate
    repeat' split
    all_goals rfl
  | _ =>
    cases answers
    rfl

/-- What the endpoint is after a label, its lock not being poisoned. -/
structure EndpointAfter (label : Label sig) (shared shared' : SharedState) : Prop where
  sound : shared'.endpoint.poisoned = false
  value : shared'.endpoint.value = (shared.endpoint.value || hasEndpoint label)
  kept : shared.endpoint.value = true → lacksEndpoint label = false

theorem EndpointAfter.same {label : Label sig} (sound : shared.endpoint.poisoned = false)
    (same : shared'.endpoint = shared.endpoint) (has : hasEndpoint label = false)
    (lacks : lacksEndpoint label = false) : EndpointAfter label shared shared' where
  sound := by rw [same, sound]
  value := by rw [same, has, Bool.or_false]
  kept _ := lacks

theorem endpointAnswer_after {ans : Except Str Unit} (sound : shared.endpoint.poisoned = false)
    (answers : answered (shared.endpointAnswer ans) ans = some shared') :
    EndpointAfter (.call .endpoint ans) shared shared' := by
  obtain ⟨isAns, rfl⟩ := answered_eq_some answers
  unfold SharedState.endpointAnswer at isAns ⊢
  cases there : shared.endpoint.value with
  | true =>
    simp only [sound, there, Bool.false_eq_true, if_false, if_true] at isAns
    subst isAns
    exact ⟨by simp [sound], by simp [sound, there], fun _ => rfl⟩
  | false =>
    have unkept : shared.endpoint.value = true → lacksEndpoint (.call .endpoint ans) = false := by
      simp [there]
    cases ans with
    | error message => exact ⟨by simp [sound], by simp [sound, there, hasEndpoint], unkept⟩
    | ok created => exact ⟨by simp [sound], by simp [sound, there, hasEndpoint], unkept⟩

theorem effect_endpoint {label : Label sig} (sound : shared.endpoint.poisoned = false)
    (effect : (sends client).effect clock shared label = some shared') :
    EndpointAfter label shared shared' := by
  cases label with
  | call op ans =>
    have answers : respond op clock shared ans = some shared' := effect
    cases op with
    | endpoint => exact endpointAnswer_after sound answers
    | _ => exact .same sound (respond_endpoint answers (by simp)) rfl rfl
  | _ =>
    cases effect
    exact .same sound rfl rfl rfl

theorem replay_endpoint (log : List (Entry sig)) :
    ∀ {shared shared' : SharedState}, shared.endpoint.poisoned = false →
      replay (sends client) shared log = some shared' →
      shared'.endpoint.poisoned = false ∧
      shared'.endpoint.value = (shared.endpoint.value || log.any fun e => hasEndpoint e.label) ∧
      (shared.endpoint.value = true → ∀ e ∈ log, lacksEndpoint e.label = false) := by
  induction log with
  | nil =>
    intro shared shared' sound replayed
    cases replayed
    simp [sound]
  | cons e rest ih =>
    intro shared shared' sound replayed
    obtain ⟨next, effect, replayed⟩ := Option.bind_eq_some_iff.mp replayed
    have step := effect_endpoint sound effect
    obtain ⟨sound', later, keeps⟩ := ih step.sound replayed
    refine ⟨sound', ?_, ?_⟩
    · rw [later, step.value, List.any_cons, Bool.or_assoc]
    · intro there e' mem
      rcases List.mem_cons.mp mem with rfl | mem
      · exact step.kept there
      · exact keeps (by rw [step.value, there, Bool.true_or]) e' mem

/-- A call that finds no endpoint sets one up; its answer is what the set-up reports. -/
def setUp (shared : SharedState) : Label sig → Option (Except Str Unit)
  | .call .endpoint created =>
    if shared.endpoint.poisoned || shared.endpoint.value then none else some created
  | _ => none

/-- What the set-ups in a log report, in the order of the log. -/
def setUps (client : Client) : SharedState → List (Entry sig) → List (Except Str Unit)
  | _, [] => []
  | shared, e :: rest =>
    (setUp shared e.label).toList ++
      (((sends client).effect e.time shared e.label).elim [] fun next => setUps client next rest)

/-- Where an endpoint is there none is set up any more. -/
theorem setUps_none (log : List (Entry sig)) :
    ∀ {shared : SharedState}, shared.endpoint.poisoned = false → shared.endpoint.value = true →
      setUps client shared log = [] := by
  induction log with
  | nil => exact fun _ _ => rfl
  | cons e rest ih =>
    intro shared sound there
    have unasked : setUp shared e.label = none := by
      unfold setUp
      split
      · simp [there]
      · rfl
    rw [setUps, unasked, Option.toList_none, List.nil_append]
    cases effect : (sends client).effect e.time shared e.label with
    | none => rfl
    | some next =>
      have step := effect_endpoint sound effect
      exact ih step.sound (by rw [step.value, there, Bool.true_or])

/-- While no endpoint is there a set-up fails, or makes the one that is kept. -/
theorem setUp_first {label : Label sig} (sound : shared.endpoint.poisoned = false)
    (missing : shared.endpoint.value = false)
    (effect : (sends client).effect clock shared label = some shared') :
    (setUp shared label = none ∧ shared'.endpoint.value = false) ∨
    (∃ message, setUp shared label = some (.error message) ∧ shared'.endpoint.value = false) ∨
    (setUp shared label = some (.ok ()) ∧ shared'.endpoint.value = true) := by
  have value := (effect_endpoint sound effect).value
  rw [missing, Bool.false_or] at value
  rw [value]
  cases label with
  | call op ans =>
    cases op with
    | endpoint =>
      have here : setUp shared (.call .endpoint ans) = some ans := by simp [setUp, sound, missing]
      cases ans with
      | error message => exact .inr (.inl ⟨message, here, rfl⟩)
      | ok created => exact .inr (.inr ⟨here, rfl⟩)
    | _ => exact .inl ⟨rfl, rfl⟩
  | _ => exact .inl ⟨rfl, rfl⟩

theorem setUps_replay (log : List (Entry sig)) :
    ∀ {shared shared' : SharedState}, shared.endpoint.poisoned = false →
      shared.endpoint.value = false → replay (sends client) shared log = some shared' →
      ∃ failed : List Str, setUps client shared log =
        failed.map .error ++ if shared'.endpoint.value then [.ok ()] else [] := by
  induction log with
  | nil =>
    intro shared shared' _ missing replayed
    cases replayed
    exact ⟨[], by simp [setUps, missing]⟩
  | cons e rest ih =>
    intro shared shared' sound missing replayed
    obtain ⟨next, effect, replayed⟩ := Option.bind_eq_some_iff.mp replayed
    have step := effect_endpoint sound effect
    rw [setUps, effect, Option.elim_some]
    rcases setUp_first sound missing effect with
      ⟨unasked, still⟩ | ⟨message, fails, still⟩ | ⟨succeeds, there⟩
    · obtain ⟨failed, later⟩ := ih step.sound still replayed
      exact ⟨failed, by rw [unasked, later]; rfl⟩
    · obtain ⟨failed, later⟩ := ih step.sound still replayed
      exact ⟨message :: failed, by rw [fails, later]; rfl⟩
    · obtain ⟨-, kept, -⟩ := replay_endpoint rest step.sound replayed
      rw [there, Bool.true_or] at kept
      exact ⟨[], by rw [succeeds, setUps_none rest step.sound there, kept]; rfl⟩

/-- The endpoint is set up at most once for a client: it exists if some attempt has got it, and
no attempt after that one, of whichever send, fails to get it. Every set-up before has failed,
and after the one that succeeds there is none. -/
theorem endpoint_set_up_once {w : World (sends client)}
    (reached : Reachable pace (.start clock SharedState.new) w) :
    (w.shared.endpoint.value = true ↔ ∃ e ∈ w.log, hasEndpoint e.label = true) ∧
    (∀ before e after, w.log = before ++ e :: after → hasEndpoint e.label = true →
      ∀ e' ∈ after, lacksEndpoint e'.label = false) ∧
    ∃ failed : List Str, setUps client SharedState.new w.log =
      failed.map .error ++ if w.shared.endpoint.value then [.ok ()] else [] := by
  refine ⟨?_, ?_, setUps_replay w.log rfl rfl reached.replay_log⟩
  · obtain ⟨-, there, -⟩ := replay_endpoint w.log rfl reached.replay_log
    have none : SharedState.new.endpoint.value = false := rfl
    rw [there, none, Bool.false_or, List.any_eq_true]
  · intro before e after split has
    obtain ⟨middle, next, first, effect, rest⟩ := reached.answered split
    obtain ⟨sound, -, -⟩ := replay_endpoint before rfl first
    have step := effect_endpoint sound effect
    obtain ⟨-, -, kept⟩ := replay_endpoint after step.sound rest
    exact kept (by rw [step.value, has, Bool.or_true])

end Endpoint

/-- The send of two bytes has set the endpoint up. -/
theorem endpoint_set_up_once_upload :
    ∃ w : World (sends Example.client), (∃ e ∈ w.log, hasEndpoint e.label = true) ∧
      w.shared.endpoint.value = true ∧
      ∃ failed : List Str, setUps Example.client SharedState.new w.log =
        failed.map .error ++ [.ok ()] := by
  obtain ⟨w, task, reached, found, log, -, -⟩ := Example.ends .strict
    Example.uploadsOverHttp3 1
    (Example.logged 0 0 (Example.learns Example.ownPort (Example.entryOn none)) ++
      Example.logged 1 0 Example.answersUpload)
    ⟨Example.sendsBody, rfl⟩ (some (.ok (Response.newH3 ⟨200, HeaderMap.empty⟩ 7))) rfl
  have logged : ∃ e ∈ w.log, hasEndpoint e.label = true := by
    have here : (Example.logged 1 0 Example.answersUpload)[6]? =
        some ⟨1, 0, .call .endpoint (.ok ())⟩ := rfl
    rw [log]
    exact ⟨_, List.mem_append_right _ (List.mem_of_getElem? here), rfl⟩
  obtain ⟨exists_iff, -, failed, setUps⟩ := endpoint_set_up_once reached
  have there := exists_iff.mpr logged
  rw [there] at setUps
  exact ⟨w, logged, there, failed, setUps⟩

end MechanicsHttpClient.Guarantees
