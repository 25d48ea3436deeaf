import MechanicsHttpClient.Guarantees.AltSvcSource

/-!
# The Alt-Svc route as a function of the history

src/request.rs:276-306 and 465-526. Whether a send takes the Alt-Svc route is
decided by two lookups, and both answers are read off the log before them: what
was written for the origin, and what was purged by lookups that read a later
clock. The record of a send shows the two answers and the route it took.
-/

namespace MechanicsHttpClient.Guarantees

open MechanicsHttpClient.Runtime
open MechanicsHttpClient.Source

inductive RouteEvent where
  | checked (origin : Origin) (now : Instant) (hit : Bool)
  | looked (origin : Origin) (now : Instant) (found : Option AltSvc.AltSvcEntry)
  | routed (origin : Origin) (host : Option Str) (port : UInt16)

def routeEvent : Label sig → Option RouteEvent
  | .call (.negativeCacheHit origin now) hit => some (.checked origin now hit)
  | .call (.altSvcEntry origin now) found => some (.looked origin now found)
  | .call (.trace (.altSvcRoute origin host port)) _ => some (.routed origin host port)
  | _ => none

/-- The decisions of a send that rests or is over: it looks for an alternative
after a negative-cache miss, and takes the route to what it finds. -/
inductive Decided : List RouteEvent → Prop
  | skipped : Decided []
  | blocked (origin : Origin) (now : Instant) : Decided [.checked origin now true]
  | unknown (origin : Origin) (now : Instant) :
      Decided [.checked origin now false, .looked origin now none]
  | routed (origin : Origin) (now : Instant) (entry : AltSvc.AltSvcEntry) :
      Decided [.checked origin now false, .looked origin now (some entry),
        .routed origin entry.host entry.port]

theorem silent_admitsRetry (client : Client) (target : Http3RequestTarget)
    (request : Request Unit) (body : Option Bytes) :
    AdmitsRetry (Alphabet.silent routeEvent) client target request body where
  attempt :=
    { op := by
        intro op used
        cases op with
        | negativeCacheHit origin now => exact used.elim
        | altSvcEntry origin now => exact used.elim
        | trace point => exact used.elim
        | _ => exact ⟨fun _ => rfl, rfl, fun _ => rfl⟩
      timer := fun _ _ => ⟨fun _ => rfl, fun _ _ => rfl⟩
      unwinds := fun _ => True.intro }
  instantNow := ⟨fun _ => rfl, rfl, fun _ => rfl⟩
  negativeInsert _ := ⟨fun _ => rfl, rfl, fun _ => rfl⟩
  altSvcRemove := ⟨fun _ => rfl, rfl, fun _ => rfl⟩
  started := ⟨fun _ => rfl, rfl, fun _ => rfl⟩
  ended _ _ := ⟨fun _ => rfl, rfl, fun _ => rfl⟩
  dropped := ⟨fun _ => rfl, rfl, fun _ => rfl⟩
  unwinds := True.intro

theorem tryHttp3_decides {pace : Pace} (client : Client) (origin : Origin)
    (request : Request Unit) (body : Option Bytes) (t : Nat) :
    (tryHttp3 client origin request body).Sat (Monitor.recording routeEvent Decided) pace
      (Post.settled Decided) t [] := by
  have ignores := Monitor.recording_ignores routeEvent Decided
  have overHttpsRr : ∀ now t record, Decided record →
      (tryHttpsRrRoute client origin request body now).Sat (Monitor.recording routeEvent Decided)
        pace (Post.settled Decided) t record := by
    intro now t record decided
    have uses : (tryHttpsRrRoute client origin request body now).Uses
        (Alphabet.silent routeEvent) :=
      tryHttpsRrRoute_uses (fun entry => silent_admitsRetry client _ request body)
        ⟨fun _ => rfl, rfl, fun _ => rfl⟩ ⟨fun _ => rfl, rfl, fun _ => rfl⟩
        ⟨fun _ => rfl, fun _ _ => rfl⟩ fun _ => ⟨fun _ => rfl, rfl, fun _ => rfl⟩
    exact Prog.Sat.of_uses ignores _ uses (fun _ _ => decided) (fun _ _ _ => decided)
      (fun _ _ _ => decided) (fun _ _ => decided)
  refine tryHttp3_sat fun t₁ _ => ⟨True.intro, fun s₁ same₁ t₂ now _ _ => ⟨True.intro,
    fun s₂ same₂ t₃ hit _ _ => ⟨True.intro, fun s₃ same₃ => ?_⟩⟩⟩
  subst same₁ same₂ same₃
  constructor
  · intro blocked
    subst blocked
    exact Decided.blocked origin now
  · intro missed
    subst missed
    refine tryAltSvcRoute_sat fun t₄ found _ _ => ⟨True.intro, fun s₄ same₄ => ?_⟩
    subst same₄
    constructor
    · intro none
      subst none
      exact overHttpsRr now t₄ _ (Decided.unknown origin now)
    · intro entry some t₅ _
      subst some
      have decided := Decided.routed origin now entry
      refine ⟨True.intro, Prog.Sat.of_uses ignores _
        (retryLoop_uses (silent_admitsRetry client _ request body) now [0, 1])
        (fun _ _ => decided) ?_ (fun _ _ _ => decided) (fun _ _ => decided)⟩
      intro result t _
      rcases result with err | _ | response
      · exact decided
      · exact overHttpsRr now t _ decided
      · exact decided

theorem besideTryHttp3_silent : besideTryHttp3.Within (Alphabet.silent routeEvent) where
  op op used := by
    cases op with
    | negativeCacheHit origin now => exact used.elim
    | altSvcEntry origin now => exact used.elim
    | trace point =>
      cases point with
      | altSvcRoute origin host port => exact used.elim
      | _ => exact ⟨fun _ => rfl, rfl, fun _ => rfl⟩
    | _ => exact ⟨fun _ => rfl, rfl, fun _ => rfl⟩
  timer _ _ := ⟨fun _ => rfl, fun _ _ => rfl⟩
  unwinds _ := True.intro

theorem send_decides {pace : Pace} (builder : RequestBuilder) (t : Nat) :
    (send builder).Sat (Monitor.recording routeEvent Decided) pace (Post.settled Decided) t
      [] := by
  have ignores := Monitor.recording_ignores routeEvent Decided
  refine send_settled (ignores.within besideTryHttp3_silent) (fun _ _ => id) Decided.skipped ?_
  intro uri origin body _ _ t
  exact tryHttp3_decides builder.client origin _ body t

theorem Decided.checks_first {e : RouteEvent} {rest : List RouteEvent}
    (decided : Decided (e :: rest)) (origin : Origin) (now : Instant) (hit : Bool) :
    .checked origin now hit ∉ rest := by
  cases decided <;> simp

/-- What surrounds the check in the record of a send. -/
theorem Decided.around {earlier further : List RouteEvent} {origin : Origin} {now : Instant}
    {hit : Bool} (decided : Decided (earlier ++ .checked origin now hit :: further)) :
    earlier = [] ∧ ((hit = true ∧ further = []) ∨
      (hit = false ∧ further = [.looked origin now none]) ∨
      (hit = false ∧ ∃ entry : AltSvc.AltSvcEntry, further =
        [.looked origin now (some entry), .routed origin entry.host entry.port])) := by
  have first : earlier = [] := by
    cases earlier with
    | nil => rfl
    | cons e rest => exact absurd (by simp) (Decided.checks_first decided origin now hit)
  subst first
  refine ⟨rfl, ?_⟩
  generalize whole : [] ++ RouteEvent.checked origin now hit :: further = record at decided
  cases decided with
  | skipped => cases whole
  | blocked o n =>
    cases whole
    exact .inl ⟨rfl, rfl⟩
  | unknown o n =>
    cases whole
    exact .inr (.inl ⟨rfl, rfl⟩)
  | routed o n entry =>
    cases whole
    exact .inr (.inr ⟨rfl, entry, rfl⟩)

theorem routeEvent_looked {label : Label sig} {origin : Origin} {now : Instant}
    {found : Option AltSvc.AltSvcEntry} (h : routeEvent label = some (.looked origin now found)) :
    label = .call (.altSvcEntry origin now) found := by
  unfold routeEvent at h
  split at h <;> cases h
  rfl

theorem routeEvent_routed {label : Label sig} {origin : Origin} {host : Option Str}
    {port : UInt16} (h : routeEvent label = some (.routed origin host port)) :
    label = .call (.trace (.altSvcRoute origin host port)) () := by
  unfold routeEvent at h
  split at h <;> cases h
  rfl

section Run

variable {client : Client} {pace : Pace} {clock : Nat} {w : World (sends client)} {i : Nat}
  {task : Task (sends client)} {before later : List (Entry sig)} {check : Entry sig}
  {origin : Origin} {now : Instant} {hit : Bool}

/-- The record of a send from its negative-cache check on. -/
theorem recordOf_around (reached : Reachable pace (.start clock SharedState.new) w)
    (found : w.tasks[i]? = some task) (resting : task.body.resting = true)
    (split : w.log = before ++ check :: later) (own : check.task = i)
    (checks : check.label = .call (.negativeCacheHit origin now) hit)
    {further : List RouteEvent}
    (after : recordOf routeEvent (later.filter fun e => e.task == i) = further) :
    recordOf routeEvent (w.logOf i) = .checked origin now hit :: further ∧
      ((hit = true ∧ further = []) ∨ (hit = false ∧ further = [.looked origin now none]) ∨
        (hit = false ∧ ∃ entry : AltSvc.AltSvcEntry, further =
          [.looked origin now (some entry), .routed origin entry.host entry.port])) := by
  have verified : ∀ (job : (sends client).Job) t, ((sends client).program job).Sat
      (Monitor.recording routeEvent Decided) pace (Post.settled Decided) t [] :=
    fun job t => send_decides job.val t
  have decided := Reachable.recorded verified reached found resting
  have whole : recordOf routeEvent (w.logOf i) =
      recordOf routeEvent (before.filter fun e => e.task == i) ++
        .checked origin now hit :: further := by
    rw [World.logOf_split split own, recordOf_append, ← after]
    simp [recordOf, checks, routeEvent]
  rw [whole] at decided ⊢
  obtain ⟨first, around⟩ := Decided.around decided
  rw [first]
  exact ⟨rfl, around⟩

/-- A send that rests or is over has taken the Alt-Svc route to an alternative
exactly if no unexpired negative entry was held at its check, and this
alternative was held, unexpired, at its lookup. -/
theorem altSvcRoute_iff_held (reached : Reachable pace (.start clock SharedState.new) w)
    (sound : w.shared.negative.poisoned = false) (found : w.tasks[i]? = some task)
    (resting : task.body.resting = true) (split : w.log = before ++ check :: later)
    (own : check.task = i) (checks : check.label = .call (.negativeCacheHit origin now) hit)
    (host : Option Str) (port : UInt16) :
    (∃ e ∈ w.log, e.task = i ∧ e.label = .call (.trace (.altSvcRoute origin host port)) ()) ↔
      (∀ expiresAt, NegativeHeld origin before expiresAt → expiresAt.nanos ≤ now.nanos) ∧
      ∃ middle lookup rest answer expiresAt, later = middle ++ lookup :: rest ∧
        lookup.task = i ∧ lookup.label = .call (.altSvcEntry origin now) answer ∧
        AltSvcHeld origin (before ++ check :: middle) ⟨host, port, expiresAt⟩ ∧
        now.nanos < expiresAt.nanos := by
  obtain ⟨whole, around⟩ := recordOf_around reached found resting split own checks rfl
  have blocked := negativeCacheHit_iff reached sound split checks
  constructor
  · rintro ⟨e, logged, ownRoute, route⟩
    have recorded : .routed origin host port ∈ recordOf routeEvent (w.logOf i) :=
      mem_recordOf.mpr ⟨e, by simp [World.logOf, logged, ownRoute], by rw [route]; rfl⟩
    rw [whole] at recorded
    rcases around with ⟨-, nothing⟩ | ⟨-, unknown⟩ | ⟨missed, entry, further⟩
    · simp [nothing] at recorded
    · simp [unknown] at recorded
    · have same : host = entry.host ∧ port = entry.port := by simpa [further] using recorded
      have looked : .looked origin now (some entry) ∈
          recordOf routeEvent (later.filter fun e => e.task == i) := by simp [further]
      obtain ⟨lookup, mine, event⟩ := mem_recordOf.mp looked
      obtain ⟨mem, ownLookup⟩ := List.mem_filter.mp mine
      obtain ⟨middle, rest, splitLater⟩ := List.append_of_mem mem
      have splitLookup : w.log = (before ++ check :: middle) ++ lookup :: rest := by
        simp [split, splitLater]
      have held := (altSvcEntry_iff reached splitLookup (routeEvent_looked event) entry).mp rfl
      refine ⟨?_, middle, lookup, rest, some entry, entry.expiresAt, splitLater,
        by simpa using ownLookup, routeEvent_looked event, ?_, held.2⟩
      · intro expiresAt negative
        by_contra late
        have hit := blocked.mpr ⟨expiresAt, negative, by omega⟩
        rw [missed] at hit
        cases hit
      · rw [same.1, same.2]
        exact held.1
  · rintro ⟨-, middle, lookup, rest, answer, expiresAt, splitLater, ownLookup, looks, held, fresh⟩
    have splitLookup : w.log = (before ++ check :: middle) ++ lookup :: rest := by
      simp [split, splitLater]
    have answered := (altSvcEntry_iff reached splitLookup looks ⟨host, port, expiresAt⟩).mpr
      ⟨held, fresh⟩
    have looked : .looked origin now answer ∈
        recordOf routeEvent (later.filter fun e => e.task == i) :=
      mem_recordOf.mpr ⟨lookup, by simp [splitLater, ownLookup], by rw [looks]; rfl⟩
    rw [answered] at looked
    rcases around with ⟨-, nothing⟩ | ⟨-, unknown⟩ | ⟨-, entry, further⟩
    · simp [nothing] at looked
    · simp [unknown] at looked
    · have same : ⟨host, port, expiresAt⟩ = entry := by simpa [further] using looked
      have routed : .routed origin host port ∈ recordOf routeEvent (w.logOf i) := by
        simp [whole, further, ← same]
      obtain ⟨e, mine, event⟩ := mem_recordOf.mp routed
      obtain ⟨logged, ownRoute⟩ := List.mem_filter.mp mine
      exact ⟨e, logged, by simpa using ownRoute, routeEvent_routed event⟩

/-- The instruction was one of a send to `origin`. -/
def ofOrigin (w : World (sends client)) (origin : Origin) (e : Entry sig) : Bool :=
  match w.tasks[e.task]? with
  | some task => decide (originOf task.job.val = some origin)
  | none => false

/-- A send to another origin, or to an http URL, keeps both slots of `origin`. -/
theorem other_keeps {e : Entry sig} (reached : Reachable pace (.start clock SharedState.new) w)
    (logged : e ∈ w.log) (other : ofOrigin w origin e = false) :
    negativeAct origin e.label = .keep ∧ altSvcAct origin e.label = .keep := by
  obtain ⟨task, found, own⟩ := reached.task_of_entry logged
  apply cacheKey_other
  intro key
  have mine := cacheKey_own reached found own key
  simp [ofOrigin, found, mine] at other

/-- What is held for an origin depends only on the sends to that origin. -/
theorem held_of_origin (reached : Reachable pace (.start clock SharedState.new) w)
    {history : List (Entry sig)} (logged : ∀ e ∈ history, e ∈ w.log) (origin : Origin) :
    (∀ expiresAt, NegativeHeld origin (history.filter (ofOrigin w origin)) expiresAt ↔
      NegativeHeld origin history expiresAt) ∧
    ∀ entry, AltSvcHeld origin (history.filter (ofOrigin w origin)) entry ↔
      AltSvcHeld origin history entry := by
  have keeps : ∀ e ∈ history, ofOrigin w origin e = false →
      negativeAct origin e.label = .keep ∧ altSvcAct origin e.label = .keep :=
    fun e mem other => other_keeps reached (logged e mem) other
  constructor
  · intro expiresAt
    rw [← negativeAfter_iff, ← negativeAfter_iff, negativeAfter, negativeAfter,
      Slot.after_filter _ _ _ fun e mem other => (keeps e mem other).1]
  · intro entry
    rw [← altSvcAfter_iff, ← altSvcAfter_iff, altSvcAfter, altSvcAfter,
      Slot.after_filter _ _ _ fun e mem other => (keeps e mem other).2]

/-- The Alt-Svc route of a send is determined by the history of its origin: by
the negative entry held at its check and the alternative held at its lookup,
both written by sends to the origin, the alternative from a response it got
over TCP. -/
theorem altSvcRoute_follows_history
    (reached : Reachable pace (.start clock SharedState.new) w)
    (sound : w.shared.negative.poisoned = false) (found : w.tasks[i]? = some task)
    (resting : task.body.resting = true) (split : w.log = before ++ check :: later)
    (own : check.task = i) (checks : check.label = .call (.negativeCacheHit origin now) hit) :
    (∀ host port,
      (∃ e ∈ w.log, e.task = i ∧ e.label = .call (.trace (.altSvcRoute origin host port)) ()) ↔
        (∀ expiresAt, NegativeHeld origin before expiresAt → expiresAt.nanos ≤ now.nanos) ∧
        ∃ middle lookup rest answer expiresAt, later = middle ++ lookup :: rest ∧
          lookup.task = i ∧ lookup.label = .call (.altSvcEntry origin now) answer ∧
          AltSvcHeld origin (before ++ check :: middle) ⟨host, port, expiresAt⟩ ∧
          now.nanos < expiresAt.nanos) ∧
    (∀ history, (∀ e ∈ history, e ∈ w.log) →
      (∀ expiresAt, NegativeHeld origin (history.filter (ofOrigin w origin)) expiresAt ↔
        NegativeHeld origin history expiresAt) ∧
      ∀ entry, AltSvcHeld origin (history.filter (ofOrigin w origin)) entry ↔
        AltSvcHeld origin history entry) ∧
    ∀ e ∈ w.log, ∀ entry, altSvcWritten origin e.label = some (some entry) →
      ∃ arrived ∈ w.log, ∃ request parts value now,
        responseOf arrived.label = some (request, parts) ∧
        Origin.fromUri request.uri = some origin ∧
        parts.headers.get HeaderName.altSvc = some value ∧
        AltSvc.parseHeader value now origin.port = .ok (.entry entry) := by
  refine ⟨altSvcRoute_iff_held reached sound found resting split own checks,
    fun history logged => held_of_origin reached logged origin, ?_⟩
  intro e logged entry written
  obtain ⟨ans, updates⟩ := altSvcWritten_entry written
  exact altSvcUpdate_learned reached logged updates

end Run

namespace Example

/-- The first send learns an alternative, the second takes it. -/
def learnThenRoute : List (Event (sends client)) :=
  spawned client :: performs 0 (learns ownPort (entryOn none)) ++
  spawned client :: performs 1 (consults start (some (entryOn none)) ++ routes (entryOn none) ++
    looksUp 0 origin.host)

/-- A client that remembers failures for fifteen nanoseconds. -/
def forgetful : Client := { client with http3NegativeCacheDuration := ⟨15, by decide⟩ }

theorem ten_fits : 10 < instantLimit := by decide

def ten : Instant := ⟨10, ten_fits⟩

def twenty : Instant := ⟨20, by decide⟩

/-- Before its check, when the second send has read the clock. -/
def beforeRace : List (Entry sig) :=
  logged 0 0 (consults start none ++ refused start 0 forgetful.http3NegativeCacheDuration ++
    [.call (.trace .tryHttp3Left) ()] ++ overTcp start ownPort (.entry (entryOn none))) ++
  logged 1 10 ((consults ten none).take 2) ++ logged 2 20 ((consults twenty none).take 3)

/-- The first send fails over HTTP/3 and learns an alternative over TCP. The
second reads the clock before the failure expires, the third after it; the check
of the third purges the failure before the second checks. -/
def race : List (Event (sends forgetful)) :=
  spawned forgetful :: performs 0 (consults start none ++
    refused start 0 forgetful.http3NegativeCacheDuration ++ [.call (.trace .tryHttp3Left) ()] ++
    overTcp start ownPort (.entry (entryOn none))) ++
  [.tick 10, spawned forgetful] ++ performs 1 ((consults ten none).take 2) ++
  [.tick 20, spawned forgetful] ++ performs 2 ((consults twenty none).take 3) ++
  performs 1 ((consults ten (some (entryOn none))).drop 2 ++ routes (entryOn none) ++
    looksUp 20 origin.host)

end Example

/-- The second send takes the route, so the alternative was held. -/
theorem altSvcRoute_follows_history_learned :
    ∃ (w : World (sends Example.client)) (before middle : List (Entry sig)) (check : Entry sig)
      (expiresAt : Instant), before ++ check :: middle <+: w.log ∧
      AltSvcHeld Example.origin (before ++ check :: middle) ⟨none, 443, expiresAt⟩ := by
  obtain ⟨w, task, reached, found, -, sound, log, -, -, resting, -⟩ := Example.reaches .strict
    Example.learnThenRoute 1 0 false _ ⟨Example.builder Example.client, rfl⟩ 0 true true rfl
  have split : w.log =
      (Example.logged 0 0 (Example.learns Example.ownPort (Example.entryOn none)) ++
        Example.logged 1 0 ((Example.consults Example.start none).take 2)) ++
      ⟨1, 0, .call (.negativeCacheHit Example.origin Example.start) false⟩ ::
      Example.logged 1 0 ((Example.consults Example.start (some (Example.entryOn none))).drop 3 ++
        Example.routes (Example.entryOn none) ++ Example.looksUp 0 Example.origin.host) := log
  have route : ∃ e ∈ w.log, e.task = 1 ∧
      e.label = .call (.trace (.altSvcRoute Example.origin none 443)) () := by
    rw [split]
    exact ⟨⟨1, 0, _⟩, by simp [Example.routes, Example.logged, Example.entryOn], rfl, rfl⟩
  have follows := altSvcRoute_follows_history reached sound found resting split rfl rfl
  obtain ⟨-, middle, lookup, rest, answer, expiresAt, later, -, -, held, -⟩ :=
    (follows.1 none 443).mp route
  refine ⟨w, _, middle, _, expiresAt, ?_, held⟩
  rw [split, later]
  exact ⟨lookup :: rest, by simp⟩

/-- A send takes the Alt-Svc route although the last negative entry written for
its origin expires after the instant it has read: another send has purged it. -/
theorem altSvcRoute_despite_negative :
    ∃ (w : World (sends Example.forgetful)) (task : Task (sends Example.forgetful))
      (before later since : List (Entry sig)) (check e : Entry sig) (now expiresAt : Instant),
      Reachable .loose (.start 0 SharedState.new) w ∧ w.shared.negative.poisoned = false ∧
      w.tasks[1]? = some task ∧ task.body.resting = true ∧ w.log = before ++ check :: later ∧
      check.task = 1 ∧ check.label = .call (.negativeCacheHit Example.origin now) false ∧
      LastWritten (negativeWritten Example.origin) expiresAt before since ∧
      now.nanos < expiresAt.nanos ∧ e ∈ w.log ∧ e.task = 1 ∧
      e.label = .call (.trace (.altSvcRoute Example.origin none 443)) () := by
  obtain ⟨w, task, reached, found, -, sound, log, -, -, resting, -⟩ := Example.reaches .loose
    Example.race 1 20 false _ ⟨Example.builder Example.forgetful, rfl⟩ 10 true true rfl
  have split : w.log = Example.beforeRace ++
      ⟨1, 20, .call (.negativeCacheHit Example.origin Example.ten) false⟩ ::
      Example.logged 1 20 ((Example.consults Example.ten (some (Example.entryOn none))).drop 3 ++
        Example.routes (Example.entryOn none) ++ Example.looksUp 20 Example.origin.host) := log
  refine ⟨w, task, _, _, Example.beforeRace.drop 13, _, ⟨1, 20, _⟩, Example.ten, ⟨15, by decide⟩,
    reached, sound, found, resting, split, rfl, rfl, ?_, by decide, ?_, rfl, rfl⟩
  · exact ⟨Example.beforeRace.take 12, ⟨0, 0, .call (.negativeInsert Example.origin Example.start
      Example.forgetful.http3NegativeCacheDuration) (.ok ())⟩, rfl, rfl, by decide⟩
  · rw [split]
    simp [Example.routes, Example.logged, Example.entryOn]

end MechanicsHttpClient.Guarantees
