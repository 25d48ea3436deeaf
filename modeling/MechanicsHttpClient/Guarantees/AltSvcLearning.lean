import MechanicsHttpClient.Guarantees.AltSvcUpdates
import MechanicsHttpClient.Guarantees.Phases

/-!
# Learning from either transport

src/request.rs:201-250 and 506-526. `send` has two exits with a response. The
one after hyper calls `maybe_update_alt_svc`, the one after an HTTP/3 attempt
does not, so the Alt-Svc entry that an HTTP/3 response asks for is only there if
it was there before.
-/

namespace MechanicsHttpClient.Guarantees

open MechanicsHttpClient.Runtime
open MechanicsHttpClient.Source
open MechanicsHttpClient.Source.AltSvc

/-- The headers ask for no other entry than the one held: there is no text, or it
is `clear` and nothing was held, or it brings no alternative or the same one. -/
def LeavesEntry (headers : HeaderMap) (now : Instant) (originPort : UInt16)
    (held : Option AltSvcEntry) : Prop :=
  match (headers.get HeaderName.altSvc).bind HeaderValue.toStr with
  | none => True
  | some raw =>
    if isClear raw then held = none
    else advertised raw now originPort = none ∨ advertised raw now originPort = held

theorem entryLearned_eq_iff {headers : HeaderMap} {now : Instant} {originPort : UInt16}
    {held : Option AltSvcEntry} :
    held = entryLearned headers now originPort held ↔ LeavesEntry headers now originPort held := by
  unfold entryLearned LeavesEntry
  cases (headers.get HeaderName.altSvc).bind HeaderValue.toStr with
  | none => simp
  | some raw =>
    simp only [entryAfter]
    split
    · rfl
    · cases advertised raw now originPort with
      | none => simp
      | some entry => simp [eq_comm]

/-- The response that arrives with this label, over either transport. -/
def arrivalOf : Label sig → Option ResponseParts
  | .done (.hyperRequest _) (.ok (parts, _)) => some parts
  | .done .recvResponse (.ok parts) => some parts
  | _ => none

/-- What bears on the Alt-Svc entry. -/
def altSvcNoted : Label sig → Bool
  | .call .instantNow _ => true
  | .call (.altSvcEntry _ _) _ => true
  | .call (.altSvcRemove _) _ => true
  | .call (.altSvcUpdate _ _) _ => true
  | _ => false

theorem altSvcAct_of_unnoted {origin : Origin} {label : Label sig}
    (unnoted : altSvcNoted label = false) : altSvcAct origin label = .keep := by
  unfold altSvcAct
  split
  · cases unnoted
  · cases unnoted
  · cases unnoted
  · rfl

/-- The last response, and what has been done about the Alt-Svc entry since. -/
abbrev Arrived : Type := Option (Since sig ResponseParts)

def arrivalMonitor : Monitor sig Arrived := Monitor.since arrivalOf altSvcNoted

/-- A response of HTTP/3 has just come. -/
def overHttp3 (result : Response) (arrived : Arrived) : Prop :=
  ∃ parts stream time, result = Response.newH3 parts stream ∧ arrived = some ⟨parts, time, []⟩

/-- What the send does about the entry before it returns the response: nothing
after HTTP/3, one update after TCP. -/
def LearnsFrom (uri : Uri) (response : Response) (labels : List (Label sig)) : Prop :=
  match response.body with
  | .h3 _ => labels = []
  | .hyper _ =>
    ∀ origin, Origin.fromUri uri = some origin →
      match response.headers.get HeaderName.altSvc with
      | none => labels = []
      | some value => ∃ now update, parseHeader value now origin.port = .ok update ∧
        labels = [.call .instantNow now, .call (.altSvcUpdate origin update) ()]

/-- Nothing is followed until a response comes, and it is the last thing to come. -/
def learningStages : Stages Arrived where
  idle _ _ := True
  failed _ _ _ _ := True
  answered response _ arrived := overHttp3 response arrived
  broken _ _ := True
  gone _ _ := True

section Send

variable {client : Client} {pace : Pace} {t : Nat} {arrived : Arrived}

/-- A part that brings no response, before one that may. -/
theorem part_learns {α : Type} {R : α → Nat → Arrived → Prop}
    (returned : ∀ value t arrived, R value t arrived) (part : Prog sig α) :
    part.Sat arrivalMonitor pace ⟨R, fun _ _ => True, fun _ _ => True⟩ t arrived := by
  apply Monitor.since_anyway
  · exact returned
  · exact fun _ _ => True.intro
  · exact fun _ _ => True.intro

/-- The response is the last answer that an attempt waits for. -/
theorem http3Request_learns {call : Http3Call} (attempt : Nat) :
    (http3Request call).Sat arrivalMonitor pace (learningStages.afterAttempt attempt) t arrived := by
  have sent : ∀ t arrived, (requestOnStream call.request call.body).Sat arrivalMonitor pace
      (learningStages.afterAttempt attempt) t arrived := by
    intro t arrived
    unfold requestOnStream
    refine Prog.Sat.andThen _ (part_learns ?_ _)
    intro opened t₁ arrived₁
    cases opened with
    | error err => exact True.intro
    | ok stream =>
      refine Prog.Sat.andThen _ (part_learns ?_ _)
      intro uploaded t₂ arrived₂
      cases uploaded with
      | error err => exact True.intro
      | ok _ =>
        refine Prog.Sat.andThen _ (part_learns ?_ _)
        intro finished t₃ arrived₃
        cases finished with
        | error err => exact True.intro
        | ok _ =>
          apply Prog.Sat.bind
          apply Prog.Sat.suspend
          intro t₄ _ _
          refine ⟨True.intro, ?_⟩
          intro t₅ _
          refine ⟨True.intro, ?_, True.intro⟩
          intro response _
          refine ⟨True.intro, ?_⟩
          cases response with
          | error err => exact True.intro
          | ok parts => exact ⟨parts, stream, t₅, rfl, rfl⟩
  unfold http3Request
  refine Prog.Sat.bind _ (part_learns ?_ _)
  intro connected t₁ arrived₁
  cases connected with
  | error err => exact True.intro
  | ok _ => exact sent t₁ arrived₁

theorem cancellationGuardDrop_learns {origin : Origin} :
    (cancellationGuardDrop client origin).Sat arrivalMonitor pace
      ⟨fun _ _ _ => True, fun _ _ => True, fun _ _ => True⟩ t arrived := by
  apply Sync.Sat.of_invariant (I := fun _ => True)
  · exact fun _ _ _ _ => ⟨True.intro, True.intro⟩
  · exact fun _ _ _ _ => True.intro
  · exact fun _ _ _ => True.intro
  · exact True.intro

/-- Whatever is done about the entry while HTTP/3 is tried, nothing is once a
response has come. -/
theorem learningStages_kept (client : Client) (now : Instant) :
    learningStages.Kept arrivalMonitor pace client now where
  attempt := by
    intro target request body attempt t arrived _
    unfold guardedAttempt
    apply Prog.Sat.perform_bind
    intro t₁ _ _ _
    refine ⟨True.intro, Prog.Sat.bind _ (Prog.Sat.guarded _
      ((http3Request_learns attempt).mono ?_ ?_ ?_))⟩
    · intro result t₂ arrived₂ ended
      apply Prog.Sat.perform_bind
      intro t₃ _ _ _
      refine ⟨True.intro, ?_⟩
      cases result with
      | error err => exact True.intro
      | ok response => exact ended
    · exact fun _ _ _ => cancellationGuardDrop_learns
    · exact fun _ _ _ => cancellationGuardDrop_learns
  written _ _ _ _ _ _ _ := by
    apply Sync.Sat.of_invariant (I := fun _ => True)
    · exact fun _ _ _ _ => ⟨True.intro, True.intro⟩
    · exact fun _ _ _ _ => True.intro
    · exact fun _ _ _ => True.intro
    · exact True.intro
  again _ _ _ _ _ _ := True.intro
  looked _ _ _ _ := part_learns (fun _ _ _ => True.intro) _
  routed _ _ _ _ _ _ _ _ := ⟨True.intro, True.intro⟩

theorem tryHttp3_learns {origin : Origin} {request : Request Unit} {body : Option Bytes} :
    (tryHttp3 client origin request body).Sat arrivalMonitor pace learningStages.after t arrived := by
  apply Stages.tryHttp3
  intro t₁ _
  refine ⟨True.intro, ?_⟩
  intro arrived₁ _ t₂ now _ _
  refine ⟨True.intro, learningStages_kept client now, ?_⟩
  intro arrived₂ _ t₃ hit _
  refine ⟨True.intro, ?_⟩
  intro arrived₃ _
  exact ⟨True.intro, fun _ _ _ => ⟨True.intro, True.intro⟩⟩

/-- What is known of a send that returns a response. -/
def learnt (builder : RequestBuilder) : Post Arrived (Except Error Response) where
  returned
    | .ok response => fun _ arrived => ∃ since uri, arrived = some since ∧ builder.uri = .ok uri ∧
      since.event = response.parts ∧ LearnsFrom uri response since.labels
    | .error _ => fun _ _ => True
  panicked _ _ := True
  dropped _ _ := True

/-- After TCP the header of the response is read, and nothing else is done. -/
theorem maybeUpdateAltSvc_ends {builder : RequestBuilder} {uri : Uri} {parts : ResponseParts}
    {incoming : BodyHandle} {time : Nat} (parsed : builder.uri = .ok uri) :
    (maybeUpdateAltSvc uri (Response.new parts incoming)).Sat arrivalMonitor pace
      ⟨fun _ => (learnt builder).returned (.ok (Response.new parts incoming)), fun _ _ => True,
        fun _ _ => True⟩ t (some ⟨parts, time, []⟩) := by
  unfold maybeUpdateAltSvc
  split
  · rename_i plain
    refine ⟨_, uri, rfl, parsed, rfl, ?_⟩
    intro origin https
    rw [plain] at https
    cases https
  · rename_i origin https
    split
    · rename_i unadvertised
      refine ⟨_, uri, rfl, parsed, rfl, ?_⟩
      intro origin' _
      rw [unadvertised]
    · rename_i value first
      apply Prog.Sat.perform_bind
      intro t₁ now _ _
      refine ⟨True.intro, ?_⟩
      split
      · exact True.intro
      · rename_i update update_eq
        intro t₂ _ _ _
        refine ⟨True.intro, _, uri, rfl, parsed, rfl, ?_⟩
        intro origin' https'
        rw [https] at https'
        cases https'
        rw [first]
        exact ⟨now, update, update_eq, rfl⟩

theorem send_ends (builder : RequestBuilder) (t : Nat) :
    (send builder).Sat arrivalMonitor pace (learnt builder) t none := by
  refine send_sat (fun _ _ => True.intro) ?_
  intro uri _ parsed
  have overTcp : ∀ t arrived, (tcpPhase builder uri (sentHeaders builder)).Sat arrivalMonitor pace
      (learnt builder) t arrived := by
    intro t arrived
    refine tcpPhase_sat (fun _ _ _ => ⟨rfl, True.intro, fun _ _ _ => ⟨rfl, True.intro⟩⟩) ?_
    intro t₁ _
    apply Prog.Sat.suspend
    intro t₂ _ _
    refine ⟨True.intro, ?_⟩
    intro t₃ _
    refine ⟨True.intro, ?_, True.intro, True.intro⟩
    intro result _
    refine ⟨True.intro, ?_⟩
    rcases result with err | ⟨parts, incoming⟩
    · exact True.intro
    · exact maybeUpdateAltSvc_ends parsed
  refine http3Phase_sat parsed (fun _ => overTcp t none) ?_
  intro origin body _
  refine learningStages.h3Result (I := fun _ => True)
    (fun _ _ _ => ⟨rfl, True.intro, fun _ _ _ => ⟨rfl, True.intro⟩⟩) (fun _ _ _ _ _ => True.intro)
    (fun _ _ _ _ => True.intro) (fun _ _ => ⟨rfl, True.intro⟩) (fun _ _ => tryHttp3_learns)
    ?_ ?_ ?_ ?_
  · exact fun _ arrived t _ _ => overTcp t arrived
  · intro response t arrived t' came _
    obtain ⟨parts, stream, time, rfl, rfl⟩ := came
    exact ⟨_, uri, rfl, parsed, rfl, rfl⟩
  · exact fun _ _ _ => True.intro
  · intro t₁ arrived₁ _
    refine ⟨fun _ => ?_, True.intro⟩
    unfold h3TimedOut
    refine Prog.Sat.bind _ (part_learns ?_ _)
    intro now t₂ arrived₂
    refine Prog.Sat.bind _ (part_learns ?_ _)
    exact fun _ _ _ => True.intro

end Send

/-- Where the response of a task came in a run, and the caches at that point. -/
structure ArrivedIn {client : Client} (w : World (sends client)) (i : Nat) (response : Response)
    (before : List (Entry sig)) (arrival : Entry sig) (later : List (Entry sig))
    (atArrival : SharedState) : Prop where
  split : w.log = before ++ arrival :: later
  own : arrival.task = i
  arrives : arrivalOf arrival.label = some response.parts
  last : ∀ e ∈ later, e.task = i → arrivalOf e.label = none
  state : replay (sends client) SharedState.new before = some atArrival

/-- The entry is the one that `maybe_update_alt_svc` computes from the response
and the cache it came to, at an instant since then. -/
def EntryAsAsked {client : Client} (w : World (sends client)) (uri : Uri) (origin : Origin)
    (response : Response) (arrival : Entry sig) (atArrival : SharedState) : Prop :=
  ∃ (now : Instant) (result : Option Unit) (left : SharedState),
    arrival.time ≤ now.nanos ∧ now.nanos ≤ w.clock ∧
    Executes (sends client) now.nanos atArrival (maybeUpdateAltSvc uri response) result left ∧
    w.shared.altSvc.value origin = left.altSvc.value origin

section Run

variable {client : Client} {pace : Pace} {clock : Nat} {w : World (sends client)} {i : Nat}
  {task : Task (sends client)} {response : Response} {uri : Uri} {origin : Origin}
  {before later : List (Entry sig)} {arrival : Entry sig} {atArrival : SharedState}

theorem altSvcAct_arrival {parts : ResponseParts} {label : Label sig}
    (arrives : arrivalOf label = some parts) : altSvcAct origin label = .keep := by
  unfold arrivalOf at arrives
  split at arrives
  · rfl
  · rfl
  · cases arrives

/-- Where no other task interferes, the entry is what the send itself has made of
the one it found when its response came. -/
theorem entry_since (reached : Reachable pace (.start clock SharedState.new) w)
    (came : ArrivedIn w i response before arrival later atArrival)
    (undisturbed : ∀ e ∈ later, e.task ≠ i → altSvcAct origin e.label = .keep) :
    w.shared.altSvc.value origin =
      Slot.resume (altSvcAct origin) (atArrival.altSvc.value origin)
        (((later.filter fun e => e.task == i).map Entry.label).filter altSvcNoted) := by
  have own : ∀ e ∈ later, (altSvcNoted e.label && e.task == i) = false →
      altSvcAct origin e.label = .keep := by
    intro e mem irrelevant
    by_cases mine : e.task = i
    · refine altSvcAct_of_unnoted ?_
      simpa [mine] using irrelevant
    · exact undisturbed e mem mine
  rw [(altSvc_eq_after _ reached.replay_log).2 origin, (altSvc_eq_after _ came.state).2 origin,
    altSvcAfter, altSvcAfter, came.split, Slot.after_append, List.filter_map, Slot.resume,
    Slot.resume, List.foldl_cons, altSvcAct_arrival came.arrives, SlotAct.apply, List.foldl_map,
    List.filter_filter]
  exact (Slot.resume_filter (fun e : Entry sig => altSvcAct origin e.label) _ later own _).symm

/-- Where the response of a finished send came, and what the send has done since. -/
theorem arrived (reached : Reachable pace (.start clock SharedState.new) w)
    (found : w.tasks[i]? = some task) (returned : task.body = .running (.ret (.ok response)))
    (parsed : task.job.val.uri = .ok uri) :
    ∃ before arrival later atArrival, ArrivedIn w i response before arrival later atArrival ∧
      LearnsFrom uri response
        (((later.filter fun e => e.task == i).map Entry.label).filter altSvcNoted) := by
  have verified : ∀ (job : (sends client).Job) t, ((sends client).program job).Sat arrivalMonitor
      pace (learnt job.val) t none := fun job t => send_ends job.val t
  have admits := Monitor.admits_of_trivial arrivalMonitor (fun _ _ _ => True.intro) none (w.logOf i)
  obtain ⟨-, t, live, sat⟩ := reached.sat verified found admits
  rw [returned] at sat
  obtain ⟨since, uri', ran, parsed', parts, learns⟩ := sat
  rw [parsed] at parsed'
  cases parsed'
  obtain ⟨ownBefore, arrival, ownLater, ownSplit, arrives, -, labels, silent⟩ :=
    Monitor.run_since (w.logOf i) ran
  obtain ⟨before, later, split, own, -, ownTail⟩ := World.log_split ownSplit
  obtain ⟨atArrival, -, state, -, -⟩ := reached.answered split
  rw [labels, ← ownTail] at learns
  rw [parts] at arrives
  refine ⟨before, arrival, later, atArrival, ⟨split, own, arrives, ?_, state⟩, learns⟩
  intro e mem mine
  refine silent e ?_
  rw [← ownTail]
  simp [mem, mine]

/-- Over TCP the entry is the one asked for, over HTTP/3 the one that was there. -/
theorem entry_after (reached : Reachable pace (.start clock SharedState.new) w)
    (fits : w.clock < instantLimit) (https : Origin.fromUri uri = some origin)
    (came : ArrivedIn w i response before arrival later atArrival)
    (learns : LearnsFrom uri response
      (((later.filter fun e => e.task == i).map Entry.label).filter altSvcNoted))
    (undisturbed : ∀ e ∈ later, e.task ≠ i → altSvcAct origin e.label = .keep) :
    (∃ incoming, response.body = .hyper incoming ∧ ∃ now : Instant, arrival.time ≤ now.nanos ∧
      now.nanos ≤ w.clock ∧ w.shared.altSvc.value origin =
        entryLearned response.headers now origin.port (atArrival.altSvc.value origin)) ∨
    (∃ stream, response.body = .h3 stream) ∧
      w.shared.altSvc.value origin = atArrival.altSvc.value origin := by
  have entry := entry_since reached came undisturbed
  have sorted := reached.log_sorted
  have bound := sorted.2.1 arrival (by simp [came.split])
  unfold LearnsFrom at learns
  cases body : response.body with
  | h3 stream =>
    rw [body] at learns
    rw [learns] at entry
    exact .inr ⟨⟨stream, rfl⟩, entry⟩
  | hyper incoming =>
    rw [body] at learns
    refine .inl ⟨incoming, rfl, ?_⟩
    have learns := learns origin https
    cases first : response.headers.get HeaderName.altSvc with
    | none =>
      rw [first] at learns
      rw [learns] at entry
      refine ⟨⟨arrival.time, by omega⟩, Nat.le_refl _, bound, ?_⟩
      simpa [entryLearned, first, Slot.resume] using entry
    | some value =>
      rw [first] at learns
      obtain ⟨now, update, parsed, labels⟩ := learns
      rw [labels] at entry
      have read : (.call .instantNow now : Label sig) ∈
          ((later.filter fun e => e.task == i).map Entry.label).filter altSvcNoted := by
        simp [labels]
      obtain ⟨e, mem, label⟩ := List.mem_map.mp (List.mem_filter.mp read).1
      have after : e ∈ later := (List.mem_filter.mp mem).1
      have logged : e ∈ w.log := by simp [came.split, after]
      have reading := instantNow_reads reached logged label
      have order := sorted.2.2
      rw [came.split, List.pairwise_append] at order
      have past := (List.pairwise_cons.mp order.2.1).1 e after
      have future := sorted.2.1 e logged
      refine ⟨now, by omega, by omega, ?_⟩
      rcases @parseHeader_learned value now response.headers origin.port first with
        ⟨panic, failed, -⟩ | ⟨update', parsed', acts⟩
      · rw [parsed] at failed
        cases failed
      · rw [parsed] at parsed'
        cases parsed'
        rw [entry, ← acts origin]
        rfl

/-- The entry after a send is the one its response asks for if and only if the
response came over TCP or asks for nothing else than what is held. -/
theorem altSvc_learned_iff (reached : Reachable pace (.start clock SharedState.new) w)
    (fits : w.clock < instantLimit) (found : w.tasks[i]? = some task)
    (returned : task.body = .running (.ret (.ok response))) (parsed : task.job.val.uri = .ok uri)
    (https : Origin.fromUri uri = some origin) :
    ∃ before arrival later atArrival, ArrivedIn w i response before arrival later atArrival ∧
      ((∀ e ∈ later, e.task ≠ i → altSvcAct origin e.label = .keep) →
        (EntryAsAsked w uri origin response arrival atArrival ↔
          (∃ incoming, response.body = .hyper incoming) ∨
          ∃ now : Instant, arrival.time ≤ now.nanos ∧ now.nanos ≤ w.clock ∧
            LeavesEntry response.headers now origin.port (atArrival.altSvc.value origin))) := by
  obtain ⟨before, arrival, later, atArrival, came, learns⟩ := arrived reached found returned parsed
  refine ⟨before, arrival, later, atArrival, came, ?_⟩
  intro undisturbed
  have sound := (altSvc_eq_after before came.state).1
  have computed : ∀ (now : Instant) result left,
      Executes (sends client) now.nanos atArrival (maybeUpdateAltSvc uri response) result left →
      left.altSvc.value origin =
        entryLearned response.headers now origin.port (atArrival.altSvc.value origin) := by
    intro now result left executed
    have content := (maybeUpdateAltSvc_learned https executed).2 origin
    simpa [sound] using content
  have asked : ∀ now : Instant, arrival.time ≤ now.nanos → now.nanos ≤ w.clock →
      w.shared.altSvc.value origin =
        entryLearned response.headers now origin.port (atArrival.altSvc.value origin) →
      EntryAsAsked w uri origin response arrival atArrival := by
    intro now past future same
    obtain ⟨result, left, executed⟩ := maybeUpdateAltSvc_runs client uri response now atArrival
    exact ⟨now, result, left, past, future, executed, same.trans (computed now _ _ executed).symm⟩
  rcases entry_after reached fits https came learns undisturbed with
    ⟨incoming, body, now, past, future, entry⟩ | ⟨⟨stream, body⟩, entry⟩
  · exact ⟨fun _ => .inl ⟨incoming, body⟩, fun _ => asked now past future entry⟩
  · constructor
    · rintro ⟨now, result, left, past, future, executed, same⟩
      refine .inr ⟨now, past, future, entryLearned_eq_iff.mp ?_⟩
      rw [← computed now result left executed, ← same, entry]
    · rintro (⟨incoming, other⟩ | ⟨now, past, future, leaves⟩)
      · rw [body] at other
        cases other
      · refine asked now past future ?_
        rw [entry]
        exact entryLearned_eq_iff.mpr leaves

end Run

namespace Example

/-- A response of the origin with this Alt-Svc header. -/
def answers (raw : Str) : ResponseParts := ⟨200, advertising raw⟩

/-- A send over the alternative, to the end. -/
def usesAlternative (parts : ResponseParts) : List (Label sig) :=
  consults start (some (entryOn none)) ++ routes (entryOn none) ++ dials 0 origin.host ++
  [.arm .connect 500000000, .issue .connecting, .done .connecting (.ok ()),
    .arm .setup 500000000, .issue .h3Build, .done .h3Build (.ok ()),
    .arm .streamOpen 150000000, .issue (.sendRequest h3Request),
    .done (.sendRequest h3Request) (.ok 0),
    .arm .upload 500000000, .issue .finish, .done .finish (.ok ()), .issue .recvResponse,
    .done .recvResponse (.ok parts), .call (.trace (.http3Outcome origin 0 .responded)) (),
    .call (.trace .tryHttp3Left) ()]

/-- Three sends: the alternative is learned, used and cleared, and taken again. -/
def clearedOverHttp3 : List (Event (sends client)) :=
  spawned client :: performs 0 (learns ownPort (entryOn none)) ++
  spawned client :: performs 1 (usesAlternative (answers "clear".toList)) ++
  spawned client :: performs 2 (consults start (some (entryOn none)) ++ routes (entryOn none))

end Example

/-- The alternative of a response over TCP is in the cache. -/
theorem altSvc_learned_over_tcp :
    ∃ (w : World (sends Example.client)) (arrival : Entry sig) (atArrival : SharedState),
      w.shared.altSvc.value Example.origin = some (Example.entryOn none) ∧
      EntryAsAsked w Example.uri Example.origin
        (Response.new (Example.answers Example.ownPort) 0) arrival atArrival := by
  have ran : ((World.start 0 SharedState.new).run .strict (Example.spawned Example.client ::
      Example.performs 0 (Example.learns Example.ownPort (Example.entryOn none)))).map
      (fun w => (w.clock, w.tasks, w.log)) =
      some (0, [⟨⟨Example.builder Example.client, rfl⟩, 0,
          .running (.ret (Except.ok (Response.new (Example.answers Example.ownPort) 0)))⟩],
        Example.logged 0 0 (Example.learns Example.ownPort (Example.entryOn none))) := rfl
  obtain ⟨w, reached, seen⟩ := Option.map_eq_some_iff.mp ran
  simp only [Prod.mk.injEq] at seen
  obtain ⟨clock, tasks, log⟩ := seen
  have reached := Reachable.of_run _ .refl reached
  have found : w.tasks[0]? = some ⟨⟨Example.builder Example.client, rfl⟩, 0,
      .running (.ret (Except.ok (Response.new (Example.answers Example.ownPort) 0)))⟩ := by
    rw [tasks]
    rfl
  have fits : w.clock < instantLimit := by
    rw [clock]
    decide
  have https : Origin.fromUri Example.uri = some Example.origin := rfl
  obtain ⟨before, arrival, later, atArrival, came, learned⟩ :=
    altSvc_learned_iff reached fits found rfl rfl https
  refine ⟨w, arrival, atArrival, ?_, (learned ?_).mpr (.inl ⟨0, rfl⟩)⟩
  · rw [(altSvc_eq_after _ reached.replay_log).2 Example.origin, log]
    rfl
  · intro e mem other
    have logged : e ∈ w.log := by simp [came.split, mem]
    rw [log] at logged
    obtain ⟨label, -, rfl⟩ := List.mem_map.mp logged
    exact absurd rfl other

/-- An HTTP/3 response with `Alt-Svc: clear` leaves the entry, which the same
response over TCP would have removed, and the next send takes the alternative. -/
theorem altSvc_not_cleared_over_http3 :
    ∃ w : World (sends Example.client), Reachable .strict (.start 0 SharedState.new) w ∧
      (∃ task, w.tasks[1]? = some task ∧ task.body =
        .running (.ret (Except.ok (Response.newH3 (Example.answers "clear".toList) 0)))) ∧
      (∀ (now : Instant) shared result left, shared.altSvc.poisoned = false →
        Executes (sends Example.client) now.nanos shared (maybeUpdateAltSvc Example.uri
          (Response.newH3 (Example.answers "clear".toList) 0)) result left →
        left.altSvc.value Example.origin = none) ∧
      w.shared.altSvc.value Example.origin = some (Example.entryOn none) ∧
      (⟨2, 0, .call (.trace (.altSvcRoute Example.origin none 443)) ()⟩ : Entry sig) ∈ w.logOf 2 := by
  have ran : ((World.start 0 SharedState.new).run .strict Example.clearedOverHttp3).map
      (fun w => (w.tasks[1]?.map Task.body, w.log)) =
      some (some (.running (.ret (Except.ok (Response.newH3 (Example.answers "clear".toList) 0)))),
        Example.logged 0 0 (Example.learns Example.ownPort (Example.entryOn none)) ++
        Example.logged 1 0 (Example.usesAlternative (Example.answers "clear".toList)) ++
        Example.logged 2 0 (Example.consults Example.start (some (Example.entryOn none)) ++
          Example.routes (Example.entryOn none))) := rfl
  obtain ⟨w, reached, seen⟩ := Option.map_eq_some_iff.mp ran
  simp only [Prod.mk.injEq] at seen
  obtain ⟨body, log⟩ := seen
  have reached := Reachable.of_run _ .refl reached
  refine ⟨w, reached, Option.map_eq_some_iff.mp body, ?_, ?_, ?_⟩
  · intro now shared result left sound executed
    have https : Origin.fromUri Example.uri = some Example.origin := rfl
    have content := (maybeUpdateAltSvc_learned https executed).2 Example.origin
    simp only [sound, and_self, if_true] at content
    rw [content]
    rfl
  · rw [(altSvc_eq_after _ reached.replay_log).2 Example.origin, log]
    rfl
  · have own : w.logOf 2 = Example.logged 2 0 (Example.consults Example.start
        (some (Example.entryOn none)) ++ Example.routes (Example.entryOn none)) := by
      rw [World.logOf, log]
      rfl
    rw [own]
    simp [Example.logged, Example.routes, Example.entryOn]

end MechanicsHttpClient.Guarantees
