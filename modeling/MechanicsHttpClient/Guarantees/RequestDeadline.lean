import MechanicsHttpClient.Guarantees.Phases
import MechanicsHttpClient.Runtime.Lasting

/-!
# The per-request deadline

src/request.rs:201-250. `send` arms its timeout once for the HTTP/3 phase and
once more for the TCP phase, each time with the full duration. The second
deadline lies within the first exactly if the HTTP/3 phase took no time, and
then no send is pending past its deadline.
-/

namespace MechanicsHttpClient.Guarantees

open MechanicsHttpClient.Runtime
open MechanicsHttpClient.Source

/-- When a send was started, and when it left `try_http3`. -/
structure Budget where
  start : Nat
  left : List Nat

/-- The HTTP/3 phase, if it is over, took no time. -/
def Budget.Whole (budget : Budget) : Prop := ∀ t ∈ budget.left, t = budget.start

/-- The time since the start of a send is within its timeout. -/
def Budget.InTime (builder : RequestBuilder) (budget : Budget) (t : Nat) : Prop :=
  ∀ d, builder.effectiveTimeout = some d → budget.Whole → t ≤ budget.start + d.nanos

def deadlineMonitor (builder : RequestBuilder) : Monitor sig Budget where
  next budget t label :=
    match label with
    | .call (.trace .tryHttp3Left) _ => { budget with left := budget.left ++ [t] }
    | _ => budget
  assume _ _ _ := True
  check budget _ label :=
    match label with
    | .arm .request deadline => ∀ d, builder.effectiveTimeout = some d →
        (deadline ≤ budget.start + d.nanos ↔ budget.Whole)
    | _ => True
  rest := Budget.InTime builder

/-- Everything but the end of the HTTP/3 phase and the request's timer. -/
def deadlineQuiet : Alphabet sig :=
  ⟨fun op => op ≠ .trace .tryHttp3Left, fun timer => timer ≠ .request, True⟩

theorem deadlineMonitor_ignores (builder : RequestBuilder) :
    (deadlineMonitor builder).IgnoresAll deadlineQuiet := by
  intro budget t label has
  cases label with
  | call op ans =>
    cases op with
    | trace point =>
      cases point with
      | tryHttp3Left => exact absurd rfl has
      | _ => exact ⟨rfl, True.intro⟩
    | _ => exact ⟨rfl, True.intro⟩
  | arm timer deadline =>
    cases timer with
    | request => exact absurd rfl has
    | _ => exact ⟨rfl, True.intro⟩
  | _ => exact ⟨rfl, True.intro⟩

theorem insideTryHttp3_quiet : insideTryHttp3.Within deadlineQuiet where
  op := by
    rintro op used rfl
    exact used
  timer _ other := other
  unwinds := id

theorem deadlineMonitor_firing (builder : RequestBuilder) (deadline : Nat) :
    (deadlineMonitor builder).Ignores .request deadline := fun _ _ _ => ⟨rfl, True.intro⟩

theorem maybeUpdateAltSvc_lasts (uri : Uri) (response : Response) :
    (maybeUpdateAltSvc uri response).Lasts deadlineQuiet 0 := by
  have reads : deadlineQuiet.op .instantNow := fun same => nomatch same
  have updates : ∀ origin update, deadlineQuiet.op (.altSvcUpdate origin update) :=
    fun _ _ same => nomatch same
  unfold maybeUpdateAltSvc
  split
  · exact Prog.Lasts.ret _ 0
  · split
    · exact Prog.Lasts.ret _ 0
    · refine Prog.Lasts.mono (Nat.le_refl (0 + 0))
        (Prog.Lasts.bind (Prog.Lasts.perform reads 0) ?_)
      intro now
      split
      · exact Prog.Lasts.ofSync 0 .panic True.intro
      · exact Prog.Lasts.perform (updates _ _) 0

section Tcp

variable {builder : RequestBuilder} {budget : Budget} {t : Nat}

/-- Once hyper has answered, the send ends at the same instant. -/
theorem afterHyper_sat (uri : Uri) (response : Response)
    (inTime : budget.InTime builder t) :
    ((maybeUpdateAltSvc uri response).bind fun _ => .ret (.ok response)).Sat
      (deadlineMonitor builder) .strict (Post.any : Post Budget (Except Error Response)) t budget := by
  have lasts : ((maybeUpdateAltSvc uri response).bind fun _ =>
      (.ret (.ok response) : Prog sig (Except Error Response))).Lasts deadlineQuiet (0 + 0) :=
    Prog.Lasts.bind (maybeUpdateAltSvc_lasts uri response) fun _ => Prog.Lasts.ret _ 0
  refine lasts Budget _ _ t budget (deadlineMonitor_ignores builder) ?_
  intro t' later bounded
  have now : t' = t := by omega
  rw [now]
  exact ⟨inTime, fun _ => True.intro, fun _ => True.intro, True.intro⟩

/-- The TCP phase starts at once, or when `try_http3` was left. -/
theorem tcpPhase_deadline (uri : Uri) (headers : HeaderMap) (later : budget.start ≤ t)
    (position : (budget.left = [] ∧ budget.start = t) ∨ budget.left = [t]) :
    (tcpPhase builder uri headers).Sat (deadlineMonitor builder) .strict Post.any t budget := by
  have whole_iff : budget.Whole ↔ t = budget.start := by
    rcases position with ⟨never, same⟩ | left
    · simp [Budget.Whole, never, same]
    · simp [Budget.Whole, left]
  have sent : (suspend (.hyperRequest ⟨builder.method, uri, headers,
      builder.body.intoBody⟩)).Uses deadlineQuiet := Prog.Uses.suspend fun same => nomatch same
  unfold tcpPhase
  refine Prog.Sat.bind _ ?_
  split
  · rename_i d timed
    refine Prog.Sat.timeout fun t' elapsed _ => ?_
    have now : t = t' := (elapsed.2 rfl).symm
    subst now
    have inTime : ∀ t', InTime .strict (t + d.nanos) t' →
        budget.InTime builder t' := by
      intro t' due d' timed' whole
      rw [timed] at timed'
      cases timed'
      have start := whole_iff.mp whole
      have bound := due rfl
      omega
    have within : ((deadlineMonitor builder).within .strict (t + d.nanos)).IgnoresAll deadlineQuiet :=
      fun budget t label has => deadlineMonitor_ignores builder budget t label has
    refine ⟨?_, deadlineMonitor_firing builder _, Prog.Sat.of_uses within _ sent
      (fun t' _ => inTime t') ?_ (fun _ _ _ _ => True.intro) (fun _ _ _ => ⟨True.intro, True.intro⟩)⟩
    · intro d' timed'
      rw [timed] at timed'
      cases timed'
      rw [whole_iff]
      omega
    · intro answer t' _ due
      rcases answer with err | ⟨parts, incoming⟩
      · exact True.intro
      · exact afterHyper_sat uri _ (inTime t' due)
  · rename_i untimed
    have vacuous : ∀ t', budget.InTime builder t' := by
      intro t' d timed
      rw [untimed] at timed
      cases timed
    refine Prog.Sat.bind _ (Prog.Sat.of_uses (deadlineMonitor_ignores builder) _ sent
      (fun t' _ => vacuous t') ?_ (fun _ _ _ => True.intro) (fun _ _ => True.intro))
    intro answer t' _
    rcases answer with err | ⟨parts, incoming⟩
    · exact True.intro
    · exact afterHyper_sat uri _ (vacuous t')

end Tcp

/-- `try_http3` from the start of the send. -/
theorem h3Attempt_deadline {builder : RequestBuilder} {origin : Origin} {request : Request Unit}
    {body : Option Bytes} {m : Monitor sig Budget}
    {P : Post Budget (Except Error (Option Response))} (start : Nat)
    (ignores : m.IgnoresAll insideTryHttp3)
    (leaves : ∀ t, m.check ⟨start, []⟩ t (.call (.trace .tryHttp3Left) ()) ∧
      m.next ⟨start, []⟩ t (.call (.trace .tryHttp3Left) ()) = ⟨start, [t]⟩)
    (rests : ∀ t, start ≤ t → m.rest ⟨start, []⟩ t)
    (returned : ∀ result t, start ≤ t → P.returned result t ⟨start, [t]⟩)
    (panicked : ∀ t, P.panicked t ⟨start, []⟩) (dropped : ∀ t, P.dropped t ⟨start, []⟩) :
    (h3Attempt builder origin request body).Sat m .strict P start ⟨start, []⟩ := by
  refine h3Attempt_sat (Prog.Sat.of_uses ignores _ (tryHttp3_inside _ _ _ _) rests ?_
    (fun _ t _ => panicked t) (fun t _ => dropped t))
  intro result t later t' elapsed
  obtain ⟨passes, moves⟩ := leaves t'
  refine ⟨passes, ?_⟩
  rw [moves]
  exact returned result t' (Nat.le_trans later elapsed.1)

theorem h3TimedOut_sat {builder : RequestBuilder} {origin : Origin} {t : Nat} {budget : Budget}
    {P : Post Budget (Except Error (Option Response))}
    (returned : ∀ t, P.returned (.error .timeout) t budget)
    (panicked : ∀ t, P.panicked t budget) :
    (h3TimedOut builder origin).Sat (deadlineMonitor builder) .strict P t budget := by
  refine Prog.Sat.perform_bind ?_
  intro t' now _ _
  refine ⟨True.intro, Prog.Sat.bind _ (Prog.Sat.ofSync _ (insertNegative_ignored ?_
    (fun t _ => returned t) (fun t _ => panicked t)))⟩
  rintro budget t label (⟨ans, rfl⟩ | ⟨ans, rfl⟩)
  · exact ⟨rfl, True.intro⟩
  · exact ⟨rfl, True.intro⟩

theorem send_deadline (builder : RequestBuilder) (t : Nat) :
    (send builder).Sat (deadlineMonitor builder) .strict Post.any t ⟨t, []⟩ := by
  have ended : ∀ uri result t', t ≤ t' → AfterHttp3 (deadlineMonitor builder) .strict Post.any builder
      uri result t' ⟨t, [t']⟩ := by
    intro uri result t' later
    rcases result with err | _ | response
    · exact True.intro
    · exact tcpPhase_deadline uri _ later (.inr rfl)
    · exact True.intro
  have ignores := (deadlineMonitor_ignores builder).within insideTryHttp3_quiet
  refine send_sat (fun _ _ => True.intro) ?_
  intro uri _ parsed
  refine http3Phase_sat parsed ?_ ?_
  · intro _
    exact tcpPhase_deadline uri _ (Nat.le_refl t) (.inl ⟨rfl, rfl⟩)
  · intro origin body _
    unfold h3Result
    split
    · rename_i untimed
      refine h3Attempt_deadline t ignores (fun _ => ⟨True.intro, rfl⟩) ?_ (ended uri)
        (fun _ => True.intro) (fun _ => True.intro)
      intro t' _ d timed
      rw [untimed] at timed
      cases timed
    · rename_i d timed
      refine Prog.Sat.bind _ (Prog.Sat.timeout fun t' elapsed _ => ?_)
      have now : t = t' := (elapsed.2 rfl).symm
      subst now
      have whole : (⟨t, []⟩ : Budget).Whole := fun _ mem => nomatch mem
      have within : ((deadlineMonitor builder).within .strict (t + d.nanos)).IgnoresAll
          insideTryHttp3 := fun budget t label has => ignores budget t label has
      refine ⟨?_, deadlineMonitor_firing builder _,
        h3Attempt_deadline t within (fun _ => ⟨True.intro, rfl⟩) ?_ ?_ ?_ ?_⟩
      · intro d' timed'
        rw [timed] at timed'
        cases timed'
        exact ⟨fun _ => whole, fun _ => Nat.le_refl _⟩
      · intro t' _ due d' timed' _
        rw [timed] at timed'
        cases timed'
        exact due rfl
      · intro result t' later _
        exact ended uri result t' later
      · exact fun _ _ => True.intro
      · intro t' _
        exact ⟨h3TimedOut_sat (fun _ => True.intro) (fun _ => True.intro), True.intro⟩

theorem deadlineMonitor_next (builder : RequestBuilder) (budget : Budget) (t : Nat)
    (label : Label sig) :
    ((deadlineMonitor builder).next budget t label).start = budget.start ∧
    ∀ u, u ∈ ((deadlineMonitor builder).next budget t label).left ↔
      u ∈ budget.left ∨ (label = .call (.trace .tryHttp3Left) () ∧ t = u) := by
  cases label with
  | call op ans =>
    cases op with
    | trace point =>
      cases point with
      | tryHttp3Left => exact ⟨rfl, by simp [deadlineMonitor, eq_comm]⟩
      | _ => exact ⟨rfl, by simp [deadlineMonitor]⟩
    | _ => exact ⟨rfl, by simp [deadlineMonitor]⟩
  | _ => exact ⟨rfl, by simp [deadlineMonitor]⟩

/-- The budget after a log: the instants at which it left `try_http3`. -/
theorem deadlineMonitor_run (builder : RequestBuilder) (log : List (Entry sig)) (budget : Budget) :
    ((deadlineMonitor builder).run budget log).start = budget.start ∧
    ∀ t, t ∈ ((deadlineMonitor builder).run budget log).left ↔
      t ∈ budget.left ∨ ∃ e ∈ log, e.label = .call (.trace .tryHttp3Left) () ∧ e.time = t := by
  induction log generalizing budget with
  | nil => simp [Monitor.run]
  | cons e rest ih =>
    obtain ⟨same, left⟩ := deadlineMonitor_next builder budget e.time e.label
    obtain ⟨started, leaves⟩ := ih ((deadlineMonitor builder).next budget e.time e.label)
    refine ⟨started.trans same, ?_⟩
    intro t
    simp only [Monitor.run, leaves, left, List.mem_cons, exists_eq_or_imp, or_assoc]

theorem deadlineMonitor_whole (builder : RequestBuilder) (log : List (Entry sig)) (start : Nat) :
    ((deadlineMonitor builder).run ⟨start, []⟩ log).Whole ↔
      ∀ e ∈ log, e.label = .call (.trace .tryHttp3Left) () → e.time = start := by
  obtain ⟨same, left⟩ := deadlineMonitor_run builder log ⟨start, []⟩
  unfold Budget.Whole
  rw [same]
  constructor
  · intro whole e logged leaves
    exact whole e.time ((left e.time).mpr (.inr ⟨e, logged, leaves, rfl⟩))
  · intro prompt t mem
    rcases (left t).mp mem with impossible | ⟨e, logged, leaves, rfl⟩
    · cases impossible
    · exact prompt e logged leaves

/-- A deadline that a send arms lies within its timeout from the start exactly if
the HTTP/3 phase before it took no time; and then the send is never pending
past its timeout. -/
theorem deadline_kept_iff_http3_instant {client : Client} {clock : Nat} {shared : SharedState}
    {w : World (sends client)} (reached : Reachable .strict (.start clock shared) w) {i : Nat}
    {task : Task (sends client)} (found : w.tasks[i]? = some task) {d : Duration}
    (timed : task.job.val.effectiveTimeout = some d) :
    (∀ before e later deadline, w.logOf i = before ++ e :: later →
      e.label = .arm .request deadline →
      (deadline ≤ task.spawned + d.nanos ↔
        ∀ e' ∈ before, e'.label = .call (.trace .tryHttp3Left) () → e'.time = task.spawned)) ∧
    ((∀ e ∈ w.logOf i, e.label = .call (.trace .tryHttp3Left) () → e.time = task.spawned) →
      task.body.unfinished = true → w.clock ≤ task.spawned + d.nanos) := by
  have verified : ∀ (job : (sends client).Job) t, ((sends client).program job).Sat
      (deadlineMonitor job.val) .strict Post.any t ⟨t, []⟩ := fun job t => send_deadline job.val t
  have admits := Monitor.admits_of_trivial (deadlineMonitor task.job.val)
    (fun _ _ _ => True.intro) ⟨task.spawned, []⟩ (w.logOf i)
  constructor
  · intro before e later deadline split arms
    have passes := (reached.sat verified found admits).1
    have checked := Monitor.Passes.at _ passes split
    rw [arms] at checked
    have spent := checked d timed
    rwa [(deadlineMonitor_run _ before _).1, deadlineMonitor_whole] at spent
  · intro instant unfinished
    have starts : ∀ (job : (sends client).Job) (t : Nat), Budget.InTime job.val ⟨t, []⟩ t :=
      fun _ t d _ _ => Nat.le_add_right t d.nanos
    have moves : ∀ (job : (sends client).Job) (t₀ : Nat) budget t label,
        (deadlineMonitor job.val).assume budget t label →
        (deadlineMonitor job.val).check budget t label → Budget.InTime job.val budget t →
        Budget.InTime job.val ((deadlineMonitor job.val).next budget t label) t := by
      intro job _ budget t label _ _ inTime d timed whole
      obtain ⟨same, left⟩ := deadlineMonitor_next job.val budget t label
      rw [same]
      refine inTime d timed fun u mem => ?_
      rw [← same]
      exact whole u ((left u).mpr (.inl mem))
    have inTime := Reachable.prompt rfl verified starts moves (fun _ _ _ _ => id) reached found admits
      unfinished
    have whole := (deadlineMonitor_whole task.job.val (w.logOf i) task.spawned).mpr instant
    have bound := inTime d timed whole
    rwa [(deadlineMonitor_run _ _ _).1] at bound

namespace Example

def second : Duration := Duration.fromSecs 1

theorem second_nanos : second.nanos = 1000000000 := rfl

/-- A client with a timeout of one second. -/
def impatient : Client := { client with defaultTimeout := some second }

/-- No HTTP/3 is found, and hyper is asked at once. -/
def asksAtOnce : List (Event (sends impatient)) :=
  spawned impatient :: performs 0 ([.arm .request 1000000000] ++ consults start none ++
    resolves start 0 [] ++ [.call (.trace .tryHttp3Left) (), .arm .request 1000000000,
    .issue (.hyperRequest hyperRequest)]) ++ [.tick 500000000]

/-- The HTTPS RR lookup takes its 150 ms, then hyper takes its second. -/
def asksLate : List (Event (sends impatient)) :=
  spawned impatient :: performs 0 ([.arm .request 1000000000] ++ consults start none ++
    (resolves start 0 []).take 3) ++ [.tick 150000000] ++
  performs 0 [.fire 0 .httpsRrLookup 150000000, .call (.trace .tryHttp3Left) (),
    .arm .request 1150000000, .issue (.hyperRequest hyperRequest)] ++ [.tick 1100000000]

end Example

theorem deadline_kept_asksAtOnce :
    ∃ w : World (sends Example.impatient), w.clock = 500000000 ∧
      w.clock ≤ 0 + Example.second.nanos := by
  obtain ⟨w, task, reached, found, clock, -, log, job, spawned, -, unfinished⟩ := Example.reaches
    .strict Example.asksAtOnce 0 500000000 false _ ⟨Example.builder Example.impatient, rfl⟩ 0 true true
    rfl
  have timed : task.job.val.effectiveTimeout = some Example.second := by
    rw [job]
    rfl
  have instant : ∀ e ∈ w.logOf 0, e.label = .call (.trace .tryHttp3Left) () →
      e.time = task.spawned := by
    have own : w.logOf 0 = Example.logged 0 0 ([.arm .request 1000000000] ++
        Example.consults Example.start none ++ Example.resolves Example.start 0 [] ++
        [.call (.trace .tryHttp3Left) (), .arm .request 1000000000,
          .issue (.hyperRequest Example.hyperRequest)]) := by
      rw [World.logOf, log]
      rfl
    rw [own, spawned]
    intro e logged _
    obtain ⟨label, -, rfl⟩ := List.mem_map.mp logged
    rfl
  have kept := (deadline_kept_iff_http3_instant reached found timed).2 instant unfinished
  rw [spawned] at kept
  exact ⟨w, clock, kept⟩

/-- After a slow HTTPS RR lookup the send is pending past its timeout. -/
theorem deadline_missed_asksLate :
    ∃ (w : World (sends Example.impatient)) (task : Task (sends Example.impatient)),
      Reachable .strict (.start 0 SharedState.new) w ∧ w.tasks[0]? = some task ∧
      task.job.val.effectiveTimeout = some Example.second ∧ task.body.unfinished = true ∧
      task.spawned + Example.second.nanos < w.clock := by
  obtain ⟨w, task, reached, found, clock, -, -, job, spawned, -, unfinished⟩ := Example.reaches
    .strict Example.asksLate 0 1100000000 false _ ⟨Example.builder Example.impatient, rfl⟩ 0 true true
    rfl
  refine ⟨w, task, reached, found, ?_, unfinished, ?_⟩
  · rw [job]
    rfl
  · rw [spawned, clock, Example.second_nanos]
    omega

end MechanicsHttpClient.Guarantees
