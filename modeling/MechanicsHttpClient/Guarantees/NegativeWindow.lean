import MechanicsHttpClient.Guarantees.FailureWindow

/-!
# How long a failure over HTTP/3 is remembered

src/request.rs:276-382 and 400-504. An attempt that is dropped or times out
writes its negative entry from the clock reading of that moment. An attempt that
ends in a handshake error or in a stream failure that is not retried writes it
from the reading at the start of `try_http3`, so the window it opens is shorter
by the time the attempt took. Where it took none, every failure keeps later
sends of its origin off HTTP/3 for the full duration, whatever other sends write
meanwhile.
-/

namespace MechanicsHttpClient.Guarantees

open MechanicsHttpClient.Runtime
open MechanicsHttpClient.Source

section Run

variable {client : Client} {clock : Nat} {shared : SharedState} {w : World (sends client)} {i : Nat}
  {task : Task (sends client)} {e : Entry sig} {origin : Origin} {now : Instant}

/-- A send ends attempts and writes negative entries for its own origin only. -/
theorem own_origin (reached : Reachable .prompt (.start clock shared) w)
    (found : w.tasks[i]? = some task) (own : e ∈ w.logOf i)
    (about : attemptEnd e.label = some origin ∨ gaveUp e.label = some origin ∨
      ∃ now duration ans, e.label = .call (.negativeInsert origin now duration) ans) :
    originOf task.job.val = some origin := by
  have listed := run_footprint reached found e own
  have gave : ∀ {origin}, gaveUp e.label = some origin → originOf task.job.val = some origin := by
    intro origin gave
    obtain ⟨attempt, outcome, ended, -⟩ := gaveUp_cases gave
    rw [ended] at listed
    obtain ⟨body, tries⟩ := listed.2.resolve_right id
    exact tries.origin
  rcases about with ends | gaveUp | ⟨now, duration, ans, insert⟩
  · rcases attemptEnd_cases ends with dropped | gaveUp
    · rw [dropped] at listed
      obtain ⟨body, tries⟩ := listed.2.resolve_right id
      exact tries.origin
    · exact gave gaveUp
  · exact gave gaveUp
  · rw [insert] at listed
    obtain ⟨body, tries⟩ := (listed.2.resolve_right id).1
    exact tries.origin

theorem sends_window (client : Client) (job : (sends client).Job) (t : Nat) :
    ((sends client).program job).Sat (windowMonitor client) .prompt
      (Post.settled fun window => window.owed = none) t ⟨t, none, false⟩ := by
  have verified := send_window job.val t
  rw [job.property] at verified
  exact verified

theorem admits_window (reached : Reachable .prompt (.start clock shared) w) (i : Nat)
    (window : Window) : (windowMonitor client).Admits window (w.logOf i) := by
  refine Monitor.admits_of_forall _ ?_ window
  intro e own window
  cases e with
  | mk j time label =>
    cases label with
    | call op ans =>
      cases op with
      | instantNow => exact instantNow_reads reached (World.mem_log_of_logOf own) rfl
      | _ => exact True.intro
    | _ => exact True.intro

theorem passes_window (reached : Reachable .prompt (.start clock shared) w)
    (found : w.tasks[i]? = some task) :
    (windowMonitor client).Passes ⟨task.spawned, none, false⟩ (w.logOf i) :=
  (reached.sat (sends_window client) found (admits_window reached i _)).1

/-- What was checked when the entry was logged. -/
theorem checked_window (reached : Reachable .prompt (.start clock shared) w)
    (found : w.tasks[i]? = some task) (own : e ∈ w.logOf i) :
    ∃ window : Window, window.start = task.spawned ∧
      (windowMonitor client).check window e.time e.label ∧
      (window.late = true → ∃ e' ∈ w.logOf i, ∃ origin, gaveUp e'.label = some origin ∧
        e'.time ≠ task.spawned) := by
  obtain ⟨before, after, split⟩ := List.append_of_mem own
  obtain ⟨started, late⟩ := windowMonitor_run client before ⟨task.spawned, none, false⟩
  refine ⟨_, started, Monitor.Passes.at _ (passes_window reached found) split, ?_⟩
  intro ends
  rcases late ends with impossible | ⟨e', mem, gave⟩
  · cases impossible
  · exact ⟨e', by simp [split, mem], gave⟩

/-- A negative entry is written from a past reading of the clock, for the full
duration. -/
theorem insert_past (reached : Reachable .prompt (.start clock shared) w) (logged : e ∈ w.log)
    {duration : Duration} {ans : Except Panic Unit}
    (insert : e.label = .call (.negativeInsert origin now duration) ans) :
    duration = client.http3NegativeCacheDuration ∧ now.nanos ≤ e.time := by
  obtain ⟨task, found, own⟩ := reached.task_of_entry logged
  obtain ⟨window, -, checked, -⟩ := checked_window reached found own
  rw [insert] at checked
  exact ⟨checked.1, checked.2.1⟩

/-- From the present reading, if no send of the origin gives up after its start. -/
theorem insert_current (reached : Reachable .prompt (.start clock shared) w)
    (instant : ∀ e ∈ w.log, gaveUp e.label = some origin →
      ∀ task, w.tasks[e.task]? = some task → e.time = task.spawned)
    (logged : e ∈ w.log) {duration : Duration} {ans : Except Panic Unit}
    (insert : e.label = .call (.negativeInsert origin now duration) ans) : now.nanos = e.time := by
  obtain ⟨task, found, own⟩ := reached.task_of_entry logged
  obtain ⟨window, -, checked, late⟩ := checked_window reached found own
  rw [insert] at checked
  refine checked.2.2.1 ?_
  by_contra isLate
  obtain ⟨e', own', o, gave, elsewhere⟩ := late (by simpa using isLate)
  have mine := own_origin reached found own (.inr (.inr ⟨now, duration, ans, insert⟩))
  have theirs := own_origin reached found own' (.inr (.inl gave))
  rw [mine, Option.some.injEq] at theirs
  have same : e'.task = e.task := by simpa [World.logOf] using (List.mem_filter.mp own').2
  exact elsewhere (instant e' (World.mem_log_of_logOf own') (theirs ▸ gave) task (same ▸ found))

/-- `negative_cache_hit` is asked at the start of a send, with the present reading. -/
theorem check_current (reached : Reachable .prompt (.start clock shared) w)
    (found : w.tasks[i]? = some task) (own : e ∈ w.logOf i) {hit : Bool}
    (check : e.label = .call (.negativeCacheHit origin now) hit) :
    now.nanos = e.time ∧ e.time = task.spawned := by
  obtain ⟨window, started, checked, -⟩ := checked_window reached found own
  rw [check] at checked
  exact ⟨checked.1, checked.2.trans started⟩

/-- Every end of an attempt is followed, at the same instant, by a negative entry
for its origin. -/
theorem paid_at_once (reached : Reachable .prompt (.start clock shared) w) (logged : e ∈ w.log)
    (ends : attemptEnd e.label = some origin) (past : e.time < w.clock) :
    ∃ paid ∈ w.log, paid.time = e.time ∧ ∃ now ans,
      paid.label = .call (.negativeInsert origin now client.http3NegativeCacheDuration) ans := by
  obtain ⟨task, found, own⟩ := reached.task_of_entry logged
  obtain ⟨before, after, split⟩ := List.append_of_mem own
  have passes := passes_window reached found
  have admits := admits_window reached e.task ⟨task.spawned, none, false⟩
  rw [split, Monitor.passes_append] at passes
  have owes := windowMonitor_owes client
    ((windowMonitor client).run ⟨task.spawned, none, false⟩ before)
    e.time ends
  rcases debt_paid client after owes passes.2.2 with
    ⟨paid, mem, ⟨o, now, duration, ans, insert⟩, due⟩ | still
  · have ownPaid : paid ∈ w.logOf e.task := by simp [split, mem]
    have loggedPaid := World.mem_log_of_logOf ownPaid
    have mine := own_origin reached found own (.inl ends)
    have theirs := own_origin reached found ownPaid (.inr (.inr ⟨now, duration, ans, insert⟩))
    rw [mine, Option.some.injEq] at theirs
    subst theirs
    rw [(insert_past reached loggedPaid insert).1] at insert
    exact ⟨paid, loggedPaid, due, now, ans, insert⟩
  · exfalso
    have owed : ((windowMonitor client).run ⟨task.spawned, none, false⟩ (w.logOf e.task)).owed =
        some e.time := by
      rw [split, Monitor.run_append]
      exact still
    cases resting : task.body.resting with
    | true =>
      have nothing := Reachable.settled (sends_window client) (fun _ _ _ rests => rests) reached found
        admits resting
      rw [nothing] at owed
      cases owed
    | false =>
      have dueNow := Reachable.prompt (R := fun _ _ window t => ∀ f, window.owed = some f → t = f) rfl
        (sends_window client) (fun _ _ f none => nomatch none)
        (fun _ _ window t label _ _ due => windowMonitor_due client window t label due)
        (fun _ _ window t rests f owed => by
          have nothing : window.owed = none := rests
          rw [nothing] at owed
          cases owed)
        reached found admits (Body.unfinished_of_not_resting resting)
      have := dueNow e.time owed
      omega

/-- An origin whose attempt failed is in the negative cache until the duration has
passed, if its sends give up at once. -/
theorem negativeCacheHit_in_window {w : World (sends client)} {check ended : Entry sig} {hit : Bool}
    (reached : Reachable .prompt (.start clock SharedState.new) w)
    (fits : w.clock + client.http3NegativeCacheDuration.nanos < instantLimit)
    (instant : ∀ e ∈ w.log, gaveUp e.label = some origin →
      ∀ task, w.tasks[e.task]? = some task → e.time = task.spawned)
    (logged : ended ∈ w.log) (ends : attemptEnd ended.label = some origin)
    (asked : check ∈ w.log) (asks : check.label = .call (.negativeCacheHit origin now) hit)
    (after : ended.time < check.time)
    (inside : check.time < ended.time + client.http3NegativeCacheDuration.nanos) : hit = true := by
  have sorted := reached.log_sorted
  have bounded := sorted.2.1 check asked
  obtain ⟨paid, loggedPaid, due, stored, ans, insert⟩ :=
    paid_at_once reached logged ends (by omega)
  obtain ⟨history, later, split⟩ := List.append_of_mem asked
  -- The entry was written before the check, since time does not run backwards.
  have earlier : paid ∈ history := by
    rw [split] at loggedPaid
    rcases List.mem_append.mp loggedPaid with old | new
    · exact old
    · have order := sorted.2.2
      rw [split, List.pairwise_append] at order
      rcases List.mem_cons.mp new with same | new
      · rw [same] at due
        omega
      · have := (List.pairwise_cons.mp order.2.1).1 paid new
        omega
  obtain ⟨before, since, splitHistory⟩ := List.append_of_mem earlier
  have inLog : ∀ e ∈ since, e ∈ w.log := fun e mem => by simp [split, splitHistory, mem]
  have ordered : ∀ e ∈ since, paid.time ≤ e.time ∧ e.time ≤ check.time := by
    have order := sorted.2.2
    rw [split, splitHistory, List.pairwise_append] at order
    obtain ⟨first, -, across⟩ := order
    rw [List.pairwise_append] at first
    intro e mem
    exact ⟨(List.pairwise_cons.mp first.2.1).1 e mem, across e (by simp [mem]) check (by simp)⟩
  have sound : w.shared.negative.poisoned = false := by
    refine replay_keeps_sound w.log ?_ reached.replay_log rfl
    intro e mem o now duration ans insert
    obtain ⟨rfl, past⟩ := insert_past reached mem insert
    have := sorted.2.1 e mem
    omega
  obtain ⟨task, found, own⟩ := reached.task_of_entry asked
  have reading := (check_current reached found own asks).1
  refine (negativeCacheHit_iff reached sound split asks).mpr ?_
  have current := insert_current reached instant loggedPaid insert
  have storable : stored.nanos + client.http3NegativeCacheDuration.nanos < instantLimit := by
    have := sorted.2.1 paid loggedPaid
    omega
  have written : negativeWritten origin paid.label = some ⟨_, storable⟩ := by
    simp [insert, negativeWritten, Instant.checkedAdd, storable]
  obtain ⟨held, content, lasting⟩ : ∃ held, negativeAfter origin history = some held ∧
      ended.time + client.http3NegativeCacheDuration.nanos ≤ held.nanos := by
    rw [negativeAfter, splitHistory]
    refine Slot.after_of_kind (fun e : Entry sig => negativeAct origin e.label) (fun expiresAt =>
      ended.time + client.http3NegativeCacheDuration.nanos ≤ expiresAt.nanos)
      (negativeAct_store_iff.mpr written) ?_ ?_ ?_
    · simp only
      omega
    · intro e mem value stores
      obtain ⟨now, duration, ans, insert, sum⟩ :=
        negativeWritten_some (negativeAct_store_iff.mp stores)
      obtain ⟨rfl, -⟩ := insert_past reached (inLog e mem) insert
      have current := insert_current reached instant (inLog e mem) insert
      have expiry := Instant.checkedAdd_eq_some.mp sum
      have order := (ordered e mem).1
      omega
    · intro e mem stale evicts value lasting
      obtain ⟨now, hit, asks, rfl⟩ := negativeAct_evict evicts
      obtain ⟨task, found, own⟩ := reached.task_of_entry (inLog e mem)
      have reading := (check_current reached found own asks).1
      have order := (ordered e mem).2
      simp only [Bool.not_eq_false', decide_eq_true_eq]
      omega
  exact ⟨held, (negativeAfter_iff origin history held).mp content, by omega⟩

end Run

/-- A send whose check hits looks nothing up and connects nowhere. -/
def blockedMonitor : Monitor sig Unit where
  next _ _ _ := ()
  assume _ _ label := ∀ origin now hit, label = .call (.negativeCacheHit origin now) hit → hit = true
  check _ _ label := (∀ host, label ≠ .issue (.lookupHttps host)) ∧
    ∀ addr name ans, label ≠ .call (.connect addr name) ans
  rest _ _ := True

theorem send_blocked {pace : Pace} (builder : RequestBuilder) (t : Nat) :
    (send builder).Sat blockedMonitor pace (Post.settled fun _ => True) t () := by
  refine send_settled ?_ (fun _ _ => id) True.intro ?_
  · intro s t label has
    refine ⟨rfl, ?_, ?_⟩
    · rintro host rfl
      exact has.elim
    · rintro addr name ans rfl
      exact has.elim
  · intro uri origin body _ _ t
    refine tryHttp3_sat fun t₁ _ => ⟨⟨fun _ => nofun, fun _ _ _ => nofun⟩, fun _ _ t₂ now _ _ =>
      ⟨⟨fun _ => nofun, fun _ _ _ => nofun⟩, fun _ _ t₃ hit _ hits =>
        ⟨⟨fun _ => nofun, fun _ _ _ => nofun⟩, fun _ _ => ⟨fun _ => True.intro, fun missed => ?_⟩⟩⟩⟩
    rw [hits origin now hit rfl] at missed
    cases missed

section Run

variable {client : Client} {clock : Nat} {w : World (sends client)} {origin : Origin}

/-- If every send to the origin that gives HTTP/3 up does so at the instant it
started, then for the full duration after an attempt has ended without a
response no send to the origin gets past its check, whatever other sends have
written meanwhile. -/
theorem negativeWindow_kept (reached : Reachable .prompt (.start clock SharedState.new) w)
    (fits : w.clock + client.http3NegativeCacheDuration.nanos < instantLimit)
    (instant : ∀ e ∈ w.log, gaveUp e.label = some origin →
      ∀ task, w.tasks[e.task]? = some task → e.time = task.spawned)
    {ended : Entry sig} (logged : ended ∈ w.log) (ends : attemptEnd ended.label = some origin)
    {j : Nat} {task : Task (sends client)} (found : w.tasks[j]? = some task)
    (sendsTo : originOf task.job.val = some origin) (after : ended.time < task.spawned)
    (inside : task.spawned < ended.time + client.http3NegativeCacheDuration.nanos) :
    ∀ e ∈ w.logOf j,
      (∀ o now hit, e.label = .call (.negativeCacheHit o now) hit → hit = true) ∧
      (∀ host, e.label ≠ .issue (.lookupHttps host)) ∧
      ∀ addr name ans, e.label ≠ .call (.connect addr name) ans := by
  have hits : ∀ e ∈ w.logOf j, ∀ o now hit, e.label = .call (.negativeCacheHit o now) hit →
      hit = true := by
    intro e own o now hit asks
    have listed := run_footprint reached found e own
    have mine : originOf task.job.val = some o := by
      rw [asks] at listed
      obtain ⟨body, tries⟩ := listed.2.resolve_right id
      exact tries.origin
    rw [sendsTo, Option.some.injEq] at mine
    subst mine
    have started := (check_current reached found own asks).2
    exact negativeCacheHit_in_window reached fits instant logged ends (World.mem_log_of_logOf own) asks
      (by omega) (by omega)
  have verified : ∀ (job : (sends client).Job) t, ((sends client).program job).Sat blockedMonitor
      .prompt (Post.settled fun _ => True) t () := fun job t => send_blocked job.val t
  have admits := Monitor.admits_of_forall blockedMonitor (fun e own _ => hits e own) ()
  have passes := (reached.sat verified found admits).1
  intro e own
  obtain ⟨before, later, split⟩ := List.append_of_mem own
  exact ⟨hits e own, Monitor.Passes.at _ passes split⟩

end Run

namespace Example

def soon : Instant := ⟨10, by decide⟩

/-- No endpoint, and the request goes to hyper. -/
def refusedSend : List (Label sig) :=
  consults start none ++ refused start 0 client.http3NegativeCacheDuration ++
  [.call (.trace .tryHttp3Left) (), .issue (.hyperRequest hyperRequest)]

def blockedSend : List (Label sig) :=
  [.call (.trace (.tryHttp3Entered origin)) (), .call .instantNow soon,
    .call (.negativeCacheHit origin soon) true, .call (.trace .tryHttp3Left) (),
    .issue (.hyperRequest hyperRequest)]

/-- A send that fails at once, and another right after it. -/
def refusedThenBlocked : List (Event (sends client)) :=
  spawned client :: performs 0 refusedSend ++ [.tick 10, spawned client] ++ performs 1 blockedSend

/-- A client that remembers failures for a second. -/
def brief : Client := { client with http3NegativeCacheDuration := ⟨1000000000, by decide⟩ }

def laterOn : Instant := ⟨1200000000, by decide⟩

/-- An attempt over the HTTPS RR route up to the wait for the response. -/
def awaitsResponse : List (Label sig) :=
  consults start none ++ resolves start 0 [h3Record] ++
  [.call (.httpsRrInsert origin h3Entry) (),
    .call (.trace (.http3Request origin (call (httpsRrTarget origin h3Entry)))) ()] ++
  dials 0 origin.host ++
  [.arm .connect 500000000, .issue .connecting, .done .connecting (.ok ()),
    .arm .setup 500000000, .issue .h3Build, .done .h3Build (.ok ()),
    .arm .streamOpen 150000000, .issue (.sendRequest h3Request),
    .done (.sendRequest h3Request) (.ok 0),
    .arm .upload 500000000, .issue .finish, .done .finish (.ok ()), .issue .recvResponse]

/-- The response does not come, and the request goes to hyper. -/
def givesUpWaiting : List (Label sig) :=
  [.done .recvResponse (.error ()),
    .call (.trace (.http3Outcome origin 0 (.failed (.stream false)))) (),
    .call (.negativeInsert origin start brief.http3NegativeCacheDuration) (.ok ()),
    .call (.altSvcRemove origin) (), .call (.trace .tryHttp3Left) (),
    .issue (.hyperRequest hyperRequest)]

/-- Another attempt, over the same route. -/
def triesAgain : List (Label sig) :=
  consults laterOn none ++ [.call (.httpsRrCached origin laterOn) (some h3Entry),
    .call (.trace (.http3Request origin (call (httpsRrTarget origin h3Entry)))) ()] ++
  dials 1200000000 origin.host

/-- The first attempt fails after 600 ms, the second send starts 600 ms later. -/
def slowThenAgain : List (Event (sends brief)) :=
  spawned brief :: performs 0 awaitsResponse ++ [.tick 600000000] ++ performs 0 givesUpWaiting ++
  [.tick 1200000000, spawned brief] ++ performs 1 triesAgain

end Example

/-- The second send stays off HTTP/3. -/
theorem negativeWindow_kept_refused :
    ∃ w : World (sends Example.client),
      (⟨1, 10, .call (.negativeCacheHit Example.origin Example.soon) true⟩ : Entry sig) ∈ w.logOf 1 ∧
      ∀ e ∈ w.logOf 1, ∀ host, e.label ≠ .issue (.lookupHttps host) := by
  have ran : ((World.start 0 SharedState.new).run .prompt Example.refusedThenBlocked).map
      (fun w => (w.clock, w.tasks.map Task.job, w.tasks.map Task.spawned, w.log)) =
      some (10, List.replicate 2 ⟨Example.builder Example.client, rfl⟩, [0, 10],
        Example.logged 0 0 Example.refusedSend ++ Example.logged 1 10 Example.blockedSend) := rfl
  obtain ⟨w, reached, seen⟩ := Option.map_eq_some_iff.mp ran
  simp only [Prod.mk.injEq] at seen
  obtain ⟨clock, jobs, times, log⟩ := seen
  have reached := Reachable.of_run _ .refl reached
  have ended : (⟨0, 0, .call (.trace (.http3Outcome Example.origin 0 (.failed (.handshake [])))) ()⟩ :
      Entry sig) ∈ w.log := by
    rw [log]
    simp [Example.logged, Example.refusedSend, Example.refused]
  have own : w.logOf 1 = Example.logged 1 10 Example.blockedSend := by
    rw [World.logOf, log]
    rfl
  have spawned : ∀ {i : Nat} {task : Task (sends Example.client)}, w.tasks[i]? = some task →
      [0, 10][i]? = some task.spawned := by
    intro i task found
    rw [← times, List.getElem?_map, found]
    rfl
  have instant : ∀ e ∈ w.log, gaveUp e.label = some Example.origin →
      ∀ task, w.tasks[e.task]? = some task → e.time = task.spawned := by
    have ends : w.log.filterMap (fun e => (gaveUp e.label).map fun _ => (e.task, e.time)) =
        [(0, 0)] := by
      rw [log]
      rfl
    intro e logged gave task found
    have mine : (e.task, e.time) ∈
        w.log.filterMap fun e => (gaveUp e.label).map fun _ => (e.task, e.time) :=
      List.mem_filterMap.mpr ⟨e, logged, by rw [gave]; rfl⟩
    rw [ends, List.mem_singleton, Prod.mk.injEq] at mine
    have first := spawned found
    simp only [mine.1, List.getElem?_cons_zero, Option.some.injEq] at first
    exact mine.2.trans first
  have two : 1 < w.tasks.length := by
    have counted := congrArg List.length times
    simp only [List.length_map, List.length_cons, List.length_nil] at counted
    omega
  have found := List.getElem?_eq_getElem two
  have second := spawned found
  simp only [List.getElem?_cons_succ, List.getElem?_cons_zero, Option.some.injEq] at second
  have sendsTo : originOf (w.tasks[1]).job.val = some Example.origin := by
    have listed : w.tasks[1].job ∈ w.tasks.map Task.job :=
      List.mem_map_of_mem (List.getElem_mem two)
    rw [jobs] at listed
    rw [List.eq_of_mem_replicate listed]
    rfl
  have fits : w.clock + Example.client.http3NegativeCacheDuration.nanos < instantLimit := by
    rw [clock]
    decide
  have kept := negativeWindow_kept reached fits instant ended rfl found sendsTo
    (by rw [← second]; decide) (by rw [← second]; decide)
  refine ⟨w, ?_, fun e mem => (kept e mem).2.1⟩
  rw [own]
  simp [Example.logged, Example.blockedSend]

/-- An attempt fails after 600 ms. A send 600 ms later misses the check and
connects, 400 ms before the duration has passed. -/
theorem negativeWindow_missed :
    ∃ (w : World (sends Example.brief)) (task : Task (sends Example.brief))
      (ended check opened : Entry sig),
      Reachable .prompt (.start 0 SharedState.new) w ∧
      w.clock + Example.brief.http3NegativeCacheDuration.nanos < instantLimit ∧
      ended ∈ w.log ∧ attemptEnd ended.label = some Example.origin ∧ w.tasks[1]? = some task ∧
      originOf task.job.val = some Example.origin ∧ ended.time < task.spawned ∧
      task.spawned < ended.time + Example.brief.http3NegativeCacheDuration.nanos ∧
      check ∈ w.logOf 1 ∧
      check.label = .call (.negativeCacheHit Example.origin Example.laterOn) false ∧
      opened ∈ w.logOf 1 ∧
      opened.label = .call (.connect Example.addr Example.origin.host) (.ok ()) := by
  obtain ⟨w, task, reached, found, clock, -, log, job, spawned, -⟩ := Example.reaches .prompt
    Example.slowThenAgain 1 1200000000 false (Example.logged 0 0 Example.awaitsResponse ++
      Example.logged 0 600000000 Example.givesUpWaiting ++
      Example.logged 1 1200000000 Example.triesAgain)
    ⟨Example.builder Example.brief, rfl⟩ 1200000000 false true rfl
  have own : w.logOf 1 = Example.logged 1 1200000000 Example.triesAgain := by
    rw [World.logOf, log]
    rfl
  refine ⟨w, task, ⟨0, 600000000, .call (.trace (.http3Outcome Example.origin 0
    (.failed (.stream false)))) ()⟩, ⟨1, 1200000000, .call (.negativeCacheHit Example.origin
    Example.laterOn) false⟩, ⟨1, 1200000000, .call (.connect Example.addr Example.origin.host)
    (.ok ())⟩, reached, ?_, ?_, rfl, found, ?_, ?_, ?_, ?_, rfl, ?_, rfl⟩
  · rw [clock]
    decide
  · rw [log]
    simp [Example.logged, Example.givesUpWaiting]
  · rw [job]
    rfl
  · rw [spawned]
    decide
  · rw [spawned]
    decide
  · rw [own]
    simp [Example.logged, Example.triesAgain, Example.consults]
  · rw [own]
    simp [Example.logged, Example.triesAgain, Example.dials]

end MechanicsHttpClient.Guarantees
