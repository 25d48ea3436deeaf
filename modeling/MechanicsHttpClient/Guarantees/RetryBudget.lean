import MechanicsHttpClient.Guarantees.RouteSpending

/-!
# How many attempts a send makes

src/request.rs:276-398. One route makes at most two attempts, and the second only
when the first has put nothing on a stream. The loop then gives HTTP/3 up, but
its caller does not: after the Alt-Svc route it goes on to the HTTPS RR route,
and where that is offered the request is attempted anew.
-/

namespace MechanicsHttpClient.Guarantees

open MechanicsHttpClient.Runtime
open MechanicsHttpClient.Source

/-- The loop has given up and an entry with h3 is found. -/
def Spending.offer (spending : Spending) (found : Option HttpsRr.HttpsRrEntry) : Spending :=
  { spending with
    offered := spending.offered || (spending.ended && found.any HttpsRr.HttpsRrEntry.hasH3) }

section HttpsRr

variable {pace : Pace} {spending : Spending} {t : Nat} {client : Client} {origin : Origin}
  {request : Request Unit} {body : Option Bytes} {now : Instant}

theorem Spending.offer_plain {found : Option HttpsRr.HttpsRrEntry}
    (plain : spending.ended = false ∨ found.any HttpsRr.HttpsRrEntry.hasH3 = false) :
    spending.offer found = spending := by
  have same : (spending.offered || (spending.ended && found.any HttpsRr.HttpsRrEntry.hasH3)) =
      spending.offered := by
    rcases plain with goesOn | none
    · simp [goesOn]
    · simp [none]
  rw [Spending.offer, same]

theorem Spending.Settled.offer (settled : spending.Settled)
    (found : Option HttpsRr.HttpsRrEntry) : (spending.offer found).Fine := by
  intro offered
  simp only [Spending.offer, Bool.or_eq_false_iff] at offered
  obtain ⟨again, connections, streams⟩ := settled.fine offered.1
  exact ⟨again, connections, streams⟩

theorem Spending.next_cached (origin : Origin) (now : Instant)
    (found : Option HttpsRr.HttpsRrEntry) :
    spending.next (.call (.httpsRrCached origin now) found) = spending.offer found := by
  cases found <;> simp [Spending.next, Spending.offer, gaveUp, offersH3, startsAttempt,
    opensConnection, opensStream]

theorem Spending.next_looked (host : Str) (port : UInt16) (records : List HttpsRecord) :
    spending.next (.done (.lookupHttps host) (.ok records)) =
      spending.offer (HttpsRr.selectRecord port none records) := by
  have offered : (HttpsRr.selectRecord port none records).any HttpsRr.HttpsRrEntry.hasH3 =
      records.any fun record => record.hasAlpn "h3".toList := selectRecord_hasH3 port records
  simp [Spending.next, Spending.offer, gaveUp, offersH3, startsAttempt, opensConnection,
    opensStream, offered]

/-- The lookup offers what it finds. -/
theorem httpsRrEntry_budget {P : Post Spending (Option HttpsRr.HttpsRrEntry)}
    (settled : spending.Settled) (returned : ∀ found t, P.returned found t (spending.offer found))
    (stopped : ∀ t, P.panicked t spending ∧ P.dropped t spending) :
    (httpsRrEntry origin now).Sat budgetMonitor pace P t spending := by
  have nothing : ∀ t, P.returned none t spending := by
    intro t
    have found := returned none t
    rwa [Spending.offer_plain (.inr rfl)] at found
  refine Prog.Sat.perform_bind fun t cached _ _ => ?_
  have looked : budgetMonitor.next spending t (.call (.httpsRrCached origin now) cached) =
      spending.offer cached := spending.next_cached origin now cached
  refine ⟨budgetMonitor_check looked fun _ => settled.offer cached, ?_⟩
  rw [looked]
  cases cached with
  | some entry => exact returned (some entry) t
  | none =>
    rw [Spending.offer_plain (.inr rfl)]
    refine Prog.Sat.bind _ (Prog.Sat.timeout_cut fun t _ _ => ?_)
    have armed := budgetMonitor_ignores spending t
      (.arm .httpsRrLookup (t + h3HttpsRrLookupTimeout.nanos)) True.intro
    refine ⟨armed.2, fun spending t j => budgetMonitor_ignores spending t _ True.intro, ?_⟩
    rw [armed.1]
    refine Prog.Sat.bind _ (Prog.Sat.suspend fun t₁ _ _ => ?_)
    have issued : budgetMonitor.next spending t₁ (.issue (.lookupHttps origin.host)) = spending :=
      spending.next_silent rfl rfl rfl rfl rfl
    refine ⟨budgetMonitor_check issued id, fun t₂ _ => ?_⟩
    rw [issued]
    refine ⟨settled, ?_, nothing t₂, (stopped t₂).2⟩
    intro records _
    cases records with
    | error e =>
      have still : budgetMonitor.next spending t₂ (.done (.lookupHttps origin.host) (.error e)) =
        spending := spending.next_silent rfl rfl rfl rfl rfl
      refine ⟨budgetMonitor_check still id, ?_⟩
      rw [still]
      exact nothing t₂
    | ok records =>
      have answered : budgetMonitor.next spending t₂ (.done (.lookupHttps origin.host) (.ok records)) =
        spending.offer (HttpsRr.selectRecord origin.port none records) :=
          spending.next_looked origin.host origin.port records
      refine ⟨budgetMonitor_check answered fun _ => settled.offer _, ?_⟩
      rw [answered]
      dsimp only
      cases found : HttpsRr.selectRecord origin.port none records with
      | none => exact returned none t₂
      | some entry =>
        refine Prog.Sat.perform_bind fun t₃ _ _ _ => ?_
        have stored := budgetMonitor_ignores (spending.offer (some entry)) t₃
          (.call (.httpsRrInsert origin entry) ()) True.intro
        refine ⟨stored.2, ?_⟩
        rw [stored.1]
        exact returned (some entry) t₃

theorem tryHttpsRrRoute_tempted {P : Post Spending (Except Error (Option Response))}
    (spent : spending.Spent)
    (ends : ∀ t spending, spending.Settled →
      (∀ result, P.returned result t spending) ∧ P.panicked t spending ∧ P.dropped t spending) :
    (tryHttpsRrRoute client origin request body now).Sat budgetMonitor pace P t spending := by
  refine tryHttpsRrRoute_sat (httpsRrEntry_budget spent.settled ?_
    fun t => (ends t spending spent.settled).2)
  intro found t
  constructor
  · intro entry some h3
    subst some
    refine temptedRoute_budget spent.ended ?_ fun t spending isOver => ends t spending isOver.settled
    simp [Spending.offer, spent.ended, h3]
  · intro plain
    have nothing : found.any HttpsRr.HttpsRrEntry.hasH3 = false := by
      cases found with
      | none => rfl
      | some entry => exact plain entry rfl
    rw [Spending.offer_plain (.inr nothing)]
    exact (ends t spending spent.settled).1 _

theorem tryHttpsRrRoute_first {P : Post Spending (Except Error (Option Response))}
    (trying : spending.Trying 0 0)
    (ends : ∀ t spending, spending.Settled →
      (∀ result, P.returned result t spending) ∧ P.panicked t spending ∧ P.dropped t spending) :
    (tryHttpsRrRoute client origin request body now).Sat budgetMonitor pace P t spending := by
  have settled := trying.settled (Nat.zero_le 2) (Nat.zero_le 1)
  refine tryHttpsRrRoute_sat (httpsRrEntry_budget settled ?_ fun t => (ends t spending settled).2)
  intro found t
  rw [Spending.offer_plain (.inl trying.ended)]
  constructor
  · intro entry _ _
    exact route_budget trying
      (fun _ t spending trying => (ends t spending
        (trying.settled (Nat.le_refl 2) (Nat.le_refl 1))).1 _)
      (fun t spending spent => (ends t spending spent.settled).1 _)
      fun t spending settled => (ends t spending settled).2
  · exact fun _ => (ends t spending settled).1 _

end HttpsRr

theorem tryHttp3_budget {pace : Pace} {spending : Spending} {t : Nat} {client : Client}
    {origin : Origin} {request : Request Unit} {body : Option Bytes} (trying : spending.Trying 0 0) :
    (tryHttp3 client origin request body).Sat budgetMonitor pace
      (Post.settled Spending.Settled) t spending := by
  have ends : ∀ (t : Nat) (spending : Spending), spending.Settled →
      (∀ _ : Except Error (Option Response), spending.Settled) ∧ spending.Settled ∧
        spending.Settled := fun _ _ settled => ⟨fun _ => settled, settled, settled⟩
  have entered := fun t => budgetMonitor_ignores spending t
    (.call (.trace (.tryHttp3Entered origin)) ()) True.intro
  have read := fun t now => budgetMonitor_ignores spending t (.call .instantNow now) True.intro
  have asked := fun t now hit => budgetMonitor_ignores spending t
    (.call (.negativeCacheHit origin now) hit) True.intro
  have looked := fun t now found => budgetMonitor_ignores spending t
    (.call (.altSvcEntry origin now) found) True.intro
  have routed := fun t host port => budgetMonitor_ignores spending t
    (.call (.trace (.altSvcRoute origin host port)) ()) True.intro
  refine tryHttp3_sat fun t₁ _ => ⟨(entered t₁).2, fun s₁ same₁ t₂ now _ _ => ?_⟩
  rw [(entered t₁).1] at same₁
  subst same₁
  refine ⟨(read t₂ now).2, fun s₂ same₂ t₃ hit _ _ => ?_⟩
  rw [(read t₂ now).1] at same₂
  subst same₂
  refine ⟨(asked t₃ now hit).2, fun s₃ same₃ => ?_⟩
  rw [(asked t₃ now hit).1] at same₃
  subst same₃
  refine ⟨fun _ => trying.settled (Nat.zero_le 2) (Nat.zero_le 1), fun _ => ?_⟩
  refine tryAltSvcRoute_sat fun t₄ found _ _ => ⟨(looked t₄ now found).2, fun s₄ same₄ => ?_⟩
  rw [(looked t₄ now found).1] at same₄
  subst same₄
  refine ⟨fun _ => tryHttpsRrRoute_first trying ends, fun entry _ t₅ _ =>
    ⟨(routed t₅ entry.host entry.port).2, ?_⟩⟩
  rw [(routed t₅ entry.host entry.port).1]
  exact route_budget trying
    (fun _ _ _ trying => trying.settled (Nat.le_refl 2) (Nat.le_refl 1))
    (fun _ _ spent => tryHttpsRrRoute_tempted spent ends) fun _ _ settled => ⟨settled, settled⟩

theorem besideTryHttp3_budgetQuiet : besideTryHttp3.Within budgetQuiet where
  op op used := by
    cases op with
    | httpsRrCached origin now => exact used.elim
    | lookupHttps host => exact used.elim
    | connect addr serverName => exact used.elim
    | sendRequest request => exact used.elim
    | trace point =>
      cases point with
      | http3Request origin call => exact used.elim
      | http3Outcome origin attempt outcome => exact used.elim
      | _ => exact True.intro
    | _ => exact True.intro
  timer _ _ := True.intro
  unwinds _ := True.intro

theorem send_budget {pace : Pace} (builder : RequestBuilder) (t : Nat) :
    (send builder).Sat budgetMonitor pace (Post.settled Spending.Settled) t Spending.start := by
  have trying : Spending.start.Trying 0 0 := ⟨rfl, rfl, rfl, Nat.le_refl 0, Nat.le_refl 0⟩
  refine send_settled (budgetMonitor_ignores.within besideTryHttp3_budgetQuiet) (fun _ _ => id)
    (trying.settled (Nat.zero_le 2) (Nat.zero_le 1)) ?_
  exact fun _ _ _ _ _ _ => tryHttp3_budget trying

/-- One entry of the log, and a later one. -/
def Follows (first second : Label sig → Bool) (log : List (Entry sig)) : Prop :=
  ∃ e e', [e, e'].Sublist log ∧ first e.label = true ∧ second e'.label = true

/-- The loop gives HTTP/3 up here. -/
def givesUpHere (label : Label sig) : Bool := (gaveUp label).isSome

/-- Once the loop has given up, h3 is offered. -/
def OfferedAgain (log : List (Entry sig)) : Prop := Follows givesUpHere offersH3 log

/-- Once the loop has given up, there is no further attempt; and there are at
most two connections and at most one request on a stream. -/
structure KeepsBudget (log : List (Entry sig)) : Prop where
  once : ¬ Follows givesUpHere startsAttempt log
  connections : log.countP (fun e => opensConnection e.label) ≤ 2
  streams : log.countP (fun e => opensStream e.label) ≤ 1

theorem follows_cons (first second : Label sig → Bool) (e : Entry sig) (log : List (Entry sig)) :
    Follows first second (e :: log) ↔
      (first e.label = true ∧ ∃ e' ∈ log, second e'.label = true) ∨ Follows first second log := by
  unfold Follows
  constructor
  · rintro ⟨a, b, listed, here, there⟩
    rcases List.sublist_cons_iff.mp listed with later | ⟨rest, same, further⟩
    · exact .inr ⟨a, b, later, here, there⟩
    · cases same
      exact .inl ⟨here, b, List.singleton_sublist.mp further, there⟩
  · rintro (⟨here, b, mem, there⟩ | ⟨a, b, later, here, there⟩)
    · exact ⟨e, b, List.Sublist.cons_cons e (List.singleton_sublist.mpr mem), here, there⟩
    · exact ⟨a, b, List.Sublist.cons e later, here, there⟩

theorem Follows.of_split {first second : Label sig → Bool} {before later : List (Entry sig)}
    {e e' : Entry sig} (here : first e.label = true) (mem : e' ∈ later)
    (there : second e'.label = true) : Follows first second (before ++ e :: later) :=
  ⟨e, e', (List.Sublist.cons_cons e (List.singleton_sublist.mpr mem)).trans
    (List.sublist_append_right before (e :: later)), here, there⟩

/-- One more label in front: `G` and `A` before it, `F` and `S` at it, `R` and
`L` after it. -/
theorem follows_step (A G F S R L : Prop) :
    ((A ∨ G ∧ S) ∨ (G ∨ F) ∧ R ∨ L) ↔ (A ∨ G ∧ (S ∨ R) ∨ F ∧ R ∨ L) := by
  tauto

/-- What was spent, counted in the log. -/
theorem budgetMonitor_run (log : List (Entry sig)) : ∀ spending : Spending,
    ((budgetMonitor.run spending log).offered = true ↔ spending.offered = true ∨
      (spending.ended = true ∧ ∃ e ∈ log, offersH3 e.label = true) ∨
      Follows givesUpHere offersH3 log) ∧
    ((budgetMonitor.run spending log).again = true ↔ spending.again = true ∨
      (spending.ended = true ∧ ∃ e ∈ log, startsAttempt e.label = true) ∨
      Follows givesUpHere startsAttempt log) ∧
    (budgetMonitor.run spending log).connections =
      spending.connections + log.countP (fun e => opensConnection e.label) ∧
    (budgetMonitor.run spending log).streams =
      spending.streams + log.countP (fun e => opensStream e.label) := by
  induction log with
  | nil => simp [Monitor.run, Follows]
  | cons e rest ih =>
    intro spending
    obtain ⟨offered, again, connections, streams⟩ := ih (spending.next e.label)
    refine ⟨?_, ?_, ?_, ?_⟩
    · rw [follows_cons, Monitor.run]
      refine offered.trans ?_
      simp only [Spending.next, Bool.or_eq_true, Bool.and_eq_true, List.mem_cons, exists_eq_or_imp]
      exact follows_step _ _ _ _ _ _
    · rw [follows_cons, Monitor.run]
      refine again.trans ?_
      simp only [Spending.next, Bool.or_eq_true, Bool.and_eq_true, List.mem_cons, exists_eq_or_imp]
      exact follows_step _ _ _ _ _ _
    · rw [Monitor.run]
      refine connections.trans ?_
      cases here : opensConnection e.label <;> simp [Spending.next, here]
      omega
    · rw [Monitor.run]
      refine streams.trans ?_
      cases here : opensStream e.label <;> simp [Spending.next, here]
      omega

theorem budgetMonitor_fine {log : List (Entry sig)} : ∀ {spending : Spending},
    budgetMonitor.Passes spending log → spending.Fine → (budgetMonitor.run spending log).Fine := by
  induction log with
  | nil => exact fun _ fine => fine
  | cons e rest ih => exact fun passes fine => ih passes.2 (passes.1 fine)

/-- A send keeps the retry budget exactly if it is not offered h3 by an HTTPS
record after its loop has given up: any send that is not keeps it, and any that
is, once it rests or is over, has exceeded it. -/
theorem retryBudget_kept_iff_not_offered {client : Client} {pace : Pace} {clock : Nat}
    {shared : SharedState} {w : World (sends client)}
    (reached : Reachable pace (.start clock shared) w) {i : Nat} {task : Task (sends client)}
    (found : w.tasks[i]? = some task) :
    (¬ OfferedAgain (w.logOf i) → KeepsBudget (w.logOf i)) ∧
    (task.body.resting = true → KeepsBudget (w.logOf i) → ¬ OfferedAgain (w.logOf i)) := by
  have verified : ∀ (job : (sends client).Job) t, ((sends client).program job).Sat budgetMonitor
      pace (Post.settled Spending.Settled) t Spending.start := fun job t => send_budget job.val t
  have admits := Monitor.admits_of_trivial budgetMonitor (fun _ _ _ => True.intro) Spending.start
    (w.logOf i)
  obtain ⟨offered, again, connections, streams⟩ := budgetMonitor_run (w.logOf i) Spending.start
  have offered : (budgetMonitor.run Spending.start (w.logOf i)).offered = true ↔
      OfferedAgain (w.logOf i) := by
    simpa [Spending.start, OfferedAgain] using offered
  have again : (budgetMonitor.run Spending.start (w.logOf i)).again = true ↔
      Follows givesUpHere startsAttempt (w.logOf i) := by
    simpa [Spending.start] using again
  have connections : (budgetMonitor.run Spending.start (w.logOf i)).connections =
      (w.logOf i).countP fun e => opensConnection e.label := connections.trans (Nat.zero_add _)
  have streams : (budgetMonitor.run Spending.start (w.logOf i)).streams =
      (w.logOf i).countP fun e => opensStream e.label := streams.trans (Nat.zero_add _)
  constructor
  · intro plain
    have fine : Spending.start.Fine := fun _ => ⟨rfl, Nat.zero_le 2, Nat.zero_le 1⟩
    have unoffered : (budgetMonitor.run Spending.start (w.logOf i)).offered = false := by
      rw [← Bool.not_eq_true]
      exact fun h => plain (offered.mp h)
    have kept := budgetMonitor_fine (reached.sat verified found admits).1 fine unoffered
    refine ⟨?_, ?_, ?_⟩
    · intro follows
      have exceeded := again.mpr follows
      rw [kept.again] at exceeded
      cases exceeded
    · rw [← connections]
      exact kept.connections
    · rw [← streams]
      exact kept.streams
  · intro resting kept tempted
    have settled := Reachable.settled verified (fun _ _ _ => id) reached found admits resting
    exact kept.once (again.mp (settled.tempted (offered.mpr tempted)))

namespace Example

/-- The alternative's host has no address. -/
def unresolvedRoute : List (Label sig) :=
  consults start (some (entryOn none)) ++ routes (entryOn none) ++ looksUp 0 origin.host ++
  [.done (.lookupSocketAddrs origin.host 443) (.error [])]

def unresolvedEnd : Label sig :=
  .call (.trace (.http3Outcome origin 0 (.failed (.handshake [])))) ()

def paysForRoute : List (Label sig) :=
  [.call (.negativeInsert origin start client.http3NegativeCacheDuration) (.ok ()),
    .call (.altSvcRemove origin) ()]

/-- A send that fails over its alternative and asks for HTTPS records, of which
there are `records`. -/
def failsThenAsks (records : List HttpsRecord) (further : List (Label sig)) : List (Label sig) :=
  unresolvedRoute ++ unresolvedEnd :: (paysForRoute ++ resolves start 0 records ++ further)

/-- It comes after a send that learns the alternative. -/
def failsOverAltSvc (records : List HttpsRecord) (further : List (Label sig)) :
    List (Event (sends client)) :=
  spawned client :: performs 0 (learns ownPort (entryOn none)) ++
  spawned client :: performs 1 (failsThenAsks records further)

def goesToTcp : List (Label sig) :=
  [.call (.trace .tryHttp3Left) (), .issue (.hyperRequest hyperRequest)]

/-- The route of an HTTPS record. -/
def goesToHttpsRr : List (Label sig) :=
  [.call (.httpsRrInsert origin h3Entry) (),
    .call (.trace (.http3Request origin (call (httpsRrTarget origin h3Entry)))) ()] ++
  looksUp 0 origin.host

end Example

/-- Without an HTTPS record the request goes to TCP after the Alt-Svc route. -/
theorem retryBudget_kept_unadvertised :
    ∃ w : World (sends Example.client), KeepsBudget (w.logOf 1) ∧
      ∃ e ∈ w.logOf 1, givesUpHere e.label = true := by
  obtain ⟨w, task, reached, found, -, -, log, -⟩ := Example.reaches .strict
    (Example.failsOverAltSvc [] Example.goesToTcp) 1 0 false
    (Example.logged 0 0 (Example.learns Example.ownPort (Example.entryOn none)) ++
      Example.logged 1 0 (Example.failsThenAsks [] Example.goesToTcp))
    ⟨Example.builder Example.client, rfl⟩ 0 true true rfl
  have own : w.logOf 1 = Example.logged 1 0 (Example.failsThenAsks [] Example.goesToTcp) := by
    rw [World.logOf, log]
    rfl
  have plain : ¬ OfferedAgain (w.logOf 1) := by
    rintro ⟨e, e', listed, -, offers⟩
    have none : ∀ e ∈ w.logOf 1, offersH3 e.label = false := by
      rw [own]
      decide
    have mem : e' ∈ w.logOf 1 := listed.subset (by simp)
    rw [none e' mem] at offers
    cases offers
  refine ⟨w, (retryBudget_kept_iff_not_offered reached found).1 plain, ?_⟩
  rw [own]
  exact ⟨⟨1, 0, Example.unresolvedEnd⟩, by simp [Example.logged, Example.failsThenAsks], rfl⟩

/-- With one, the attempt that was given up is followed by another. -/
theorem retryBudget_exceeded :
    ∃ (w : World (sends Example.client)) (task : Task (sends Example.client)),
      Reachable .strict (.start 0 SharedState.new) w ∧ w.tasks[1]? = some task ∧
      Follows givesUpHere startsAttempt (w.logOf 1) := by
  obtain ⟨w, task, reached, found, -, -, log, -⟩ := Example.reaches .strict
    (Example.failsOverAltSvc [Example.h3Record] Example.goesToHttpsRr) 1 0 false
    (Example.logged 0 0 (Example.learns Example.ownPort (Example.entryOn none)) ++
      Example.logged 1 0 (Example.failsThenAsks [Example.h3Record] Example.goesToHttpsRr))
    ⟨Example.builder Example.client, rfl⟩ 0 true true rfl
  have own : w.logOf 1 = Example.logged 1 0 Example.unresolvedRoute ++
      ⟨1, 0, Example.unresolvedEnd⟩ :: Example.logged 1 0 (Example.paysForRoute ++
        Example.resolves Example.start 0 [Example.h3Record] ++ Example.goesToHttpsRr) := by
    rw [World.logOf, log]
    rfl
  refine ⟨w, task, reached, found, ?_⟩
  rw [own]
  have again : (⟨1, 0, .call (.trace (.http3Request Example.origin
      (Example.call (httpsRrTarget Example.origin Example.h3Entry)))) ()⟩ : Entry sig) ∈
      Example.logged 1 0 (Example.paysForRoute ++
        Example.resolves Example.start 0 [Example.h3Record] ++ Example.goesToHttpsRr) := by
    simp [Example.logged, Example.goesToHttpsRr]
  exact Follows.of_split rfl again rfl

end MechanicsHttpClient.Guarantees
