import MechanicsHttpClient.Guarantees.CacheHistory
import MechanicsHttpClient.Guarantees.Phases

/-!
# Why a negative entry is written

src/request.rs:201-228, 276-327, 337-382 and 493-504. The retry loop and its
drop guard write the negative entry of an origin after `Http3State::request`
has been called for it. The arm of `send` for an elapsed timeout writes one as
well, and cannot see whether the send had got that far. Where the request's
timer does not expire earlier than that, an entry is always due to an attempt
that brought no response.
-/

namespace MechanicsHttpClient.Guarantees

open MechanicsHttpClient.Runtime
open MechanicsHttpClient.Source

/-- The send calls `Http3State::request`. -/
def opensAttempt : Label sig → Bool
  | .call (.trace (.http3Request _ _)) _ => true
  | _ => false

/-- `Http3State::request` has returned a response. -/
def attemptResponds : Label sig → Bool
  | .call (.trace (.http3Outcome _ _ .responded)) _ => true
  | _ => false

/-- The request goes to hyper. -/
def handsOver : Label sig → Bool
  | .issue (.hyperRequest _) => true
  | _ => false

/-- An `Alt-Svc` header is learned from. -/
def learnsAltSvc : Label sig → Bool
  | .call (.altSvcUpdate _ _) _ => true
  | _ => false

/-- How far a send has come. -/
structure Progress where
  opened : Bool
  responded : Bool
  handedOver : Bool
  learned : Bool

def causeMonitor : Monitor sig Progress where
  next progress _ label :=
    match label with
    | .call (.trace (.http3Request _ _)) _ => { progress with opened := true }
    | .call (.trace (.http3Outcome _ _ .responded)) _ => { progress with responded := true }
    | .issue (.hyperRequest _) => { progress with handedOver := true }
    | .call (.altSvcUpdate _ _) _ => { progress with learned := true }
    | _ => progress
  assume progress t label :=
    match label with
    | .call .instantNow now => now.nanos = t
    | .fire _ .request _ => progress.opened = true ∨ progress.handedOver = true
    | _ => True
  check progress t label :=
    match label with
    | .call (.negativeInsert _ _ _) _ => progress.opened = true ∧ progress.responded = false
    | .call (.altSvcRemove _) _ => progress.opened = true
    | .call (.negativeCacheHit _ now) _ => now.nanos ≤ t
    | .call (.altSvcEntry _ now) _ => now.nanos ≤ t
    | _ => True
  rest progress _ := progress.learned = false

theorem Progress.or_false (progress : Progress) :
    progress = ⟨progress.opened || false, progress.responded || false,
      progress.handedOver || false, progress.learned || false⟩ := by
  simp only [Bool.or_false]

/-- Each flag says what the log says. -/
theorem causeMonitor_next (progress : Progress) (t : Nat) (label : Label sig) :
    causeMonitor.next progress t label =
      ⟨progress.opened || opensAttempt label, progress.responded || attemptResponds label,
        progress.handedOver || handsOver label, progress.learned || learnsAltSvc label⟩ := by
  cases label with
  | call op ans =>
    cases op with
    | trace point =>
      cases point with
      | http3Request origin call =>
        simp [causeMonitor, opensAttempt, attemptResponds, handsOver, learnsAltSvc]
      | http3Outcome origin attempt outcome =>
        cases outcome with
        | responded => simp [causeMonitor, opensAttempt, attemptResponds, handsOver, learnsAltSvc]
        | failed err => exact progress.or_false
      | _ => exact progress.or_false
    | altSvcUpdate origin update =>
      simp [causeMonitor, opensAttempt, attemptResponds, handsOver, learnsAltSvc]
    | _ => exact progress.or_false
  | issue op =>
    cases op with
    | hyperRequest request =>
      simp [causeMonitor, opensAttempt, attemptResponds, handsOver, learnsAltSvc]
    | _ => exact progress.or_false
  | _ => exact progress.or_false

theorem causeMonitor_run (progress : Progress) (log : List (Entry sig)) :
    causeMonitor.run progress log =
      ⟨progress.opened || log.any fun e => opensAttempt e.label,
        progress.responded || log.any fun e => attemptResponds e.label,
        progress.handedOver || log.any fun e => handsOver e.label,
        progress.learned || log.any fun e => learnsAltSvc e.label⟩ := by
  have opened : (causeMonitor.run progress log).opened =
      (progress.opened || log.any fun e => opensAttempt e.label) :=
    causeMonitor.run_flag (fun s t l => congrArg Progress.opened (causeMonitor_next s t l)) _ _
  have responded : (causeMonitor.run progress log).responded =
      (progress.responded || log.any fun e => attemptResponds e.label) :=
    causeMonitor.run_flag (fun s t l => congrArg Progress.responded (causeMonitor_next s t l)) _ _
  have handedOver : (causeMonitor.run progress log).handedOver =
      (progress.handedOver || log.any fun e => handsOver e.label) :=
    causeMonitor.run_flag (fun s t l => congrArg Progress.handedOver (causeMonitor_next s t l)) _ _
  have learned : (causeMonitor.run progress log).learned =
      (progress.learned || log.any fun e => learnsAltSvc e.label) :=
    causeMonitor.run_flag (fun s t l => congrArg Progress.learned (causeMonitor_next s t l)) _ _
  rw [← opened, ← responded, ← handedOver, ← learned]

/-- In the first phase, with no response so far. -/
structure Progress.Trying (progress : Progress) : Prop where
  responded : progress.responded = false
  handedOver : progress.handedOver = false
  learned : progress.learned = false

/-- What the monitor takes no notice of. -/
def causeQuiet : Alphabet sig where
  op
    | .trace (.http3Request _ _) | .trace (.http3Outcome _ _ .responded) => False
    | .hyperRequest _ | .altSvcUpdate _ _ => False
    | .negativeInsert _ _ _ | .altSvcRemove _ => False
    | .negativeCacheHit _ _ | .altSvcEntry _ _ => False
    | _ => True
  timer _ := True
  unwinds := True

theorem causeMonitor_ignores : causeMonitor.IgnoresAll causeQuiet := by
  intro progress t label has
  cases label with
  | call op ans =>
    cases op with
    | trace point =>
      cases point with
      | http3Request origin call => exact has.elim
      | http3Outcome origin attempt outcome =>
        cases outcome with
        | responded => exact has.elim
        | failed err => exact ⟨rfl, True.intro⟩
      | _ => exact ⟨rfl, True.intro⟩
    | altSvcUpdate origin update => exact has.elim
    | negativeInsert origin now duration => exact has.elim
    | altSvcRemove origin => exact has.elim
    | negativeCacheHit origin now => exact has.elim
    | altSvcEntry origin now => exact has.elim
    | _ => exact ⟨rfl, True.intro⟩
  | issue op =>
    cases op with
    | hyperRequest request => exact has.elim
    | _ => exact ⟨rfl, True.intro⟩
  | _ => exact ⟨rfl, True.intro⟩

theorem attemptFootprint_causeQuiet (call : Http3Call) :
    (attemptFootprint call).Within causeQuiet where
  op := by
    intro op used
    cases op with
    | trace point => exact used.elim
    | hyperRequest request => exact used.elim
    | altSvcUpdate origin update => exact used.elim
    | negativeInsert origin now duration => exact used.elim
    | altSvcRemove origin => exact used.elim
    | negativeCacheHit origin now => exact used.elim
    | altSvcEntry origin now => exact used.elim
    | _ => exact True.intro
  timer _ _ := True.intro
  unwinds _ := True.intro

/-- Between attempts no response has come; after a failed one the send has opened
one. -/
def causeStages : Stages Progress where
  idle _ progress := progress.Trying
  failed _ _ _ progress := progress.Trying ∧ progress.opened = true
  answered _ _ progress := progress.learned = false
  broken _ progress := progress.Trying
  gone _ progress := progress.Trying

section Send

variable {client : Client} {progress : Progress} {pace : Pace} {t : Nat}

/-- An entry that an attempt has caused. -/
theorem insertNegative_caused {origin : Origin} {now : Instant} {P : Post Progress Unit}
    (trying : progress.Trying) (opened : progress.opened = true)
    (returned : ∀ t', P.returned () t' progress) (panicked : ∀ t', P.panicked t' progress) :
    (insertNegative client origin now).Sat causeMonitor pace P t progress := by
  apply insertNegative_sat
  intro t₁ ans elapsed₁ _
  refine ⟨⟨opened, trying.responded⟩, ?_⟩
  intro progress₁ same
  subst same
  exact ⟨fun _ _ => panicked t₁, fun _ t₂ _ => ⟨opened, returned t₂⟩⟩

theorem cancellationGuardDrop_caused {origin : Origin} {P : Post Progress Unit}
    (trying : progress.Trying) (opened : progress.opened = true)
    (returned : ∀ t', P.returned () t' progress) (panicked : ∀ t', P.panicked t' progress) :
    (cancellationGuardDrop client origin).Sat causeMonitor pace P t progress := by
  intro t₁ _ _ _
  refine ⟨True.intro, ?_⟩
  intro t₂ now _ _
  exact ⟨True.intro, insertNegative_caused trying opened returned panicked⟩

/-- An attempt has been opened before anything is written. -/
theorem causeStages_kept (client : Client) (now : Instant) :
    causeStages.Kept causeMonitor pace client now where
  attempt := by
    intro target request body attempt t progress trying
    have ignores := causeMonitor_ignores.within
      (attemptFootprint_causeQuiet (callOf target request body))
    refine guardedAttempt_sat ignores fun t₁ _ => ⟨True.intro, ?_⟩
    intro progress₁ same t₂ _
    subst same
    have trying₁ : Progress.Trying { progress with opened := true } :=
      ⟨trying.responded, trying.handedOver, trying.learned⟩
    refine ⟨trying.learned, cancellationGuardDrop_caused trying₁ rfl (fun _ => trying₁)
      fun _ => trying₁, ?_⟩
    intro result t₃ _
    refine ⟨True.intro, ?_⟩
    cases result with
    | error err => exact ⟨trying₁, rfl⟩
    | ok response => exact trying.learned
  written _ _ _ _ _ _ failed :=
    insertNegative_caused failed.1 failed.2 (fun _ => failed.1) fun _ => failed.1
  again _ _ _ _ _ failed := failed.1
  looked := by
    intro origin t progress trying
    have uses : (httpsRrEntry origin now).Uses causeQuiet :=
      httpsRrEntry_uses True.intro True.intro True.intro fun _ => True.intro
    exact Prog.Sat.of_uses causeMonitor_ignores _ uses (fun _ _ => trying.learned)
      (fun _ _ _ => trying) (fun _ _ _ => trying) fun _ _ => trying
  routed _ _ _ _ _ trying _ _ := ⟨True.intro, trying⟩

theorem tryHttp3_caused {origin : Origin} {request : Request Unit} {body : Option Bytes}
    (trying : progress.Trying) :
    (tryHttp3 client origin request body).Sat causeMonitor pace causeStages.after t progress := by
  apply Stages.tryHttp3
  intro t₁ _
  refine ⟨True.intro, ?_⟩
  intro progress₁ same₁ t₂ now _ reads
  subst same₁
  have read : now.nanos = t₂ := reads
  refine ⟨True.intro, causeStages_kept client now, ?_⟩
  intro progress₂ same₂ t₃ hit elapsed₃
  subst same₂
  have past₃ : now.nanos ≤ t₃ := by
    have := elapsed₃.1
    omega
  refine ⟨past₃, ?_⟩
  intro progress₃ same₃
  subst same₃
  refine ⟨trying, ?_⟩
  intro t₄ found elapsed₄
  exact ⟨Nat.le_trans past₃ elapsed₄.1, trying⟩

/-- What every end of a send but an answer says of it. -/
def unlearned {α : Type} : Post Progress (Except Error α) where
  returned
    | .error _ => fun _ progress => progress.learned = false
    | .ok _ => fun _ _ => True
  panicked _ progress := progress.learned = false
  dropped _ progress := progress.learned = false

theorem tcpPhase_caused {builder : RequestBuilder} {uri : Uri} {headers : HeaderMap}
    (trying : progress.Trying) :
    (tcpPhase builder uri headers).Sat causeMonitor pace unlearned t progress := by
  refine tcpPhase_sat (fun _ _ _ => ⟨rfl, True.intro, fun _ _ _ => ⟨rfl, True.intro⟩⟩) ?_
  intro t' _
  apply Prog.Sat.suspend
  intro t₁ _ _
  refine ⟨True.intro, ?_⟩
  intro t₂ _
  refine ⟨trying.learned, ?_, trying.learned, trying.learned⟩
  intro result _
  refine ⟨True.intro, ?_⟩
  rcases result with err | ⟨parts, incoming⟩
  · exact trying.learned
  · show (maybeUpdateAltSvc uri (Response.new parts incoming)).Sat _ _ _ _ _
    unfold maybeUpdateAltSvc
    split
    · exact True.intro
    · split
      · exact True.intro
      · apply Prog.Sat.perform_bind
        intro t₃ now _ _
        refine ⟨True.intro, ?_⟩
        split
        · exact trying.learned
        · intro t₄ _ _ _
          exact ⟨True.intro, True.intro⟩

/-- The request's timer expires after an attempt has been opened. -/
theorem h3TimedOut_caused {builder : RequestBuilder} {origin : Origin}
    {P : Post Progress (Except Error (Option Response))} (trying : progress.Trying)
    (opened : progress.opened = true) (returned : ∀ t', P.returned (.error .timeout) t' progress)
    (panicked : ∀ t', P.panicked t' progress) :
    (h3TimedOut builder origin).Sat causeMonitor pace P t progress := by
  apply Prog.Sat.perform_bind
  intro t₁ now _ _
  refine ⟨True.intro, Prog.Sat.bind _ (Prog.Sat.ofSync _ ?_)⟩
  exact insertNegative_caused trying opened returned panicked

/-- Wherever it is cut, a send writes a negative entry only for an attempt, and
learns only when it returns. -/
theorem send_caused (builder : RequestBuilder) (t : Nat) :
    (send builder).Sat causeMonitor pace unlearned t ⟨false, false, false, false⟩ := by
  have fresh : Progress.Trying ⟨false, false, false, false⟩ := ⟨rfl, rfl, rfl⟩
  have keeps : ∀ (progress : Progress) (t : Nat) (label : Label sig),
      progress.opened = true ∨ progress.handedOver = true →
      (causeMonitor.next progress t label).opened = true ∨
        (causeMonitor.next progress t label).handedOver = true := by
    intro progress t label either
    simp only [causeMonitor_next, Bool.or_eq_true]
    exact either.imp .inl .inl
  refine send_sat (fun _ _ => rfl) ?_
  intro uri _ parsed
  refine http3Phase_sat parsed (fun _ => tcpPhase_caused fresh) ?_
  intro origin body _
  refine causeStages.h3Result (fun _ _ _ => ⟨rfl, True.intro, fun _ _ _ => ⟨rfl, True.intro⟩⟩)
    (fun _ _ _ _ admitted => admitted) keeps (fun _ _ => ⟨rfl, True.intro⟩)
    (fun _ _ => tryHttp3_caused fresh) ?_ ?_ ?_ ?_
  · exact fun _ _ _ trying _ => tcpPhase_caused trying
  · exact fun _ _ _ _ _ _ => True.intro
  · exact fun _ _ trying => trying.learned
  · intro t₁ progress₁ trying₁
    refine ⟨?_, trying₁.learned⟩
    intro admitted
    have opened := admitted.resolve_right (by simp [trying₁.handedOver])
    exact h3TimedOut_caused trying₁ opened (fun _ => trying₁.learned) fun _ => trying₁.learned

end Send

/-- Nothing has changed but that expired values may be gone. -/
def OnlyPurged {β : Type} (expired : β → Prop) (before after : Lock (Cache β)) : Prop :=
  after.poisoned = before.poisoned ∧ ∀ origin, after.value origin = before.value origin ∨
    ∃ value, before.value origin = some value ∧ expired value ∧ after.value origin = none

theorem OnlyPurged.refl {β : Type} (expired : β → Prop) (lock : Lock (Cache β)) :
    OnlyPurged expired lock lock := ⟨rfl, fun _ => .inl rfl⟩

theorem lookupFresh_onlyPurged {β : Type} {expired : β → Prop} {fresh : β → Bool}
    (stale : ∀ value, fresh value = false → expired value) (lock : Lock (Cache β))
    (origin : Origin) : OnlyPurged expired lock (lock.lookupFresh origin fresh).2 := by
  cases poisoned : lock.poisoned with
  | true =>
    rw [lookupFresh_poisoned lock origin fresh poisoned]
    exact .refl expired lock
  | false =>
    have purged := Applied.lookupFresh poisoned origin fresh
    refine ⟨purged.sound.trans poisoned.symm, ?_⟩
    intro o
    rw [purged.value o]
    by_cases same : origin = o
    · subst same
      cases content : lock.value origin with
      | none => simp [SlotAct.apply]
      | some value =>
        cases good : fresh value with
        | true => simp [SlotAct.apply, good]
        | false => exact .inr ⟨value, rfl, stale value good, by simp [SlotAct.apply, good]⟩
    · simp [same, SlotAct.apply]

/-- An instruction that writes neither cache, and looks up with a reading that
is not from the future. -/
theorem effect_onlyPurged {client : Client} {t : Nat} {shared shared' : SharedState}
    {label : Label sig} (effect : (sends client).effect t shared label = some shared')
    (noInsert : ∀ origin now duration ans, label ≠ .call (.negativeInsert origin now duration) ans)
    (noRemove : ∀ origin ans, label ≠ .call (.altSvcRemove origin) ans)
    (noUpdate : ∀ origin update ans, label ≠ .call (.altSvcUpdate origin update) ans)
    (past : ∀ origin now, (∃ hit, label = .call (.negativeCacheHit origin now) hit) ∨
      (∃ found, label = .call (.altSvcEntry origin now) found) → now.nanos ≤ t) :
    OnlyPurged (fun expiresAt : Instant => expiresAt.nanos ≤ t) shared.negative shared'.negative ∧
      OnlyPurged (fun entry : AltSvc.AltSvcEntry => entry.expiresAt.nanos ≤ t) shared.altSvc
        shared'.altSvc := by
  cases label with
  | call op ans =>
    have responded : respond op t shared ans = some shared' := effect
    cases op with
    | negativeInsert origin now duration => exact absurd rfl (noInsert origin now duration ans)
    | altSvcRemove origin => exact absurd rfl (noRemove origin ans)
    | altSvcUpdate origin update => exact absurd rfl (noUpdate origin update ans)
    | negativeCacheHit origin now =>
      have current := past origin now (.inl ⟨ans, rfl⟩)
      simp only [respond] at responded
      rw [← (answered_eq_some responded).2]
      refine ⟨lookupFresh_onlyPurged ?_ _ origin, .refl _ _⟩
      intro expiresAt stale
      simp only [decide_eq_false_iff_not] at stale
      omega
    | altSvcEntry origin now =>
      have current := past origin now (.inr ⟨ans, rfl⟩)
      simp only [respond] at responded
      rw [← (answered_eq_some responded).2]
      refine ⟨.refl _ _, lookupFresh_onlyPurged ?_ _ origin⟩
      intro entry stale
      simp only [AltSvc.fresh, decide_eq_false_iff_not] at stale
      omega
    | _ =>
      rw [(respond_others responded).negative (by simp [cacheOf]),
        (respond_others responded).altSvc (by simp [cacheOf])]
      exact ⟨.refl _ _, .refl _ _⟩
  | _ =>
    cases effect
    exact ⟨.refl _ _, .refl _ _⟩

/-- The request's timer expires. -/
def cutsShort : Label sig → Bool
  | .fire _ .request _ => true
  | _ => false

/-- The request's timer expires only in sends that have called
`Http3State::request` or handed their request to hyper. -/
def CutsLate (log : List (Entry sig)) : Prop :=
  ∀ before e later, log = before ++ e :: later → cutsShort e.label = true →
    ∃ e' ∈ before, opensAttempt e'.label = true ∨ handsOver e'.label = true

/-- Once an attempt has been opened the timer may expire at any time. -/
theorem cutsLate_append {before later : List (Entry sig)}
    (uncut : before.any (fun e => cutsShort e.label) = false)
    (opened : before.any (fun e => opensAttempt e.label) = true) : CutsLate (before ++ later) := by
  intro earlier e rest split cut
  obtain ⟨first, mem, opens⟩ := List.any_eq_true.mp opened
  rcases List.append_eq_append_iff.mp split with ⟨more, same, -⟩ | ⟨more, same, tail⟩
  · exact ⟨first, by simp [same, mem], .inl opens⟩
  · cases more with
    | nil => exact ⟨first, by simpa [same] using mem, .inl opens⟩
    | cons e' more =>
      have here : e' = e := by
        have := congrArg List.head? tail
        simpa using this.symm
      have silent := List.any_eq_false.mp uncut e' (by simp [same])
      exact absurd cut (here ▸ silent)

theorem causeMonitor_admits {log : List (Entry sig)}
    (reads : ∀ e ∈ log, ∀ now, e.label = .call .instantNow now → now.nanos = e.time)
    (cuts : CutsLate log) : causeMonitor.Admits ⟨false, false, false, false⟩ log := by
  induction log using List.reverseRecOn with
  | nil => exact True.intro
  | append_singleton log e ih =>
    have earlier : CutsLate log := by
      intro before e' later split
      exact cuts before e' (later ++ [e]) (by simp [split])
    rw [Monitor.admits_append]
    refine ⟨ih (fun e' mem => reads e' (List.mem_append_left _ mem)) earlier, ?_, True.intro⟩
    have reading := reads e (by simp)
    have cut := cuts log e []
    obtain ⟨i, time, label⟩ := e
    cases label with
    | call op ans =>
      cases op with
      | instantNow => exact reading ans rfl
      | _ => exact True.intro
    | fire j timer deadline =>
      cases timer with
      | request =>
        obtain ⟨e', mem, either⟩ := cut rfl rfl
        rw [causeMonitor_run]
        simp only [causeMonitor, Bool.false_or, List.any_eq_true]
        exact either.imp (fun opens => ⟨e', mem, opens⟩) fun hands => ⟨e', mem, hands⟩
      | _ => exact True.intro
    | _ => exact True.intro

section Run

variable {client : Client} {pace : Pace} {clock : Nat} {shared : SharedState}
  {w : World (sends client)} {i : Nat} {task : Task (sends client)}

/-- What the monitor knows of a send whose timer expires late: its log passes,
and it has learned nothing unless it has returned a response. -/
theorem caused (reached : Reachable pace (.start clock shared) w) (found : w.tasks[i]? = some task)
    (cuts : CutsLate (w.logOf i)) :
    causeMonitor.Passes ⟨false, false, false, false⟩ (w.logOf i) ∧
      (task.body.resting = true → (∀ response, task.body ≠ .running (.ret (.ok response))) →
        ∀ e ∈ w.logOf i, learnsAltSvc e.label = false) := by
  have verified : ∀ (job : (sends client).Job) t, ((sends client).program job).Sat causeMonitor
      pace unlearned t ⟨false, false, false, false⟩ := fun job t => send_caused job.val t
  have admits := causeMonitor_admits
    (fun e own now read => instantNow_reads reached (World.mem_log_of_logOf own) read) cuts
  obtain ⟨passes, t, live, sat⟩ := reached.sat verified found admits
  refine ⟨passes, ?_⟩
  intro resting unanswered
  have learned : (causeMonitor.run ⟨false, false, false, false⟩ (w.logOf i)).learned = false := by
    refine sat.at_rest live resting (fun _ => id) ?_ (fun _ => id) fun _ => id
    intro value isOver t ends
    cases value with
    | error err => exact ends
    | ok response => exact absurd isOver (unanswered response)
  rw [causeMonitor_run] at learned
  simpa using learned

/-- A send whose timer does not expire too early writes a negative entry only
after it has called `Http3State::request` for that origin and got no response.
Where it has called nothing and returned nothing, it has only purged. -/
theorem negative_entry_caused (reached : Reachable pace (.start clock shared) w)
    (found : w.tasks[i]? = some task) (cuts : CutsLate (w.logOf i)) :
    (∀ before e later origin now duration ans, w.logOf i = before ++ e :: later →
      e.label = .call (.negativeInsert origin now duration) ans →
      (∃ e' ∈ before, ∃ call, e'.label = .call (.trace (.http3Request origin call)) ()) ∧
      ∀ e' ∈ before, ∀ o attempt,
        e'.label ≠ .call (.trace (.http3Outcome o attempt .responded)) ()) ∧
    ((∀ e ∈ w.logOf i, ∀ o call, e.label ≠ .call (.trace (.http3Request o call)) ()) →
      task.body.resting = true → (∀ response, task.body ≠ .running (.ret (.ok response))) →
      ∀ before e later, w.log = before ++ e :: later → e.task = i → ∀ held left,
        replay (sends client) shared before = some held →
        (sends client).effect e.time held e.label = some left →
        OnlyPurged (fun expiresAt : Instant => expiresAt.nanos ≤ e.time)
          held.negative left.negative ∧
        OnlyPurged (fun entry : AltSvc.AltSvcEntry => entry.expiresAt.nanos ≤ e.time)
          held.altSvc left.altSvc) := by
  obtain ⟨passes, unlearned⟩ := caused reached found cuts
  -- All of a send's attempts and entries are for its own origin.
  have opens : ∀ e ∈ w.logOf i, opensAttempt e.label = true → ∃ origin call,
      e.label = .call (.trace (.http3Request origin call)) () ∧
        originOf task.job.val = some origin := by
    intro e own opens
    have listed := run_footprint reached found e own
    unfold opensAttempt at opens
    split at opens
    · rename_i origin call _ label
      rw [label] at listed ⊢
      exact ⟨origin, call, rfl, (listed.2.resolve_right id).1.origin⟩
    · cases opens
  have checked : ∀ {before e later}, w.logOf i = before ++ e :: later →
      causeMonitor.check ⟨before.any fun e => opensAttempt e.label,
        before.any fun e => attemptResponds e.label, before.any fun e => handsOver e.label,
        before.any fun e => learnsAltSvc e.label⟩ e.time e.label := by
    intro before e later split
    have check := Monitor.Passes.at _ passes split
    rw [causeMonitor_run] at check
    simpa only [Bool.false_or] using check
  constructor
  · intro before e later origin now duration ans split insert
    have own : e ∈ w.logOf i := by simp [split]
    have listed := run_footprint reached found e own
    have check := checked split
    rw [insert] at listed check
    have mine : originOf task.job.val = some origin := by
      obtain ⟨body, tries⟩ := (listed.2.resolve_right id).1
      exact tries.origin
    obtain ⟨opened, unanswered⟩ := check
    constructor
    · obtain ⟨e', mem, first⟩ := List.any_eq_true.mp opened
      obtain ⟨o, call, label, same⟩ := opens e' (by simp [split, mem]) first
      rw [mine, Option.some.injEq] at same
      subst same
      exact ⟨e', mem, call, label⟩
    · intro e' mem o attempt label
      have silent := List.any_eq_false.mp unanswered e' mem
      simp [label, attemptResponds] at silent
  · intro unopened resting unanswered before e later split own held left _ effect
    have split := World.logOf_split split own
    have mem : e ∈ w.logOf i := by simp [split]
    have check := checked split
    have never : (before.filter fun e => e.task == i).any (fun e => opensAttempt e.label) = false := by
      apply List.any_eq_false.mpr
      intro e' earlier first
      obtain ⟨o, call, label, -⟩ := opens e' (by simp [split, List.mem_filter.mp earlier]) first
      exact unopened e' (by simp [split, List.mem_filter.mp earlier]) o call label
    rw [never] at check
    refine effect_onlyPurged effect ?_ ?_ ?_ ?_
    · intro origin now duration ans label
      rw [label] at check
      exact absurd check.1 Bool.false_ne_true
    · intro origin ans label
      rw [label] at check
      exact absurd check Bool.false_ne_true
    · intro origin update ans label
      have silent := unlearned resting unanswered e mem
      simp [label, learnsAltSvc] at silent
    · rintro origin now (⟨hit, label⟩ | ⟨found, label⟩)
      · rw [label] at check
        exact check
      · rw [label] at check
        exact check

end Run

namespace Example

/-- A client whose requests have 100 ms, less than the HTTPS RR lookup. -/
def hurried : Client := { client with defaultTimeout := some (Duration.fromMillis 100) }

def cutAt : Instant := ⟨100000000, by decide⟩

/-- The arm of `send` for an elapsed timeout. -/
def remembers : List (Label sig) :=
  [.call .instantNow cutAt,
    .call (.negativeInsert origin cutAt hurried.http3NegativeCacheDuration) (.ok ()),
    .call (.altSvcRemove origin) ()]

/-- An attempt over the HTTPS RR route up to the lookup of its addresses. -/
def awaitsAddresses : List (Label sig) :=
  [.arm .request 100000000] ++ consults start none ++ resolves start 0 [h3Record] ++
  [.call (.httpsRrInsert origin h3Entry) (),
    .call (.trace (.http3Request origin (call (httpsRrTarget origin h3Entry)))) ()] ++
  looksUp 0 origin.host

/-- The attempt is cut: its guard writes an entry, and `send` another. -/
def cutInAttempt : List (Label sig) :=
  [.fire 1 .request 100000000, .call (.trace (.http3Dropped origin)) ()] ++ remembers ++ remembers

def timesOutLate : List (Event (sends hurried)) :=
  spawned hurried :: performs 0 awaitsAddresses ++ [.tick 100000000] ++ performs 0 cutInAttempt

/-- The HTTPS RR lookup is all there has been when the timer expires. -/
def awaitsRecords : List (Label sig) :=
  [.arm .request 100000000] ++ consults start none ++ (resolves start 0 []).take 3

def timesOutEarly : List (Event (sends hurried)) :=
  spawned hurried :: performs 0 awaitsRecords ++ [.tick 100000000] ++
    performs 0 (.fire 1 .request 100000000 :: remembers)

end Example

/-- The timer expires in the attempt; two entries are written, both for it. -/
theorem negative_entry_caused_in_attempt :
    ∃ w : World (sends Example.hurried),
      (⟨0, 100000000, .call (.negativeInsert Example.origin Example.cutAt
        Example.hurried.http3NegativeCacheDuration) (.ok ())⟩ : Entry sig) ∈ w.logOf 0 ∧
      ∀ before e later origin now duration ans, w.logOf 0 = before ++ e :: later →
        e.label = .call (.negativeInsert origin now duration) ans →
        ∃ e' ∈ before, ∃ call, e'.label = .call (.trace (.http3Request origin call)) () := by
  obtain ⟨w, task, reached, found, -, -, log, -⟩ := Example.reaches .strict Example.timesOutLate 0
    100000000 false (Example.logged 0 0 Example.awaitsAddresses ++
      Example.logged 0 100000000 Example.cutInAttempt)
    ⟨Example.builder Example.hurried, rfl⟩ 0 true false rfl
  have own : w.logOf 0 = Example.logged 0 0 Example.awaitsAddresses ++
      Example.logged 0 100000000 Example.cutInAttempt := by
    rw [World.logOf, log]
    rfl
  have cuts : CutsLate (w.logOf 0) := by
    rw [own]
    exact cutsLate_append rfl rfl
  refine ⟨w, ?_, fun before e later origin now duration ans split insert =>
    ((negative_entry_caused reached found cuts).1 before e later origin now duration ans split
      insert).1⟩
  rw [own]
  simp [Example.logged, Example.cutInAttempt, Example.remembers]

/-- The timer expires in the HTTPS RR lookup of an origin that may not offer
HTTP/3 at all, and a negative entry is written. -/
theorem negative_entry_uncaused :
    ∃ (w : World (sends Example.hurried)) (task : Task (sends Example.hurried)),
      Reachable .strict (.start 0 SharedState.new) w ∧ w.tasks[0]? = some task ∧
      task.body.unfinished = false ∧
      (⟨0, 100000000, .call (.negativeInsert Example.origin Example.cutAt
        Example.hurried.http3NegativeCacheDuration) (.ok ())⟩ : Entry sig) ∈ w.logOf 0 ∧
      ∀ e ∈ w.logOf 0, ∀ o call, e.label ≠ .call (.trace (.http3Request o call)) () := by
  obtain ⟨w, task, reached, found, -, -, log, -, -, -, finished⟩ := Example.reaches .strict
    Example.timesOutEarly 0 100000000 false (Example.logged 0 0 Example.awaitsRecords ++
      Example.logged 0 100000000 (.fire 1 .request 100000000 :: Example.remembers))
    ⟨Example.builder Example.hurried, rfl⟩ 0 true false rfl
  have own : w.logOf 0 = Example.logged 0 0 Example.awaitsRecords ++
      Example.logged 0 100000000 (.fire 1 .request 100000000 :: Example.remembers) := by
    rw [World.logOf, log]
    rfl
  refine ⟨w, task, reached, found, finished, ?_, ?_⟩
  · rw [own]
    simp [Example.logged, Example.remembers]
  · have never : (w.logOf 0).any (fun e => opensAttempt e.label) = false := by
      rw [own]
      rfl
    intro e mem o call label
    have silent := List.any_eq_false.mp never e mem
    simp [label, opensAttempt] at silent

end MechanicsHttpClient.Guarantees
