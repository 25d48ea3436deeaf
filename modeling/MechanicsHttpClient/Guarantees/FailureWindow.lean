import MechanicsHttpClient.Guarantees.CacheHistory
import MechanicsHttpClient.Guarantees.Phases

/-!
# The windows that failures open

src/request.rs:276-382 and 400-504. An attempt that ends without a response leaves
a debt, a negative entry, which its send pays at the same instant. A send is late
once its retry loop has given up at another instant than that of its start: only
then is the entry it writes dated back.
-/

namespace MechanicsHttpClient.Guarantees

open MechanicsHttpClient.Runtime
open MechanicsHttpClient.Source

/-- The origin of an attempt that ends here without a response: it is given up,
or dropped in flight. -/
def attemptEnd : Label sig → Option Origin
  | .call (.trace (.http3Dropped origin)) _ => some origin
  | label => gaveUp label

theorem attemptEnd_cases {label : Label sig} {origin : Origin} (h : attemptEnd label = some origin) :
    label = .call (.trace (.http3Dropped origin)) () ∨ gaveUp label = some origin := by
  unfold attemptEnd at h
  split at h
  · cases h
    exact .inl rfl
  · exact .inr h

/-- The start of a send, the instant of an attempt end whose negative entry is
still owed, and whether the loop has given up after its start. -/
structure Window where
  start : Nat
  owed : Option Nat
  late : Bool

/-- The end of an attempt leaves a debt, unless it is retried. -/
def Window.ended (window : Window) (t attempt : Nat) (outcome : Http3Outcome) : Window :=
  if givesUp attempt outcome then
    { window with owed := some t, late := window.late || decide (t ≠ window.start) }
  else window

def windowMonitor (client : Client) : Monitor sig Window where
  next window t label :=
    match label with
    | .call (.trace (.http3Outcome _ attempt outcome)) _ => window.ended t attempt outcome
    | .call (.trace (.http3Dropped _)) _ => { window with owed := some t }
    | .call (.negativeInsert _ _ _) _ => { window with owed := none }
    | _ => window
  assume _ t label :=
    match label with
    | .call .instantNow now => now.nanos = t
    | _ => True
  check window t label :=
    match label with
    | .call (.trace (.http3Outcome _ _ _)) _ => window.owed = none
    | .call (.trace (.http3Dropped _)) _ => window.owed = none
    | .call (.negativeInsert _ now duration) _ =>
      duration = client.http3NegativeCacheDuration ∧ now.nanos ≤ t ∧
        (window.late = false → now.nanos = t) ∧ ∀ f, window.owed = some f → t = f
    | .call (.negativeCacheHit _ now) _ => now.nanos = t ∧ t = window.start
    | _ => True
  rest window _ := window.owed = none

/-- What the monitor takes no notice of. -/
def windowQuiet : Alphabet sig where
  op
    | .trace (.http3Outcome _ _ _) | .trace (.http3Dropped _) => False
    | .negativeInsert _ _ _ | .negativeCacheHit _ _ => False
    | _ => True
  timer _ := True
  unwinds := True

theorem windowMonitor_ignores (client : Client) : (windowMonitor client).IgnoresAll windowQuiet := by
  intro window t label has
  cases label with
  | call op ans =>
    cases op with
    | trace point =>
      cases point with
      | http3Outcome origin attempt outcome => exact has.elim
      | http3Dropped origin => exact has.elim
      | _ => exact ⟨rfl, True.intro⟩
    | negativeInsert origin now duration => exact has.elim
    | negativeCacheHit origin now => exact has.elim
    | _ => exact ⟨rfl, True.intro⟩
  | _ => exact ⟨rfl, True.intro⟩

theorem attemptFootprint_quiet (call : Http3Call) : (attemptFootprint call).Within windowQuiet where
  op := by
    intro op used
    cases op with
    | trace point => exact used.elim
    | negativeInsert origin now duration => exact used.elim
    | negativeCacheHit origin now => exact used.elim
    | _ => exact True.intro
  timer _ _ := True.intro
  unwinds _ := True.intro

theorem tcpFootprint_quiet (builder : RequestBuilder) :
    (tcpFootprint builder).Within windowQuiet where
  op := by
    intro op used
    cases op with
    | trace point => exact used.2.elim
    | negativeInsert origin now duration => exact used.2.elim
    | negativeCacheHit origin now => exact used.2.elim
    | _ => exact True.intro
  timer _ _ := True.intro
  unwinds _ := True.intro

/-- Nothing is owed, and the send goes on. -/
structure Window.Calm (start t : Nat) (window : Window) : Prop where
  started : window.start = start
  owed : window.owed = none
  later : start ≤ t

section Send

variable {client : Client} {window : Window} {start t : Nat}

/-- A negative entry written from a reading of the present moment, or from an
earlier one where the send has been late. -/
theorem insertNegative_pays {origin : Origin} {now : Instant} {P : Post Window Unit}
    (past : now.nanos ≤ t) (current : window.late = false → now.nanos = t)
    (owed : ∀ f, window.owed = some f → f = t)
    (paid : P.returned () t { window with owed := none } ∧
      P.panicked t { window with owed := none }) :
    (insertNegative client origin now).Sat (windowMonitor client) .prompt P t window := by
  refine insertNegative_sat ?_
  intro t₁ ans elapsed₁ _
  have now₁ : t₁ = t := elapsed₁.2 rfl
  subst now₁
  refine ⟨⟨rfl, past, current, fun f pending => (owed f pending).symm⟩, ?_⟩
  intro window₁ same₁
  subst same₁
  constructor
  · intro _ _
    exact paid.2
  · intro _ t₂ elapsed₂
    have now₂ : t₂ = t₁ := elapsed₂.2 rfl
    rw [now₂]
    exact ⟨True.intro, paid.1⟩

/-- The guard writes its entry at the instant of the drop. -/
theorem cancellationGuardDrop_pays {origin : Origin} {P : Post Window Unit}
    (calm : window.Calm start t)
    (paid : P.returned () t { window with owed := none } ∧
      P.panicked t { window with owed := none }) :
    (cancellationGuardDrop client origin).Sat (windowMonitor client) .prompt P t window := by
  intro t₁ _ elapsed₁ _
  have now₁ : t₁ = t := elapsed₁.2 rfl
  subst now₁
  refine ⟨calm.owed, ?_⟩
  intro t₂ now elapsed₂ reads
  have now₂ : t₂ = t₁ := elapsed₂.2 rfl
  subst now₂
  have present : now.nanos = t₂ := reads
  refine ⟨True.intro, insertNegative_pays (Nat.le_of_eq present) (fun _ => present) ?_ paid⟩
  intro f pending
  exact (Option.some.inj pending).symm

/-- Only a failed attempt may leave something owed. -/
def windowStages (start : Nat) : Stages Window where
  idle t window := window.Calm start t
  failed attempt err t window :=
    ∃ before : Window, before.Calm start t ∧ window = before.ended t attempt (.failed err)
  answered _ t window := window.Calm start t
  broken t window := window.Calm start t
  gone t window := window.Calm start t

/-- The loop pays for an attempt from the reading at the start of the send. -/
theorem failed_pays {origin : Origin} {now : Instant} {attempt : Nat} {err : Http3AttemptError}
    (read : now.nanos = start) (gives : givesUp attempt (.failed err) = true)
    (failed : (windowStages start).failed attempt err t window) :
    (insertNegative client origin now).Sat (windowMonitor client) .prompt
      (windowStages start).between t window := by
  obtain ⟨before, calm, ended⟩ := failed
  have debt : window =
      { before with owed := some t, late := before.late || decide (t ≠ before.start) } :=
    ended.trans (if_pos gives)
  subst debt
  have begun := calm.started
  have later := calm.later
  have paid : Window.Calm start t
      ⟨before.start, none, before.late || decide (t ≠ before.start)⟩ := ⟨begun, rfl, later⟩
  refine insertNegative_pays ?_ ?_ ?_ ⟨paid, paid⟩
  · omega
  · intro inTime
    simp only [Bool.or_eq_false_iff, decide_eq_false_iff_not, not_not] at inTime
    omega
  · intro f pending
    simp only [Option.some.injEq] at pending
    exact pending.symm

/-- What an attempt owes is paid before the next one starts. -/
theorem windowStages_kept (client : Client) {now : Instant} (read : now.nanos = start) :
    (windowStages start).Kept (windowMonitor client) .prompt client now where
  attempt := by
    intro target request body attempt t window calm
    have ignores := (windowMonitor_ignores client).within
      (attemptFootprint_quiet (callOf target request body))
    refine guardedAttempt_sat ignores fun t₁ elapsed₁ => ⟨True.intro, ?_⟩
    intro window₁ same₁ t₂ later₂
    have same : window₁ = window := same₁
    subst same
    have calm₂ : window₁.Calm start t₂ :=
      ⟨calm.started, calm.owed, Nat.le_trans calm.later (Nat.le_trans elapsed₁.1 later₂)⟩
    have paid : Window.Calm start t₂ { window₁ with owed := none } :=
      ⟨calm₂.started, rfl, calm₂.later⟩
    refine ⟨calm₂.owed, cancellationGuardDrop_pays calm₂ ⟨paid, paid⟩, ?_⟩
    intro result t₃ elapsed₃
    have calm₃ : window₁.Calm start t₃ :=
      ⟨calm₂.started, calm₂.owed, Nat.le_trans calm₂.later elapsed₃.1⟩
    refine ⟨calm₃.owed, ?_⟩
    cases result with
    | error err => exact ⟨window₁, calm₃, rfl⟩
    | ok response => exact calm₃
  written _ _ _ _ _ gives failed := failed_pays read gives failed
  again := by
    intro attempt err t window stays failed
    obtain ⟨before, calm, ended⟩ := failed
    have same : window = before := by
      rw [ended, Window.ended, stays, if_neg Bool.false_ne_true]
    rw [same]
    exact calm
  looked := by
    intro origin t window calm
    have uses : (httpsRrEntry origin now).Uses windowQuiet :=
      httpsRrEntry_uses True.intro True.intro True.intro fun _ => True.intro
    have still : ∀ t', t ≤ t' → window.Calm start t' := fun t' further =>
      ⟨calm.started, calm.owed, Nat.le_trans calm.later further⟩
    exact Prog.Sat.of_uses (windowMonitor_ignores client) _ uses (fun _ _ => calm.owed)
      (fun _ => still) (fun _ => still) still
  routed := by
    intro origin host port t window calm t' elapsed
    exact ⟨True.intro, calm.started, calm.owed, Nat.le_trans calm.later elapsed.1⟩

theorem tryHttp3_window {origin : Origin} {request : Request Unit} {body : Option Bytes}
    (calm : window.Calm t t) :
    (tryHttp3 client origin request body).Sat (windowMonitor client) .prompt (windowStages t).after
      t window := by
  apply Stages.tryHttp3
  intro t₁ elapsed₁
  refine ⟨True.intro, ?_⟩
  intro window₁ same₁ t₂ now elapsed₂ reads
  have now₁ : t = t₁ := (elapsed₁.2 rfl).symm
  have now₂ : t₁ = t₂ := (elapsed₂.2 rfl).symm
  subst now₁ now₂ same₁
  have read : now.nanos = t := reads
  refine ⟨True.intro, windowStages_kept client read, ?_⟩
  intro window₂ same₂ t₃ hit elapsed₃
  have now₃ : t = t₃ := (elapsed₃.2 rfl).symm
  subst now₃ same₂
  refine ⟨⟨read, calm.started.symm⟩, ?_⟩
  intro window₃ same₃
  subst same₃
  refine ⟨calm, ?_⟩
  intro t₄ found elapsed₄
  have now₄ : t = t₄ := (elapsed₄.2 rfl).symm
  subst now₄
  exact ⟨True.intro, calm⟩

/-- A send that is over, and one that rests, owes nothing. -/
theorem send_window (builder : RequestBuilder) (t : Nat) :
    (send builder).Sat (windowMonitor builder.client) .prompt
      (Post.settled fun window => window.owed = none) t ⟨t, none, false⟩ := by
  have ignores := windowMonitor_ignores builder.client
  have calm : Window.Calm t t ⟨t, none, false⟩ := ⟨rfl, rfl, Nat.le_refl t⟩
  have timer : ∀ (window : Window) (t deadline : Nat),
      (windowMonitor builder.client).next window t (.arm .request deadline) = window ∧
      (windowMonitor builder.client).check window t (.arm .request deadline) ∧
      (windowMonitor builder.client).Ignores .request deadline :=
    fun _ _ _ => ⟨rfl, True.intro, fun _ _ _ => ⟨rfl, True.intro⟩⟩
  refine send_sat (fun _ _ => rfl) ?_
  intro uri fine parsed
  have ended : ∀ result t' window, window.Calm t t' → AfterHttp3 (windowMonitor builder.client)
      .prompt (Post.settled fun window => window.owed = none) builder uri result t' window := by
    intro result t' window calm
    rcases result with err | _ | response
    · exact calm.owed
    · exact Prog.Sat.of_uses (ignores.within (tcpFootprint_quiet builder)) _
        (tcpPhase_uses fine parsed) (fun _ _ => calm.owed) (fun _ _ _ => calm.owed)
        (fun _ _ _ => calm.owed) fun _ _ => calm.owed
    · exact calm.owed
  refine http3Phase_sat parsed (fun _ => ended (.ok none) _ _ calm) ?_
  intro origin body _
  refine (windowStages t).h3Result (I := fun _ => True) timer (fun _ _ _ _ _ => True.intro)
    (fun _ _ _ _ => True.intro) (fun _ _ => ⟨rfl, True.intro⟩) ?_ ?_ ?_ ?_ ?_
  · intro t₁ elapsed₁
    have now₁ : t = t₁ := (elapsed₁.2 rfl).symm
    subst now₁
    exact tryHttp3_window calm
  · intro t₂ window t₃ calm elapsed₃
    exact ended (.ok none) _ _ ⟨calm.started, calm.owed, Nat.le_trans calm.later elapsed₃.1⟩
  · exact fun _ _ _ _ calm _ => calm.owed
  · exact fun _ _ calm => calm.owed
  · intro t₂ window calm
    refine ⟨fun _ => ?_, calm.owed⟩
    apply Prog.Sat.perform_bind
    intro t₃ now elapsed₃ reads
    have present : now.nanos = t₃ := reads
    have paid : Window.Calm t t₃ { window with owed := none } :=
      ⟨calm.started, rfl, Nat.le_trans calm.later elapsed₃.1⟩
    refine ⟨True.intro, Prog.Sat.bind _ (Prog.Sat.ofSync _ (insertNegative_pays
      (Nat.le_of_eq present) (fun _ => present) ?_ ⟨ended (.error .timeout) _ _ paid, rfl⟩))⟩
    intro f pending
    have none : window.owed = some f := pending
    rw [calm.owed] at none
    cases none

end Send

theorem windowMonitor_next (client : Client) (window : Window) (t : Nat) (label : Label sig) :
    ((windowMonitor client).next window t label).start = window.start ∧
    (((windowMonitor client).next window t label).late = true → window.late = true ∨
      ∃ origin, gaveUp label = some origin ∧ t ≠ window.start) := by
  cases label with
  | call op ans =>
    cases op with
    | trace point =>
      cases point with
      | http3Outcome origin attempt outcome =>
        cases gives : givesUp attempt outcome with
        | false =>
          simp only [windowMonitor, Window.ended, gives, Bool.false_eq_true, if_false]
          exact ⟨True.intro, .inl⟩
        | true =>
          refine ⟨by simp [windowMonitor, Window.ended, gives], ?_⟩
          simp only [windowMonitor, Window.ended, gives, if_true, Bool.or_eq_true,
            decide_eq_true_eq]
          exact fun late => late.imp id fun elsewhere => ⟨origin, if_pos gives, elsewhere⟩
      | _ => exact ⟨rfl, .inl⟩
    | _ => exact ⟨rfl, .inl⟩
  | _ => exact ⟨rfl, .inl⟩

/-- A send is late once it has given up after its start. -/
theorem windowMonitor_run (client : Client) (log : List (Entry sig)) (window : Window) :
    ((windowMonitor client).run window log).start = window.start ∧
    (((windowMonitor client).run window log).late = true → window.late = true ∨
      ∃ e ∈ log, ∃ origin, gaveUp e.label = some origin ∧ e.time ≠ window.start) := by
  induction log generalizing window with
  | nil => exact ⟨rfl, .inl⟩
  | cons e rest ih =>
    obtain ⟨same, late⟩ := windowMonitor_next client window e.time e.label
    obtain ⟨started, later⟩ := ih ((windowMonitor client).next window e.time e.label)
    refine ⟨started.trans same, ?_⟩
    intro ends
    rcases later ends with now | ⟨e', mem, origin, gave, elsewhere⟩
    · rcases late now with before | ⟨origin, gave, elsewhere⟩
      · exact .inl before
      · exact .inr ⟨e, List.mem_cons_self, origin, gave, elsewhere⟩
    · exact .inr ⟨e', List.mem_cons_of_mem _ mem, origin, gave, same ▸ elsewhere⟩

/-- The instruction writes a negative entry. -/
def insertsNegative (label : Label sig) : Prop :=
  ∃ origin now duration ans, label = .call (.negativeInsert origin now duration) ans

/-- What is owed is paid at the instant it fell due, or still owed. -/
theorem debt_paid (client : Client) {f : Nat} (log : List (Entry sig)) :
    ∀ {window : Window}, window.owed = some f → (windowMonitor client).Passes window log →
      (∃ e ∈ log, insertsNegative e.label ∧ e.time = f) ∨
      ((windowMonitor client).run window log).owed = some f := by
  induction log with
  | nil => exact fun owed _ => .inr owed
  | cons e rest ih =>
    intro window owed passes
    obtain ⟨checked, further⟩ := passes
    have kept : (windowMonitor client).next window e.time e.label = window →
        (∃ e' ∈ e :: rest, insertsNegative e'.label ∧ e'.time = f) ∨
        ((windowMonitor client).run window (e :: rest)).owed = some f := by
      intro same
      rw [same] at further
      simp only [Monitor.run, same]
      rcases ih owed further with ⟨e', mem, paid⟩ | still
      · exact .inl ⟨e', List.mem_cons_of_mem _ mem, paid⟩
      · exact .inr still
    cases e with
    | mk i time label =>
      cases label with
      | call op ans =>
        cases op with
        | negativeInsert origin now duration =>
          have due : time = f := checked.2.2.2 f owed
          exact .inl ⟨_, List.mem_cons_self, ⟨origin, now, duration, ans, rfl⟩, due⟩
        | trace point =>
          cases point with
          | http3Outcome origin attempt outcome =>
            have none : window.owed = none := checked
            simp [none] at owed
          | http3Dropped origin =>
            have none : window.owed = none := checked
            simp [none] at owed
          | _ => exact kept rfl
        | _ => exact kept rfl
      | _ => exact kept rfl

/-- A debt falls due at once, and only then. -/
theorem windowMonitor_due (client : Client) (window : Window) (t : Nat) (label : Label sig)
    (due : ∀ f, window.owed = some f → t = f) :
    ∀ f, ((windowMonitor client).next window t label).owed = some f → t = f := by
  intro f owed
  cases label with
  | call op ans =>
    cases op with
    | negativeInsert origin now duration => cases owed
    | trace point =>
      cases point with
      | http3Outcome origin attempt outcome =>
        simp only [windowMonitor, Window.ended] at owed
        split at owed
        · exact Option.some.inj owed
        · exact due f owed
      | http3Dropped origin => exact Option.some.inj owed
      | _ => exact due f owed
    | _ => exact due f owed
  | _ => exact due f owed

/-- The end of an attempt leaves a debt. -/
theorem windowMonitor_owes (client : Client) (window : Window) (t : Nat) {label : Label sig}
    {origin : Origin} (ends : attemptEnd label = some origin) :
    ((windowMonitor client).next window t label).owed = some t := by
  rcases attemptEnd_cases ends with dropped | gave
  · rw [dropped]
    rfl
  · obtain ⟨attempt, outcome, ended, gives⟩ := gaveUp_cases gave
    rw [ended]
    simp [windowMonitor, Window.ended, gives]

end MechanicsHttpClient.Guarantees
