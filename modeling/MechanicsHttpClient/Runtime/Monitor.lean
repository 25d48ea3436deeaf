import MechanicsHttpClient.Runtime.World

/-!
# Monitors: a program logic for tasks

A monitor is an automaton that reads the labels of one task. `Sat` says of a
program that every execution of it passes the monitor's checks, keeps its
resting condition while suspended and ends in the given postcondition, for all
answers the monitor admits. The rules below compose such facts along `bind`,
timeouts and drop guards; `Reachable.sat` transfers them to every task of
every interleaved run, with any other tasks around.
-/

namespace MechanicsHttpClient.Runtime

/-- `assume` restricts the answers of the environment, `check` is the
obligation on each instruction, `rest` what must hold while suspended. -/
structure Monitor (S : Signature) (σ : Type) where
  next : σ → Nat → Label S → σ
  assume : σ → Nat → Label S → Prop
  check : σ → Nat → Label S → Prop
  rest : σ → Nat → Prop

/-- What is said of a program that returns, unwinds, or has been dropped and
has cleaned up; each at the clock and monitor state where it happens. -/
structure Post (σ α : Type) where
  returned : α → Nat → σ → Prop
  panicked : Nat → σ → Prop
  dropped : Nat → σ → Prop

/-- Nothing is said of the end. -/
def Post.any {σ α : Type} : Post σ α := ⟨fun _ _ _ => True, fun _ _ => True, fun _ _ => True⟩

/-- Time that may pass before a synchronous instruction: none unless the run is
loose. -/
def Elapses (pace : Pace) (t t' : Nat) : Prop := t ≤ t' ∧ (pace.instant = true → t' = t)

/-- Time that may pass at a suspension point: up to the timers in a strict run. -/
def Waits {τ : Type} (pace : Pace) (timers : List (τ × Nat)) (t t' : Nat) : Prop :=
  t ≤ t' ∧ (pace = .strict → t' = t ∨ ∀ timer ∈ timers, t' ≤ timer.2)

theorem Elapses.refl (pace : Pace) (t : Nat) : Elapses pace t t :=
  ⟨Nat.le_refl t, fun _ => rfl⟩

theorem Waits.refl {τ : Type} (pace : Pace) (timers : List (τ × Nat)) (t : Nat) :
    Waits pace timers t t :=
  ⟨Nat.le_refl t, fun _ => .inl rfl⟩

variable {S : Signature} {σ α β : Type}

/-- The postcondition of a clean-up that runs because of a drop. -/
def Post.afterDrop (P : Post σ α) : Post σ Unit :=
  ⟨fun _ => P.dropped, P.panicked, P.dropped⟩

/-- The postcondition of a guard that runs while unwinding. -/
def Post.unwinding (P : Post σ α) : Post σ Unit :=
  ⟨fun _ => P.panicked, P.panicked, P.panicked⟩

/-- Obligations of a program parked at a started operation: at every instant
up to which it may wait, it rests, and completion, each due timer and a drop
are all acceptable. -/
def Parked (m : Monitor S σ) (pace : Pace) (op : S.Op) (timers : List (S.Timer × Nat))
    (completed : S.Ans op → Nat → σ → Prop) (fired : Nat → Nat → σ → Prop)
    (cleaned : Nat → σ → Prop) (t : Nat) (s : σ) : Prop :=
  ∀ t', Waits pace timers t t' →
    m.rest s t' ∧
    (∀ ans, m.assume s t' (.done op ans) →
      m.check s t' (.done op ans) ∧ completed ans t' (m.next s t' (.done op ans))) ∧
    (∀ j timer deadline, timers[j]? = some (timer, deadline) → deadline ≤ t' →
      m.assume s t' (.fire j timer deadline) →
      m.check s t' (.fire j timer deadline) ∧
      fired j t' (m.next s t' (.fire j timer deadline))) ∧
    cleaned t' s

/-- `Sat` for programs that never suspend. -/
def Sync.Sat (m : Monitor S σ) (pace : Pace) (P : Post σ α) : Sync S α → Nat → σ → Prop
  | .ret value, t, s => P.returned value t s
  | .panic, t, s => P.panicked t s
  | .call op k, t, s => ∀ t' ans, Elapses pace t t' → m.assume s t' (.call op ans) →
      m.check s t' (.call op ans) ∧ (k ans).Sat m pace P t' (m.next s t' (.call op ans))

def Prog.Sat (m : Monitor S σ) (pace : Pace) (P : Post σ α) : Prog S α → Nat → σ → Prop
  | .ret value, t, s => P.returned value t s
  | .panic, t, s => P.panicked t s
  | .call op k, t, s => ∀ t' ans, Elapses pace t t' → m.assume s t' (.call op ans) →
      m.check s t' (.call op ans) ∧ (k ans).Sat m pace P t' (m.next s t' (.call op ans))
  | .arm timer d k, t, s => ∀ t', Elapses pace t t' → m.assume s t' (.arm timer (t' + d)) →
      m.check s t' (.arm timer (t' + d)) ∧
      (k (t' + d)).Sat m pace P t' (m.next s t' (.arm timer (t' + d)))
  | .await true op k timers expired cleanup, t, s =>
      Parked m pace op timers (fun ans => (k ans).Sat m pace P)
        (fun j => (expired j).Sat m pace P) (cleanup.Sat m pace P.afterDrop) t s
  | .await false op k timers expired cleanup, t, s =>
      ∀ t', Elapses pace t t' → m.assume s t' (.issue op) →
        m.check s t' (.issue op) ∧
        Parked m pace op timers (fun ans => (k ans).Sat m pace P)
          (fun j => (expired j).Sat m pace P) (cleanup.Sat m pace P.afterDrop)
          t' (m.next s t' (.issue op))

variable {m : Monitor S σ} {pace : Pace}

theorem Parked.imp {op : S.Op} {timers : List (S.Timer × Nat)}
    {completed completed' : S.Ans op → Nat → σ → Prop} {fired fired' : Nat → Nat → σ → Prop}
    {cleaned cleaned' : Nat → σ → Prop} {t : Nat} {s : σ}
    (h : Parked m pace op timers completed fired cleaned t s)
    (onDone : ∀ ans t s, completed ans t s → completed' ans t s)
    (onFire : ∀ j t s, j < timers.length → fired j t s → fired' j t s)
    (onDrop : ∀ t s, cleaned t s → cleaned' t s) :
    Parked m pace op timers completed' fired' cleaned' t s := by
  intro t' waits
  obtain ⟨rest, done, fire, drop⟩ := h t' waits
  refine ⟨rest, ?_, ?_, onDrop _ _ drop⟩
  · intro ans admitted
    exact ⟨(done ans admitted).1, onDone _ _ _ (done ans admitted).2⟩
  · intro j timer deadline found due admitted
    have passed := fire j timer deadline found due admitted
    exact ⟨passed.1, onFire j _ _ (List.getElem?_eq_some_iff.mp found).1 passed.2⟩

/-- Waiting longer only discharges obligations. -/
theorem Parked.later {op : S.Op} {timers : List (S.Timer × Nat)}
    {completed : S.Ans op → Nat → σ → Prop} {fired : Nat → Nat → σ → Prop}
    {cleaned : Nat → σ → Prop} {t t' : Nat} {s : σ} (waits : Waits pace timers t t')
    (h : Parked m pace op timers completed fired cleaned t s) :
    Parked m pace op timers completed fired cleaned t' s := by
  intro t'' further
  refine h t'' ⟨Nat.le_trans waits.1 further.1, fun isStrict => ?_⟩
  rcases further.2 isStrict with same | inTime
  · rcases waits.2 isStrict with same' | inTime'
    · exact .inl (same.trans same')
    · exact .inr (same ▸ inTime')
  · exact .inr inTime

namespace Sync

theorem Sat.imp (P P' : Post σ α) (returned : ∀ a t s, P.returned a t s → P'.returned a t s)
    (panicked : ∀ t s, P.panicked t s → P'.panicked t s) (c : Sync S α) :
    ∀ {t s}, c.Sat m pace P t s → c.Sat m pace P' t s := by
  induction c with
  | ret value => exact fun h => returned value _ _ h
  | panic => exact fun h => panicked _ _ h
  | call op k ih =>
    intro t s h t' ans elapsed admitted
    exact ⟨(h t' ans elapsed admitted).1, ih ans (h t' ans elapsed admitted).2⟩

theorem Sat.bind {P : Post σ β} {f : α → Sync S β} (c : Sync S α) :
    ∀ {t s}, c.Sat m pace ⟨fun a => (f a).Sat m pace P, P.panicked, P.dropped⟩ t s →
      (c.bind f).Sat m pace P t s := by
  induction c with
  | ret value => exact fun h => h
  | panic => exact fun h => h
  | call op k ih =>
    intro t s h t' ans elapsed admitted
    exact ⟨(h t' ans elapsed admitted).1, ih ans (h t' ans elapsed admitted).2⟩

theorem Sat.of_invariant {P : Post σ α} {I : σ → Prop}
    (keeps : ∀ s t l, I s → m.check s t l ∧ I (m.next s t l))
    (returned : ∀ a t s, I s → P.returned a t s) (panicked : ∀ t s, I s → P.panicked t s)
    (c : Sync S α) : ∀ {t s}, I s → c.Sat m pace P t s := by
  induction c with
  | ret value => exact fun inv => returned value _ _ inv
  | panic => exact fun inv => panicked _ _ inv
  | call op k ih =>
    intro t s inv t' ans _ _
    have kept := keeps s t' (.call op ans) inv
    exact ⟨kept.1, ih ans kept.2⟩

theorem Sat.ensuring {P : Post σ α} {guard : Sync S Unit} (c : Sync S Unit) :
    ∀ {t s}, c.Sat m pace ⟨fun _ => guard.Sat m pace P.afterDrop,
      guard.Sat m pace P.unwinding, guard.Sat m pace P.afterDrop⟩ t s →
      (Sync.ensuring guard c).Sat m pace P.afterDrop t s := by
  induction c with
  | ret value => exact fun h => h
  | panic =>
    intro t s h
    have unwound : guard.Sat m pace ⟨fun _ => P.panicked, P.panicked, P.dropped⟩ t s :=
      Sat.imp P.unwinding ⟨fun _ => P.panicked, P.panicked, P.dropped⟩
        (fun _ _ _ => id) (fun _ _ => id) guard h
    exact Sat.bind guard unwound
  | call op k ih =>
    intro t s h t' ans elapsed admitted
    exact ⟨(h t' ans elapsed admitted).1, ih ans (h t' ans elapsed admitted).2⟩

end Sync

namespace Prog

theorem Sat.ofSync {P : Post σ α} (c : Sync S α) :
    ∀ {t s}, c.Sat m pace P t s → (Prog.ofSync c).Sat m pace P t s := by
  induction c with
  | ret value => exact fun h => h
  | panic => exact fun h => h
  | call op k ih =>
    intro t s h t' ans elapsed admitted
    exact ⟨(h t' ans elapsed admitted).1, ih ans (h t' ans elapsed admitted).2⟩

theorem Sat.imp (P P' : Post σ α) (returned : ∀ a t s, P.returned a t s → P'.returned a t s)
    (panicked : ∀ t s, P.panicked t s → P'.panicked t s)
    (dropped : ∀ t s, P.dropped t s → P'.dropped t s) (p : Prog S α) :
    ∀ {t s}, p.Sat m pace P t s → p.Sat m pace P' t s := by
  induction p with
  | ret value => exact fun h => returned value _ _ h
  | panic => exact fun h => panicked _ _ h
  | call op k ih =>
    intro t s h t' ans elapsed admitted
    exact ⟨(h t' ans elapsed admitted).1, ih ans (h t' ans elapsed admitted).2⟩
  | arm timer d k ih =>
    intro t s h t' elapsed admitted
    exact ⟨(h t' elapsed admitted).1, ih _ (h t' elapsed admitted).2⟩
  | await issued op k timers expired cleanup ihDone ihFire =>
    have clean : ∀ t s, cleanup.Sat m pace P.afterDrop t s →
        cleanup.Sat m pace P'.afterDrop t s :=
      fun t s => Sync.Sat.imp P.afterDrop P'.afterDrop (fun _ => dropped) panicked cleanup
    cases issued with
    | true =>
      intro t s h
      exact Parked.imp h (fun ans _ _ => ihDone ans) (fun j _ _ _ => ihFire j) clean
    | false =>
      intro t s h t' elapsed admitted
      exact ⟨(h t' elapsed admitted).1, (h t' elapsed admitted).2.imp
        (fun ans _ _ => ihDone ans) (fun j _ _ _ => ihFire j) clean⟩

/-- Sequencing: the continuation is verified at every way the first part returns. -/
theorem Sat.bind {P : Post σ β} {f : α → Prog S β} (p : Prog S α) :
    ∀ {t s}, p.Sat m pace ⟨fun a => (f a).Sat m pace P, P.panicked, P.dropped⟩ t s →
      (p.bind f).Sat m pace P t s := by
  induction p with
  | ret value => exact fun h => h
  | panic => exact fun h => h
  | call op k ih =>
    intro t s h t' ans elapsed admitted
    exact ⟨(h t' ans elapsed admitted).1, ih ans (h t' ans elapsed admitted).2⟩
  | arm timer d k ih =>
    intro t s h t' elapsed admitted
    exact ⟨(h t' elapsed admitted).1, ih _ (h t' elapsed admitted).2⟩
  | await issued op k timers expired cleanup ihDone ihFire =>
    cases issued with
    | true =>
      intro t s h
      exact Parked.imp h (fun ans _ _ => ihDone ans) (fun j _ _ _ => ihFire j) (fun _ _ => id)
    | false =>
      intro t s h t' elapsed admitted
      exact ⟨(h t' elapsed admitted).1, (h t' elapsed admitted).2.imp
        (fun ans _ _ => ihDone ans) (fun j _ _ _ => ihFire j) (fun _ _ => id)⟩

/-- What every label preserves needs no help from the program. -/
theorem Sat.of_invariant {P : Post σ α} {I : σ → Prop}
    (keeps : ∀ s t l, I s → m.check s t l ∧ I (m.next s t l)) (rests : ∀ s t, I s → m.rest s t)
    (returned : ∀ a t s, I s → P.returned a t s) (panicked : ∀ t s, I s → P.panicked t s)
    (dropped : ∀ t s, I s → P.dropped t s) (p : Prog S α) :
    ∀ {t s}, I s → p.Sat m pace P t s := by
  induction p with
  | ret value => exact fun inv => returned value _ _ inv
  | panic => exact fun inv => panicked _ _ inv
  | call op k ih =>
    intro t s inv t' ans _ _
    have kept := keeps s t' (.call op ans) inv
    exact ⟨kept.1, ih ans kept.2⟩
  | arm timer d k ih =>
    intro t s inv t' _ _
    have kept := keeps s t' (.arm timer (t' + d)) inv
    exact ⟨kept.1, ih _ kept.2⟩
  | await issued op k timers expired cleanup ihDone ihFire =>
    have clean : ∀ {t s}, I s → cleanup.Sat m pace P.afterDrop t s := by
      intro t s inv
      refine Sync.Sat.of_invariant keeps ?_ ?_ cleanup inv
      · exact fun _ => dropped
      · exact panicked
    have parked : ∀ {t s}, I s →
        (Prog.await true op k timers expired cleanup).Sat m pace P t s := by
      intro t s inv t' _
      refine ⟨rests s t' inv, ?_, ?_, clean inv⟩
      · intro ans _
        have kept := keeps s t' (.done op ans) inv
        exact ⟨kept.1, ihDone ans kept.2⟩
      · intro j timer deadline _ _ _
        have kept := keeps s t' (.fire j timer deadline) inv
        exact ⟨kept.1, ihFire j kept.2⟩
    cases issued with
    | true =>
      intro t s inv
      exact parked inv
    | false =>
      intro t s inv t' _ _
      have kept := keeps s t' (.issue op) inv
      exact ⟨kept.1, parked kept.2⟩

/-- `Sat.imp` for a fact at hand. -/
theorem Sat.mono {P P' : Post σ α} {p : Prog S α} {t : Nat} {s : σ} (h : p.Sat m pace P t s)
    (returned : ∀ a t s, P.returned a t s → P'.returned a t s)
    (panicked : ∀ t s, P.panicked t s → P'.panicked t s)
    (dropped : ∀ t s, P.dropped t s → P'.dropped t s) : p.Sat m pace P' t s :=
  Sat.imp P P' returned panicked dropped p h

/-- The `?` operator: an error of the first part is returned as it is. -/
theorem Sat.andThen {ε : Type} {P : Post σ (Except ε β)} {f : α → Prog S (Except ε β)}
    (p : Prog S (Except ε α)) {t : Nat} {s : σ}
    (h : p.Sat m pace
      ⟨fun result t s => match result with
        | .ok value => (f value).Sat m pace P t s
        | .error err => P.returned (.error err) t s,
        P.panicked, P.dropped⟩ t s) :
    (p.andThen f).Sat m pace P t s := by
  refine Sat.bind p (Sat.mono h ?_ (fun _ _ => id) (fun _ _ => id))
  intro result t s returned
  cases result with
  | ok value => exact returned
  | error err => exact returned

/-- An awaited operation with no timeout of its own. -/
theorem Sat.suspend {op : S.Op} {P : Post σ (S.Ans op)} {t : Nat} {s : σ}
    (h : ∀ t₁, Elapses pace t t₁ → m.assume s t₁ (.issue op) →
      m.check s t₁ (.issue op) ∧ ∀ t₂, t₁ ≤ t₂ →
        m.rest (m.next s t₁ (.issue op)) t₂ ∧
        (∀ ans, m.assume (m.next s t₁ (.issue op)) t₂ (.done op ans) →
          m.check (m.next s t₁ (.issue op)) t₂ (.done op ans) ∧
          P.returned ans t₂ (m.next (m.next s t₁ (.issue op)) t₂ (.done op ans))) ∧
        P.dropped t₂ (m.next s t₁ (.issue op))) :
    (Prog.suspend op).Sat m pace P t s := by
  intro t₁ elapsed admitted
  obtain ⟨passes, awaited⟩ := h t₁ elapsed admitted
  refine ⟨passes, ?_⟩
  intro t₂ waits
  obtain ⟨rest, done, dropped⟩ := awaited t₂ waits.1
  refine ⟨rest, done, ?_, dropped⟩
  intro j timer deadline found
  simp at found

/-- A synchronous operation, then the rest. -/
theorem Sat.perform_bind {P : Post σ α} {op : S.Op} {k : S.Ans op → Prog S α} {t : Nat} {s : σ}
    (h : ∀ t' ans, Elapses pace t t' → m.assume s t' (.call op ans) →
      m.check s t' (.call op ans) ∧ (k ans).Sat m pace P t' (m.next s t' (.call op ans))) :
    ((Prog.perform op).bind k).Sat m pace P t s := h

end Prog

/-- In a strict run a future under a deadline is only ever observed in time. -/
def InTime (pace : Pace) (deadline t : Nat) : Prop := pace = .strict → t ≤ deadline

/-- `m` for a future that runs under `deadline`: every obligation may use that
the clock has not passed it. -/
def Monitor.within (m : Monitor S σ) (pace : Pace) (deadline : Nat) : Monitor S σ where
  next := m.next
  assume s t l := m.assume s t l ∧ InTime pace deadline t
  check := m.check
  rest s t := InTime pace deadline t → m.rest s t

/-- What the future under the deadline has to establish for `P` to hold of the
timeout: `none` wherever it can be cut, `some` of what it returns. -/
def Post.within (P : Post σ (Option α)) (pace : Pace) (deadline : Nat) : Post σ α where
  returned a t s := InTime pace deadline t → P.returned (some a) t s
  panicked t s := InTime pace deadline t → P.panicked t s
  dropped t s := InTime pace deadline t → P.returned none t s ∧ P.dropped t s

/-- The same, wherever it is cut. -/
def Post.cut (P : Post σ (Option α)) : Post σ α where
  returned a := P.returned (some a)
  panicked := P.panicked
  dropped t s := P.returned none t s ∧ P.dropped t s

/-- The same, where the cut may rely on `I`. -/
def Post.cutIf (P : Post σ (Option α)) (I : σ → Prop) : Post σ α where
  returned a := P.returned (some a)
  panicked := P.panicked
  dropped t s := (I s → P.returned none t s) ∧ P.dropped t s

/-- The same, where it may be used that the clock has not passed the deadline. -/
def Post.inTime (P : Post σ α) (pace : Pace) (deadline : Nat) : Post σ α where
  returned a t s := InTime pace deadline t → P.returned a t s
  panicked t s := InTime pace deadline t → P.panicked t s
  dropped t s := InTime pace deadline t → P.dropped t s

/-- The monitor neither moves when this timer fires nor has anything against it. -/
def Monitor.Ignores (m : Monitor S σ) (timer : S.Timer) (deadline : Nat) : Prop :=
  ∀ s t j, m.next s t (.fire j timer deadline) = s ∧ m.check s t (.fire j timer deadline)

theorem InTime.elapses {deadline t t' : Nat} (elapsed : Elapses pace t t')
    (inTime : InTime pace deadline t) : InTime pace deadline t' := by
  intro isStrict
  rw [elapsed.2 (Pace.instant_of_strict isStrict)]
  exact inTime isStrict

theorem InTime.waits {timers : List (S.Timer × Nat)} {timer : S.Timer} {deadline t t' : Nat}
    (waits : Waits pace (timers ++ [(timer, deadline)]) t t')
    (inTime : InTime pace deadline t) : InTime pace deadline t' := by
  intro isStrict
  rcases waits.2 isStrict with same | bound
  · rw [same]
    exact inTime isStrict
  · exact bound (timer, deadline) (by simp)

theorem Waits.of_append {timers more : List (S.Timer × Nat)} {t t' : Nat}
    (waits : Waits pace (timers ++ more) t t') : Waits pace timers t t' :=
  ⟨waits.1, fun isStrict => (waits.2 isStrict).imp id
    fun bound timer mem => bound timer (List.mem_append_left more mem)⟩

/-- What holds without a deadline holds under one. -/
theorem Sync.Sat.within {P : Post σ α} (deadline : Nat) (c : Sync S α) :
    ∀ {t s}, c.Sat m pace P t s →
      c.Sat (m.within pace deadline) pace (P.inTime pace deadline) t s := by
  induction c with
  | ret value => exact fun h _ => h
  | panic => exact fun h _ => h
  | call op k ih =>
    intro t s h t' ans elapsed admitted
    have passed := h t' ans elapsed admitted.1
    exact ⟨passed.1, ih ans passed.2⟩

/-- A clean-up under the deadline, at the end of which `I` is there as well if every
label preserves it. -/
theorem Sync.Sat.of_within {deadline : Nat} (P Q : Post σ α) {I : σ → Prop}
    (keeps : ∀ s t l, I s → I (m.next s t l))
    (returned : ∀ a t s, I s → Q.returned a t s → P.returned a t s)
    (panicked : ∀ t s, Q.panicked t s → P.panicked t s) (c : Sync S α) :
    ∀ {t s}, I s → InTime pace deadline t →
      c.Sat (m.within pace deadline) pace (Q.inTime pace deadline) t s →
      c.Sat m pace P t s := by
  induction c with
  | ret value => exact fun kept inTime h => returned value _ _ kept (h inTime)
  | panic => exact fun _ inTime h => panicked _ _ (h inTime)
  | call op k ih =>
    intro t s kept inTime h t' ans elapsed admitted
    have passed := h t' ans elapsed ⟨admitted, inTime.elapses elapsed⟩
    exact ⟨passed.1, ih ans (keeps s t' _ kept) (inTime.elapses elapsed) passed.2⟩

namespace Prog

theorem Sat.within {P : Post σ α} (deadline : Nat) (p : Prog S α) :
    ∀ {t s}, p.Sat m pace P t s →
      p.Sat (m.within pace deadline) pace (P.inTime pace deadline) t s := by
  induction p with
  | ret value => exact fun h _ => h
  | panic => exact fun h _ => h
  | call op k ih =>
    intro t s h t' ans elapsed admitted
    have passed := h t' ans elapsed admitted.1
    exact ⟨passed.1, ih ans passed.2⟩
  | arm timer d k ih =>
    intro t s h t' elapsed admitted
    have passed := h t' elapsed admitted.1
    exact ⟨passed.1, ih _ passed.2⟩
  | await issued op k timers expired cleanup ihDone ihFire =>
    have parked : ∀ {t s}, (Prog.await true op k timers expired cleanup).Sat m pace P t s →
        (Prog.await true op k timers expired cleanup).Sat (m.within pace deadline) pace
          (P.inTime pace deadline) t s := by
      intro t s h t' waits
      obtain ⟨rest, done, fire, drop⟩ := h t' waits
      refine ⟨fun _ => rest, ?_, ?_, Sync.Sat.within deadline cleanup drop⟩
      · intro ans admitted
        have passed := done ans admitted.1
        exact ⟨passed.1, ihDone ans passed.2⟩
      · intro j timer deadline' found due admitted
        have passed := fire j timer deadline' found due admitted.1
        exact ⟨passed.1, ihFire j passed.2⟩
    cases issued with
    | true =>
      intro t s h
      exact parked h
    | false =>
      intro t s h t' elapsed admitted
      have passed := h t' elapsed admitted.1
      exact ⟨passed.1, parked passed.2⟩

/-- The deadline rule. At every suspension point the future may be cut, so its
clean-up has to lead to the elapsed result as well. There it may rely on `I`, if that
is assumed when the timer fires and every label preserves it. -/
theorem Sat.withDeadline_if {P : Post σ (Option α)} {timer : S.Timer} {deadline : Nat}
    {I : σ → Prop} (ignores : m.Ignores timer deadline)
    (fires : ∀ s t j, m.assume s t (.fire j timer deadline) → I s)
    (keeps : ∀ s t l, I s → I (m.next s t l)) (p : Prog S α) :
    ∀ {t s}, InTime pace deadline t →
      p.Sat (m.within pace deadline) pace ((P.cutIf I).inTime pace deadline) t s →
      (p.withDeadline timer deadline).Sat m pace P t s := by
  induction p with
  | ret value => exact fun inTime h => h inTime
  | panic => exact fun inTime h => h inTime
  | call op k ih =>
    intro t s inTime h t' ans elapsed admitted
    have passed := h t' ans elapsed ⟨admitted, inTime.elapses elapsed⟩
    exact ⟨passed.1, ih ans (inTime.elapses elapsed) passed.2⟩
  | arm timer' d k ih =>
    intro t s inTime h t' elapsed admitted
    have passed := h t' elapsed ⟨admitted, inTime.elapses elapsed⟩
    exact ⟨passed.1, ih _ (inTime.elapses elapsed) passed.2⟩
  | await issued op k timers expired cleanup ihDone ihFire =>
    have parked : ∀ {t s}, InTime pace deadline t →
        (Prog.await true op k timers expired cleanup).Sat (m.within pace deadline) pace
          ((P.cutIf I).inTime pace deadline) t s →
        ((Prog.await true op k timers expired cleanup).withDeadline timer deadline).Sat m pace
          P t s := by
      intro t s inTime h t' waits
      have inTime' := inTime.waits waits
      obtain ⟨rest, done, fire, drop⟩ := h t' waits.of_append
      refine ⟨rest inTime', ?_, ?_, ?_⟩
      · intro ans admitted
        have passed := done ans ⟨admitted, inTime'⟩
        exact ⟨passed.1, ihDone ans inTime' passed.2⟩
      · intro j timer' deadline' found due admitted
        by_cases inner : j < timers.length
        · rw [List.getElem?_append_left inner] at found
          have passed := fire j timer' deadline' found due ⟨admitted, inTime'⟩
          refine ⟨passed.1, ?_⟩
          simp only [if_pos inner]
          exact ihFire j inTime' passed.2
        · have outer : (timer', deadline') = (timer, deadline) := by
            rw [List.getElem?_append_right (Nat.le_of_not_lt inner)] at found
            exact (List.mem_singleton.mp (List.mem_of_getElem? found))
          obtain ⟨sameTimer, sameDeadline⟩ := Prod.mk.inj outer
          subst timer' deadline'
          obtain ⟨still, passes⟩ := ignores s t' j
          refine ⟨passes, ?_⟩
          simp only [if_neg inner, still]
          have cut : cleanup.Sat m pace ⟨fun _ => P.returned none, P.panicked, P.dropped⟩ t' s :=
            Sync.Sat.of_within ⟨fun _ => P.returned none, P.panicked, P.dropped⟩
              (P.cutIf I).afterDrop keeps (fun _ _ _ kept cut => cut.1 kept)
              (fun _ _ stopped => stopped) cleanup (fires s t' j admitted) inTime' drop
          exact Sat.bind _ (Sat.ofSync cleanup cut)
      · have always : ∀ s t l, (fun _ : σ => True) s → (fun _ : σ => True) (m.next s t l) :=
          fun _ _ _ => id
        exact Sync.Sat.of_within P.afterDrop (P.cutIf I).afterDrop always
          (fun _ _ _ _ cut => cut.2) (fun _ _ stopped => stopped) cleanup True.intro inTime' drop
    cases issued with
    | true =>
      intro t s inTime h
      exact parked inTime h
    | false =>
      intro t s inTime h t' elapsed admitted
      have passed := h t' elapsed ⟨admitted, inTime.elapses elapsed⟩
      exact ⟨passed.1, parked (inTime.elapses elapsed) passed.2⟩

theorem Sat.withDeadline {P : Post σ (Option α)} {timer : S.Timer} {deadline : Nat}
    (ignores : m.Ignores timer deadline) (p : Prog S α) {t : Nat} {s : σ}
    (inTime : InTime pace deadline t)
    (h : p.Sat (m.within pace deadline) pace (P.within pace deadline) t s) :
    (p.withDeadline timer deadline).Sat m pace P t s := by
  have anywhere : ∀ s : σ, (fun _ : σ => True) s := fun _ => True.intro
  refine Sat.withDeadline_if ignores (fun s _ _ _ => anywhere s) (fun s _ _ _ => anywhere s) p
    inTime (h.mono (fun _ _ _ => id) (fun _ _ => id) ?_)
  intro t s dropped inTime
  exact ⟨fun _ => (dropped inTime).1, (dropped inTime).2⟩

/-- `tokio::time::timeout`: arm, then run under the deadline. -/
theorem Sat.timeout {P : Post σ (Option α)} {timer : S.Timer} {d : Nat} {p : Prog S α}
    {t : Nat} {s : σ}
    (h : ∀ t', Elapses pace t t' → m.assume s t' (.arm timer (t' + d)) →
      m.check s t' (.arm timer (t' + d)) ∧ m.Ignores timer (t' + d) ∧
      p.Sat (m.within pace (t' + d)) pace (P.within pace (t' + d)) t'
        (m.next s t' (.arm timer (t' + d)))) :
    (p.timeout timer d).Sat m pace P t s := by
  intro t' elapsed admitted
  obtain ⟨passes, ignores, body⟩ := h t' elapsed admitted
  exact ⟨passes, Sat.withDeadline ignores p (fun _ => Nat.le_add_right _ _) body⟩

/-- The timeout rule for properties that do not depend on the deadline, but on what
was assumed when it expired. -/
theorem Sat.timeout_admitted {P : Post σ (Option α)} {timer : S.Timer} {d : Nat} {p : Prog S α}
    {I : σ → Prop} {t : Nat} {s : σ}
    (fires : ∀ s t j deadline, m.assume s t (.fire j timer deadline) → I s)
    (keeps : ∀ s t l, I s → I (m.next s t l))
    (h : ∀ t', Elapses pace t t' → m.assume s t' (.arm timer (t' + d)) →
      m.check s t' (.arm timer (t' + d)) ∧ m.Ignores timer (t' + d) ∧
      p.Sat m pace (P.cutIf I) t' (m.next s t' (.arm timer (t' + d)))) :
    (p.timeout timer d).Sat m pace P t s := by
  intro t' elapsed admitted
  obtain ⟨passes, ignores, body⟩ := h t' elapsed admitted
  exact ⟨passes, Sat.withDeadline_if ignores (fun s t j => fires s t j _) keeps p
    (fun _ => Nat.le_add_right _ _) (body.within (t' + d))⟩

/-- The timeout rule for properties that do not depend on the deadline. -/
theorem Sat.timeout_cut {P : Post σ (Option α)} {timer : S.Timer} {d : Nat} {p : Prog S α}
    {t : Nat} {s : σ}
    (h : ∀ t', Elapses pace t t' → m.assume s t' (.arm timer (t' + d)) →
      m.check s t' (.arm timer (t' + d)) ∧ m.Ignores timer (t' + d) ∧
      p.Sat m pace P.cut t' (m.next s t' (.arm timer (t' + d)))) :
    (p.timeout timer d).Sat m pace P t s := by
  have anywhere : ∀ s : σ, (fun _ : σ => True) s := fun _ => True.intro
  refine Sat.timeout_admitted (fun s _ _ _ _ => anywhere s) (fun s _ _ _ => anywhere s) ?_
  intro t' elapsed admitted
  obtain ⟨passes, ignores, body⟩ := h t' elapsed admitted
  exact ⟨passes, ignores, body.mono (fun _ _ _ => id) (fun _ _ => id)
    fun _ _ dropped => ⟨fun _ => dropped.1, dropped.2⟩⟩

/-- `timed` for properties that do not depend on the deadline. -/
theorem Sat.timed_cut {ε ε' : Type} {P : Post σ (Except ε α)} {timer : S.Timer} {d : Nat}
    {elapsed : ε} {failed : ε' → ε} {p : Prog S (Except ε' α)} {t : Nat} {s : σ}
    (h : ∀ t', Elapses pace t t' → m.assume s t' (.arm timer (t' + d)) →
      m.check s t' (.arm timer (t' + d)) ∧ m.Ignores timer (t' + d) ∧
      p.Sat m pace
        ⟨fun result t s => match result with
          | .ok value => P.returned (.ok value) t s
          | .error err => P.returned (.error (failed err)) t s,
          P.panicked, fun t s => P.returned (.error elapsed) t s ∧ P.dropped t s⟩
        t' (m.next s t' (.arm timer (t' + d)))) :
    (Prog.timed timer d elapsed failed p).Sat m pace P t s := by
  refine Sat.bind _ (Sat.timeout_cut fun t' elapsed' admitted => ?_)
  obtain ⟨passes, ignores, body⟩ := h t' elapsed' admitted
  refine ⟨passes, ignores, body.mono ?_ (fun _ _ => id) fun _ _ => id⟩
  intro result t s returned
  cases result with
  | ok value => exact returned
  | error err => exact returned

/-- The guard rule: the guard runs after the clean-up of `p` when `p` is
dropped, and when `p` unwinds. -/
theorem Sat.guarded {P : Post σ α} {guard : Sync S Unit} (p : Prog S α) :
    ∀ {t s}, p.Sat m pace ⟨P.returned, guard.Sat m pace P.unwinding,
      guard.Sat m pace P.afterDrop⟩ t s → (p.guarded guard).Sat m pace P t s := by
  induction p with
  | ret value => exact fun h => h
  | panic =>
    intro t s h
    have unwound : guard.Sat m pace ⟨fun _ => P.panicked, P.panicked, P.dropped⟩ t s :=
      Sync.Sat.imp P.unwinding ⟨fun _ => P.panicked, P.panicked, P.dropped⟩
        (fun _ _ _ => id) (fun _ _ => id) guard h
    exact Sat.bind _ (Sat.ofSync guard unwound)
  | call op k ih =>
    intro t s h t' ans elapsed admitted
    exact ⟨(h t' ans elapsed admitted).1, ih ans (h t' ans elapsed admitted).2⟩
  | arm timer d k ih =>
    intro t s h t' elapsed admitted
    exact ⟨(h t' elapsed admitted).1, ih _ (h t' elapsed admitted).2⟩
  | await issued op k timers expired cleanup ihDone ihFire =>
    cases issued with
    | true =>
      intro t s h
      exact Parked.imp h (fun ans _ _ => ihDone ans) (fun j _ _ _ => ihFire j)
        (fun _ _ => Sync.Sat.ensuring cleanup)
    | false =>
      intro t s h t' elapsed admitted
      exact ⟨(h t' elapsed admitted).1, (h t' elapsed admitted).2.imp
        (fun ans _ _ => ihDone ans) (fun j _ _ _ => ihFire j)
        (fun _ _ => Sync.Sat.ensuring cleanup)⟩

end Prog

end MechanicsHttpClient.Runtime
