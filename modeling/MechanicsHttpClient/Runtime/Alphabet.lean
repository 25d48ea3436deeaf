import MechanicsHttpClient.Runtime.Adequacy

/-!
# Programs that use only some operations

Most of a program is irrelevant to a given monitor. An alphabet names the
operations and timers a part of the program uses; `Uses` is checked along the
structure of the program, and a monitor that ignores the alphabet is left where
it was.
-/

namespace MechanicsHttpClient.Runtime

/-- Operations and timers that may occur, and whether the part may unwind. -/
structure Alphabet (S : Signature) where
  op : S.Op → Prop
  timer : S.Timer → Prop
  unwinds : Prop

variable {S : Signature} {σ α β ε ε' : Type}

def Alphabet.Has (A : Alphabet S) : Label S → Prop
  | .call op _ => A.op op
  | .issue op => A.op op
  | .done op _ => A.op op
  | .arm timer _ => A.timer timer
  | .fire _ timer _ => A.timer timer

/-- In this state the monitor neither moves on a label of the alphabet nor
objects to it. -/
def Monitor.IgnoresAt (m : Monitor S σ) (A : Alphabet S) (s : σ) : Prop :=
  ∀ t l, A.Has l → m.next s t l = s ∧ m.check s t l

/-- Nor in any state. -/
def Monitor.IgnoresAll (m : Monitor S σ) (A : Alphabet S) : Prop := ∀ s, m.IgnoresAt A s

def Sync.Uses (A : Alphabet S) : Sync S α → Prop
  | .ret _ => True
  | .panic => A.unwinds
  | .call op k => A.op op ∧ ∀ ans, (k ans).Uses A

/-- Everything of `A` is also in `B`. -/
structure Alphabet.Within (A B : Alphabet S) : Prop where
  op : ∀ op, A.op op → B.op op
  timer : ∀ timer, A.timer timer → B.timer timer
  unwinds : A.unwinds → B.unwinds

theorem Alphabet.Within.has {A B : Alphabet S} (sub : A.Within B) {label : Label S}
    (has : A.Has label) : B.Has label := by
  cases label with
  | call op ans => exact sub.op op has
  | arm timer deadline => exact sub.timer timer has
  | issue op => exact sub.op op has
  | done op ans => exact sub.op op has
  | fire j timer deadline => exact sub.timer timer has

theorem Monitor.IgnoresAll.within {m : Monitor S σ} {A B : Alphabet S} (h : m.IgnoresAll B)
    (sub : A.Within B) : m.IgnoresAll A := fun s t label has => h s t label (sub.has has)

/-- The program stays in the alphabet, however it is cut. -/
def Prog.Uses (A : Alphabet S) : Prog S α → Prop
  | .ret _ => True
  | .panic => A.unwinds
  | .call op k => A.op op ∧ ∀ ans, (k ans).Uses A
  | .arm timer _ k => A.timer timer ∧ ∀ deadline, (k deadline).Uses A
  | .await _ op k timers expired cleanup =>
    A.op op ∧ (∀ ans, (k ans).Uses A) ∧
      (∀ j timer, timers[j]? = some timer → A.timer timer.1 ∧ (expired j).Uses A) ∧
      cleanup.Uses A

namespace Sync

variable {A : Alphabet S}

theorem Uses.mono {B : Alphabet S} (sub : A.Within B) (c : Sync S α) (h : c.Uses A) :
    c.Uses B := by
  induction c with
  | ret value => exact True.intro
  | panic => exact sub.unwinds h
  | call op k ih => exact ⟨sub.op op h.1, fun ans => ih ans (h.2 ans)⟩

theorem Uses.bind {f : α → Sync S β} (next : ∀ a, (f a).Uses A) (c : Sync S α)
    (h : c.Uses A) : (c.bind f).Uses A := by
  induction c with
  | ret value => exact next value
  | panic => exact h
  | call op k ih => exact ⟨h.1, fun ans => ih ans (h.2 ans)⟩

theorem Uses.ensuring {guard : Sync S Unit} (clean : guard.Uses A) (c : Sync S Unit)
    (h : c.Uses A) : (Sync.ensuring guard c).Uses A := by
  induction c with
  | ret value => exact clean
  | panic =>
    have unwound : ∀ value : Unit, (Sync.panic : Sync S Unit).Uses A := fun _ => h
    exact Uses.bind unwound guard clean
  | call op k ih => exact ⟨h.1, fun ans => ih ans (h.2 ans)⟩

end Sync

namespace Prog

variable {A : Alphabet S}

theorem Uses.mono {B : Alphabet S} (sub : A.Within B) (p : Prog S α) (h : p.Uses A) :
    p.Uses B := by
  induction p with
  | ret value => exact True.intro
  | panic => exact sub.unwinds h
  | call op k ih => exact ⟨sub.op op h.1, fun ans => ih ans (h.2 ans)⟩
  | arm timer d k ih => exact ⟨sub.timer timer h.1, fun deadline => ih deadline (h.2 deadline)⟩
  | await issued op k timers expired cleanup ihDone ihFire =>
    obtain ⟨here, done, fire, clean⟩ := h
    refine ⟨sub.op op here, fun ans => ihDone ans (done ans), ?_, Sync.Uses.mono sub cleanup clean⟩
    intro j timer found
    exact ⟨sub.timer _ (fire j timer found).1, ihFire j (fire j timer found).2⟩

theorem Uses.bind {f : α → Prog S β} (next : ∀ a, (f a).Uses A) (p : Prog S α)
    (h : p.Uses A) : (p.bind f).Uses A := by
  induction p with
  | ret value => exact next value
  | panic => exact h
  | call op k ih => exact ⟨h.1, fun ans => ih ans (h.2 ans)⟩
  | arm timer d k ih => exact ⟨h.1, fun deadline => ih deadline (h.2 deadline)⟩
  | await issued op k timers expired cleanup ihDone ihFire =>
    obtain ⟨here, done, fire, clean⟩ := h
    refine ⟨here, fun ans => ihDone ans (done ans), ?_, clean⟩
    intro j timer found
    exact ⟨(fire j timer found).1, ihFire j (fire j timer found).2⟩

theorem Uses.map (g : α → β) (p : Prog S α) (h : p.Uses A) :
    (p.bind fun a => .ret (g a)).Uses A := by
  refine Uses.bind ?_ p h
  intro a
  exact True.intro

theorem Uses.andThen {f : α → Prog S (Except ε β)} (next : ∀ a, (f a).Uses A)
    (p : Prog S (Except ε α)) (h : p.Uses A) : (p.andThen f).Uses A := by
  refine Uses.bind ?_ p h
  intro result
  cases result with
  | ok value => exact next value
  | error err => exact True.intro

theorem Uses.perform {op : S.Op} (h : A.op op) : (Prog.perform op).Uses A :=
  ⟨h, fun _ => True.intro⟩

theorem Uses.suspend {op : S.Op} (h : A.op op) : (Prog.suspend op).Uses A :=
  ⟨h, fun _ => True.intro, by simp, True.intro⟩

theorem Uses.ofSync (c : Sync S α) (h : c.Uses A) : (Prog.ofSync c).Uses A := by
  induction c with
  | ret value => exact True.intro
  | panic => exact h
  | call op k ih => exact ⟨h.1, fun ans => ih ans (h.2 ans)⟩

theorem Uses.withDeadline {timer : S.Timer} (deadline : Nat) (here : A.timer timer)
    (p : Prog S α) (h : p.Uses A) : (p.withDeadline timer deadline).Uses A := by
  induction p with
  | ret value => exact True.intro
  | panic => exact h
  | call op k ih => exact ⟨h.1, fun ans => ih ans (h.2 ans)⟩
  | arm timer' d k ih => exact ⟨h.1, fun inner => ih inner (h.2 inner)⟩
  | await issued op k timers expired cleanup ihDone ihFire =>
    obtain ⟨used, done, fire, clean⟩ := h
    refine ⟨used, fun ans => ihDone ans (done ans), ?_, clean⟩
    intro j timer' found
    by_cases inner : j < timers.length
    · rw [List.getElem?_append_left inner] at found
      simp only [if_pos inner]
      exact ⟨(fire j timer' found).1, ihFire j (fire j timer' found).2⟩
    · rw [List.getElem?_append_right (Nat.le_of_not_lt inner)] at found
      have outer := List.mem_singleton.mp (List.mem_of_getElem? found)
      subst outer
      simp only [if_neg inner]
      exact ⟨here, Uses.map _ _ (Uses.ofSync cleanup clean)⟩

theorem Uses.timeout {timer : S.Timer} {d : Nat} (here : A.timer timer) (p : Prog S α)
    (h : p.Uses A) : (p.timeout timer d).Uses A :=
  ⟨here, fun deadline => Uses.withDeadline deadline here p h⟩

theorem Uses.timed {timer : S.Timer} {d : Nat} {elapsed : ε} {failed : ε' → ε}
    (here : A.timer timer) (p : Prog S (Except ε' α)) (h : p.Uses A) :
    (p.timed timer d elapsed failed).Uses A := by
  refine Uses.bind ?_ _ (Uses.timeout here p h)
  intro result
  rcases result with _ | _ | _ <;> exact True.intro

/-- A guard is used like the rest, and runs while unwinding only if the program
may unwind. -/
theorem Uses.guarded {guard : Sync S Unit} (clean : guard.Uses A) (p : Prog S α)
    (h : p.Uses A) : (p.guarded guard).Uses A := by
  induction p with
  | ret value => exact True.intro
  | panic =>
    have unwound : ∀ value : Unit, (Prog.panic : Prog S α).Uses A := fun _ => h
    exact Uses.bind unwound _ (Uses.ofSync guard clean)
  | call op k ih => exact ⟨h.1, fun ans => ih ans (h.2 ans)⟩
  | arm timer d k ih => exact ⟨h.1, fun deadline => ih deadline (h.2 deadline)⟩
  | await issued op k timers expired cleanup ihDone ihFire =>
    obtain ⟨here, done, fire, cleaned⟩ := h
    refine ⟨here, fun ans => ihDone ans (done ans), ?_, Sync.Uses.ensuring clean cleanup cleaned⟩
    intro j timer found
    exact ⟨(fire j timer found).1, ihFire j (fire j timer found).2⟩

end Prog

/-- The labels of the alphabet lead from one state in `I` to another, and pass. -/
def Monitor.Keeps (m : Monitor S σ) (A : Alphabet S) (I : σ → Prop) : Prop :=
  ∀ s t l, A.Has l → I s → m.check s t l ∧ I (m.next s t l)

theorem Monitor.IgnoresAll.keeps {m : Monitor S σ} {A : Alphabet S} (ignores : m.IgnoresAll A)
    (I : σ → Prop) : m.Keeps A I := by
  intro s t l has inv
  obtain ⟨still, passes⟩ := ignores s t l has
  rw [still]
  exact ⟨passes, inv⟩

namespace Sync

variable {A : Alphabet S} {m : Monitor S σ} {pace : Pace}

theorem Sat.of_uses_keeping {P : Post σ α} {I : σ → Prop} (keeps : m.Keeps A I) (c : Sync S α) :
    ∀ {t s}, c.Uses A → I s → (∀ a t' s', t ≤ t' → I s' → P.returned a t' s') →
      (A.unwinds → ∀ t' s', t ≤ t' → I s' → P.panicked t' s') → c.Sat m pace P t s := by
  induction c with
  | ret value =>
    intro t s _ inv returned _
    exact returned value t s (Nat.le_refl t) inv
  | panic =>
    intro t s unwinds inv _ panicked
    exact panicked unwinds t s (Nat.le_refl t) inv
  | call op k ih =>
    intro t s uses inv returned panicked t' ans elapsed _
    have kept := keeps s t' (.call op ans) uses.1 inv
    exact ⟨kept.1, ih ans (uses.2 ans) kept.2
      (fun a u s' later => returned a u s' (Nat.le_trans elapsed.1 later))
      (fun unwinds u s' later => panicked unwinds u s' (Nat.le_trans elapsed.1 later))⟩

theorem Sat.of_uses {P : Post σ α} (ignores : m.IgnoresAll A) (c : Sync S α) {t : Nat} {s : σ}
    (uses : c.Uses A) (returned : ∀ a t', t ≤ t' → P.returned a t' s)
    (panicked : A.unwinds → ∀ t', t ≤ t' → P.panicked t' s) : c.Sat m pace P t s := by
  refine Sat.of_uses_keeping (ignores.keeps (· = s)) c uses rfl ?_ ?_
  · rintro a t' _ later rfl
    exact returned a t' later
  · rintro unwinds t' _ later rfl
    exact panicked unwinds t' later

end Sync

namespace Prog

variable {A : Alphabet S} {m : Monitor S σ} {pace : Pace}

/-- A part that stays in an alphabet keeps the monitor where the alphabet does. -/
theorem Sat.of_uses_keeping {P : Post σ α} {I : σ → Prop} (keeps : m.Keeps A I) (p : Prog S α) :
    ∀ {t s}, p.Uses A → I s → (∀ t' s', t ≤ t' → I s' → m.rest s' t') →
      (∀ a t' s', t ≤ t' → I s' → P.returned a t' s') →
      (A.unwinds → ∀ t' s', t ≤ t' → I s' → P.panicked t' s') →
      (∀ t' s', t ≤ t' → I s' → P.dropped t' s') → p.Sat m pace P t s := by
  induction p with
  | ret value =>
    intro t s _ inv _ returned _ _
    exact returned value t s (Nat.le_refl t) inv
  | panic =>
    intro t s unwinds inv _ _ panicked _
    exact panicked unwinds t s (Nat.le_refl t) inv
  | call op k ih =>
    intro t s uses inv rest returned panicked dropped t' ans elapsed _
    have kept := keeps s t' (.call op ans) uses.1 inv
    exact ⟨kept.1, ih ans (uses.2 ans) kept.2
      (fun u s' later => rest u s' (Nat.le_trans elapsed.1 later))
      (fun a u s' later => returned a u s' (Nat.le_trans elapsed.1 later))
      (fun unwinds u s' later => panicked unwinds u s' (Nat.le_trans elapsed.1 later))
      (fun u s' later => dropped u s' (Nat.le_trans elapsed.1 later))⟩
  | arm timer d k ih =>
    intro t s uses inv rest returned panicked dropped t' elapsed _
    have kept := keeps s t' (.arm timer (t' + d)) uses.1 inv
    exact ⟨kept.1, ih _ (uses.2 _) kept.2
      (fun u s' later => rest u s' (Nat.le_trans elapsed.1 later))
      (fun a u s' later => returned a u s' (Nat.le_trans elapsed.1 later))
      (fun unwinds u s' later => panicked unwinds u s' (Nat.le_trans elapsed.1 later))
      (fun u s' later => dropped u s' (Nat.le_trans elapsed.1 later))⟩
  | await issued op k timers expired cleanup ihDone ihFire =>
    have parked : ∀ {t s}, (Prog.await true op k timers expired cleanup).Uses A → I s →
        (∀ t' s', t ≤ t' → I s' → m.rest s' t') →
        (∀ a t' s', t ≤ t' → I s' → P.returned a t' s') →
        (A.unwinds → ∀ t' s', t ≤ t' → I s' → P.panicked t' s') →
        (∀ t' s', t ≤ t' → I s' → P.dropped t' s') →
        (Prog.await true op k timers expired cleanup).Sat m pace P t s := by
      intro t s uses inv rest returned panicked dropped t' waits
      obtain ⟨here, done, fire, clean⟩ := uses
      refine ⟨rest t' s waits.1 inv, ?_, ?_, ?_⟩
      · intro ans _
        have kept := keeps s t' (.done op ans) here inv
        exact ⟨kept.1, ihDone ans (done ans) kept.2
          (fun u s' later => rest u s' (Nat.le_trans waits.1 later))
          (fun a u s' later => returned a u s' (Nat.le_trans waits.1 later))
          (fun unwinds u s' later => panicked unwinds u s' (Nat.le_trans waits.1 later))
          (fun u s' later => dropped u s' (Nat.le_trans waits.1 later))⟩
      · intro j timer deadline found _ _
        have kept := keeps s t' (.fire j timer deadline) (fire j _ found).1 inv
        exact ⟨kept.1, ihFire j (fire j _ found).2 kept.2
          (fun u s' later => rest u s' (Nat.le_trans waits.1 later))
          (fun a u s' later => returned a u s' (Nat.le_trans waits.1 later))
          (fun unwinds u s' later => panicked unwinds u s' (Nat.le_trans waits.1 later))
          (fun u s' later => dropped u s' (Nat.le_trans waits.1 later))⟩
      · exact Sync.Sat.of_uses_keeping keeps cleanup clean inv
          (fun _ u s' later => dropped u s' (Nat.le_trans waits.1 later))
          (fun unwinds u s' later => panicked unwinds u s' (Nat.le_trans waits.1 later))
    cases issued with
    | true =>
      intro t s uses inv rest returned panicked dropped
      exact parked uses inv rest returned panicked dropped
    | false =>
      intro t s uses inv rest returned panicked dropped t' elapsed _
      have kept := keeps s t' (.issue op) uses.1 inv
      exact ⟨kept.1, parked uses kept.2
        (fun u s' later => rest u s' (Nat.le_trans elapsed.1 later))
        (fun a u s' later => returned a u s' (Nat.le_trans elapsed.1 later))
        (fun unwinds u s' later => panicked unwinds u s' (Nat.le_trans elapsed.1 later))
        (fun u s' later => dropped u s' (Nat.le_trans elapsed.1 later))⟩

/-- A part that stays in an ignored alphabet leaves the monitor alone. -/
theorem Sat.of_uses {P : Post σ α} (ignores : m.IgnoresAll A) (p : Prog S α) {t : Nat} {s : σ}
    (uses : p.Uses A) (rest : ∀ t', t ≤ t' → m.rest s t')
    (returned : ∀ a t', t ≤ t' → P.returned a t' s)
    (panicked : A.unwinds → ∀ t', t ≤ t' → P.panicked t' s)
    (dropped : ∀ t', t ≤ t' → P.dropped t' s) : p.Sat m pace P t s := by
  refine Sat.of_uses_keeping (ignores.keeps (· = s)) p uses rfl ?_ ?_ ?_ ?_
  · rintro t' _ later rfl
    exact rest t' later
  · rintro a t' _ later rfl
    exact returned a t' later
  · rintro unwinds t' _ later rfl
    exact panicked unwinds t' later
  · rintro t' _ later rfl
    exact dropped t' later

end Prog

/-- The monitor that only compares labels with an alphabet. -/
def Alphabet.monitor (A : Alphabet S) : Monitor S Unit where
  next _ _ _ := ()
  assume _ _ _ := True
  check _ _ l := A.Has l
  rest _ _ := True

theorem Monitor.Passes.has {A : Alphabet S} {log : List (Entry S)} :
    A.monitor.Passes () log → ∀ e ∈ log, A.Has e.label := by
  induction log with
  | nil => intro _ e logged; cases logged
  | cons first rest ih =>
    intro passes e logged
    rcases List.mem_cons.mp logged with rfl | later
    · exact passes.1
    · exact ih passes.2 e later

/-- In any interleaving, a task performs only what its program uses. -/
theorem Reachable.uses {Y : System S} {pace : Pace} {clock : Nat} {shared : Y.Shared}
    {A : Y.Job → Alphabet S} (uses : ∀ job, (Y.program job).Uses (A job)) {w : World Y}
    (h : Reachable pace (.start clock shared) w) {i : Nat} {task : Task Y}
    (found : w.tasks[i]? = some task) : ∀ e ∈ w.logOf i, (A task.job).Has e.label := by
  have verified : ∀ job t, (Y.program job).Sat (A job).monitor pace
      ⟨fun _ _ _ => True, fun _ _ => True, fun _ _ => True⟩ t () := by
    intro job t
    refine Prog.Sat.of_uses ?_ _ (uses job) ?_ ?_ ?_ ?_
    · exact fun _ _ _ has => ⟨rfl, has⟩
    · exact fun _ _ => True.intro
    · exact fun _ _ _ => True.intro
    · exact fun _ _ _ => True.intro
    · exact fun _ _ => True.intro
  have admits := Monitor.admits_of_trivial (A task.job).monitor
    (fun _ _ _ => True.intro) () (w.logOf i)
  have passed := h.sat verified found admits
  exact passed.1.has

end MechanicsHttpClient.Runtime
