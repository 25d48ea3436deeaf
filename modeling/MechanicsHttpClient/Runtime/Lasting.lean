import MechanicsHttpClient.Runtime.Alphabet

/-!
# How long a program can take

In a strict run a program whose every suspension point is under a timeout is
over after the sum of the timeouts it can go through. `Lasts A d p` says so of
`p` for all monitors that ignore the alphabet `A`; durations add up along
`bind`, and a timeout bounds whatever it encloses.
-/

namespace MechanicsHttpClient.Runtime

variable {S : Signature} {σ α β ε ε' : Type} {A : Alphabet S}

/-- Started at `t`, the program rests, ends and is dropped no later than `t + d`. -/
def Prog.Lasts (A : Alphabet S) (d : Nat) (p : Prog S α) : Prop :=
  ∀ (σ : Type) (m : Monitor S σ) (P : Post σ α) (t : Nat) (s : σ), m.IgnoresAll A →
    (∀ t', t ≤ t' → t' ≤ t + d → m.rest s t' ∧ (∀ value, P.returned value t' s) ∧
      (A.unwinds → P.panicked t' s) ∧ P.dropped t' s) →
    p.Sat m .strict P t s

namespace Prog

theorem Lasts.ret (value : α) (d : Nat) : (Prog.ret value : Prog S α).Lasts A d := by
  intro σ m P t s _ inside
  exact (inside t (Nat.le_refl t) (Nat.le_add_right t d)).2.1 value

theorem Lasts.mono {p : Prog S α} {d d' : Nat} (le : d ≤ d') (h : p.Lasts A d) :
    p.Lasts A d' := by
  intro σ m P t s ignores inside
  refine h σ m P t s ignores ?_
  intro t' later bounded
  exact inside t' later (by omega)

theorem Lasts.widen {B : Alphabet S} {p : Prog S α} {d : Nat} (sub : A.Within B)
    (h : p.Lasts A d) : p.Lasts B d := by
  intro σ m P t s ignores inside
  refine h σ m P t s (ignores.within sub) ?_
  intro t' later bounded
  have here := inside t' later bounded
  exact ⟨here.1, here.2.1, fun unwinds => here.2.2.1 (sub.unwinds unwinds), here.2.2.2⟩

/-- A synchronous operation takes no time. -/
theorem Lasts.perform {op : S.Op} (here : A.op op) (d : Nat) : (Prog.perform op).Lasts A d := by
  intro σ m P t s ignores inside t' ans elapsed _
  have now : t' = t := elapsed.2 rfl
  obtain ⟨still, passes⟩ := ignores s t' (.call op ans) here
  refine ⟨passes, ?_⟩
  rw [still, now]
  exact (inside t (Nat.le_refl t) (Nat.le_add_right t d)).2.1 ans

theorem Lasts.ofSync (d : Nat) (c : Sync S α) (uses : c.Uses A) : (Prog.ofSync c).Lasts A d := by
  induction c with
  | ret value => exact Lasts.ret value d
  | panic =>
    intro σ m P t s _ inside
    exact (inside t (Nat.le_refl t) (Nat.le_add_right t d)).2.2.1 uses
  | call op k ih =>
    intro σ m P t s ignores inside t' ans elapsed _
    have now : t' = t := elapsed.2 rfl
    obtain ⟨still, passes⟩ := ignores s t' (.call op ans) uses.1
    refine ⟨passes, ?_⟩
    rw [still, now]
    exact ih ans (uses.2 ans) σ m P t s ignores inside

theorem Lasts.bind {f : α → Prog S β} {p : Prog S α} {d d' : Nat} (first : p.Lasts A d)
    (next : ∀ value, (f value).Lasts A d') : (p.bind f).Lasts A (d + d') := by
  intro σ m P t s ignores inside
  refine Sat.bind p (first σ m _ t s ignores ?_)
  intro t' later bounded
  have here := inside t' later (by omega)
  refine ⟨here.1, ?_, here.2.2.1, here.2.2.2⟩
  intro value
  refine next value σ m P t' s ignores ?_
  intro t'' later' bounded'
  exact inside t'' (by omega) (by omega)

theorem Lasts.andThen {f : α → Prog S (Except ε β)} {p : Prog S (Except ε α)} {d d' : Nat}
    (first : p.Lasts A d) (next : ∀ value, (f value).Lasts A d') :
    (p.andThen f).Lasts A (d + d') := by
  refine Lasts.bind first ?_
  intro result
  cases result with
  | ok value => exact next value
  | error err => exact Lasts.ret _ d'

/-- A timeout bounds what it encloses. -/
theorem Lasts.timeout {timer : S.Timer} {d : Nat} {p : Prog S α} (here : A.timer timer)
    (uses : p.Uses A) : (p.timeout timer d).Lasts A d := by
  intro σ m P t s ignores inside
  refine Sat.timeout ?_
  intro t' elapsed _
  have now : t' = t := elapsed.2 rfl
  subst now
  obtain ⟨still, passes⟩ := ignores s t' (.arm timer (t' + d)) here
  refine ⟨passes, fun s u j => ignores s u (.fire j timer (t' + d)) here, ?_⟩
  rw [still]
  have within : (m.within .strict (t' + d)).IgnoresAll A := fun s u label has => ignores s u label has
  refine Sat.of_uses within p uses ?_ ?_ ?_ ?_
  · intro u later inTime
    exact (inside u later (inTime rfl)).1
  · intro value u later inTime
    exact (inside u later (inTime rfl)).2.1 _
  · intro unwinds u later inTime
    exact (inside u later (inTime rfl)).2.2.1 unwinds
  · intro u later inTime
    have cut := inside u later (inTime rfl)
    exact ⟨cut.2.1 none, cut.2.2.2⟩

theorem Lasts.timed {timer : S.Timer} {d : Nat} {elapsed : ε} {failed : ε' → ε}
    {p : Prog S (Except ε' α)} (here : A.timer timer) (uses : p.Uses A) :
    (p.timed timer d elapsed failed).Lasts A d := by
  refine Lasts.mono (Nat.le_refl (d + 0)) (Lasts.bind (Lasts.timeout here uses) ?_)
  intro result
  rcases result with _ | err | value <;> exact Lasts.ret _ 0

end Prog

def Alphabet.everything : Alphabet S := ⟨fun _ => True, fun _ => True, True⟩

theorem Alphabet.within_everything (A : Alphabet S) : A.Within .everything :=
  ⟨fun _ _ => True.intro, fun _ _ => True.intro, fun _ => True.intro⟩

/-- The state is the start of the task; where its bound is known, it rests within it. -/
def boundMonitor (bound : Option Nat) : Monitor S Nat where
  next start _ _ := start
  assume _ _ _ := True
  check _ _ _ := True
  rest start t := ∀ d, bound = some d → t ≤ start + d

theorem boundMonitor_run (bound : Option Nat) (start : Nat) (log : List (Entry S)) :
    (boundMonitor bound).run start log = start := by
  induction log with
  | nil => rfl
  | cons e rest ih => exact ih

theorem Prog.Lasts.sat {p : Prog S α} {bound : Option Nat}
    (lasts : ∀ d, bound = some d → p.Lasts .everything d) (t : Nat) :
    p.Sat (boundMonitor bound) .strict (⟨fun _ _ _ => True, fun _ _ => True, fun _ _ => True⟩ :
      Post Nat α) t t := by
  cases known : bound with
  | none =>
    refine Sat.of_invariant (I := fun _ => True) (fun _ _ _ _ => ⟨True.intro, True.intro⟩) ?_ (fun _ _ _ _ => True.intro)
      (fun _ _ _ => True.intro) (fun _ _ _ => True.intro) p True.intro
    intro start t _ d no
    cases no
  | some d =>
    refine lasts d known Nat _ _ t t (fun _ _ _ _ => ⟨rfl, True.intro⟩) ?_
    intro t' _ inBound
    refine ⟨?_, fun _ => True.intro, fun _ => True.intro, True.intro⟩
    intro d' same
    cases same
    exact inBound

/-- In a strict run a task whose program lasts `d` is over when `d` has passed. -/
theorem Reachable.lasts {Y : System S} {bound : Y.Job → Option Nat}
    (lasts : ∀ job d, bound job = some d → (Y.program job).Lasts .everything d) {clock : Nat}
    {shared : Y.Shared} {w : World Y} (h : Reachable .strict (.start clock shared) w) {i : Nat}
    {task : Task Y} (found : w.tasks[i]? = some task) (unfinished : task.body.unfinished = true)
    {d : Nat} (bounded : bound task.job = some d) : w.clock ≤ task.spawned + d := by
  have verified : ∀ job t, (Y.program job).Sat (boundMonitor (bound job)) .strict
      (⟨fun _ _ _ => True, fun _ _ => True, fun _ _ => True⟩ : Post Nat Y.Result) t t :=
    fun job t => Prog.Lasts.sat (lasts job) t
  have admits := Monitor.admits_of_trivial (boundMonitor (bound task.job))
    (fun _ _ _ => True.intro) task.spawned (w.logOf i)
  have starts : ∀ (job : Y.Job) (t : Nat), (boundMonitor (bound job) : Monitor S Nat).rest t t :=
    fun _ t d _ => Nat.le_add_right t d
  have inBound := Reachable.prompt rfl verified starts (fun _ _ _ _ _ _ _ rests => rests)
    (fun _ _ _ _ rests => rests) h found admits unfinished
  rw [boundMonitor_run] at inBound
  exact inBound d bounded

end MechanicsHttpClient.Runtime
