import MechanicsHttpClient.Runtime.Monitor

/-!
# Verified programs in interleaved runs

If every job's program satisfies its monitor, then in every reachable world the
log of every task passes the monitor, and the rest of the task's program still
satisfies it at the present clock. No assumption is made about the other tasks.
-/

namespace MechanicsHttpClient.Runtime

variable {S : Signature} {σ α : Type} {pace : Pace}

namespace Monitor

/-- The monitor's state after a log. -/
def run (m : Monitor S σ) (s : σ) : List (Entry S) → σ
  | [] => s
  | e :: rest => m.run (m.next s e.time e.label) rest

def Admits (m : Monitor S σ) (s : σ) : List (Entry S) → Prop
  | [] => True
  | e :: rest => m.assume s e.time e.label ∧ m.Admits (m.next s e.time e.label) rest

def Passes (m : Monitor S σ) (s : σ) : List (Entry S) → Prop
  | [] => True
  | e :: rest => m.check s e.time e.label ∧ m.Passes (m.next s e.time e.label) rest

variable (m : Monitor S σ)

@[simp] theorem run_append (s : σ) (before after : List (Entry S)) :
    m.run s (before ++ after) = m.run (m.run s before) after := by
  induction before generalizing s with
  | nil => rfl
  | cons e rest ih => exact ih _

@[simp] theorem admits_append (s : σ) (before after : List (Entry S)) :
    m.Admits s (before ++ after) ↔ m.Admits s before ∧ m.Admits (m.run s before) after := by
  induction before generalizing s with
  | nil => simp [Admits, run]
  | cons e rest ih => simp [Admits, run, ih, and_assoc]

@[simp] theorem passes_append (s : σ) (before after : List (Entry S)) :
    m.Passes s (before ++ after) ↔ m.Passes s before ∧ m.Passes (m.run s before) after := by
  induction before generalizing s with
  | nil => simp [Passes, run]
  | cons e rest ih => simp [Passes, run, ih, and_assoc]

/-- What was checked at one entry of a log that passed. -/
theorem Passes.at {s : σ} {log before after : List (Entry S)} {e : Entry S}
    (passes : m.Passes s log) (split : log = before ++ e :: after) :
    m.check (m.run s before) e.time e.label := by
  rw [split, passes_append] at passes
  exact passes.2.1

/-- Assumptions that do not depend on the state are checked entry by entry. -/
theorem admits_of_forall {log : List (Entry S)}
    (h : ∀ e ∈ log, ∀ s, m.assume s e.time e.label) (s : σ) : m.Admits s log := by
  induction log generalizing s with
  | nil => exact True.intro
  | cons e rest ih =>
    exact ⟨h e List.mem_cons_self s, ih (fun e' mem => h e' (List.mem_cons_of_mem _ mem)) _⟩

/-- A monitor without assumptions admits every log. -/
theorem admits_of_trivial (trivial : ∀ s t l, m.assume s t l) (s : σ) (log : List (Entry S)) :
    m.Admits s log := by
  induction log generalizing s with
  | nil => exact True.intro
  | cons e rest ih => exact ⟨trivial _ _ _, ih _⟩

/-- A flag that some labels set and none resets. -/
theorem run_flag {flag : σ → Bool} {sets : Label S → Bool}
    (next : ∀ s t l, flag (m.next s t l) = (flag s || sets l)) (s : σ) (log : List (Entry S)) :
    flag (m.run s log) = (flag s || log.any fun e => sets e.label) := by
  induction log generalizing s with
  | nil => simp [run]
  | cons e rest ih => rw [run, ih, next, List.any_cons, Bool.or_assoc]

end Monitor

/-- How far the clock may be from the instant `t` of the last instruction. -/
def Prog.Live (pace : Pace) (t clock : Nat) : Prog S α → Prop
  | .ret _ => t ≤ clock
  | .panic => t ≤ clock
  | .await true _ _ timers _ _ => Waits pace timers t clock
  | .await false _ _ _ _ _ => Elapses pace t clock
  | .call _ _ => Elapses pace t clock
  | .arm _ _ _ => Elapses pace t clock

namespace Prog

theorem Live.now (pace : Pace) (clock : Nat) (p : Prog S α) : p.Live pace clock clock := by
  cases p with
  | ret value => exact Nat.le_refl _
  | panic => exact Nat.le_refl _
  | call op k => exact Elapses.refl _ _
  | arm timer d k => exact Elapses.refl _ _
  | await issued op k timers expired cleanup =>
    cases issued with
    | true => exact Waits.refl _ _ _
    | false => exact Elapses.refl _ _

theorem Live.tick {t clock horizon : Nat} {p : Prog S α} (live : p.Live pace t clock)
    (later : clock ≤ horizon) (rests : p.lets pace horizon = true) :
    p.Live pace t horizon := by
  cases p with
  | ret value => exact Nat.le_trans live later
  | panic => exact Nat.le_trans live later
  | call op k =>
    exact ⟨Nat.le_trans live.1 later,
      fun instant => absurd (resting_of_lets instant rests) Bool.false_ne_true⟩
  | arm timer d k =>
    exact ⟨Nat.le_trans live.1 later,
      fun instant => absurd (resting_of_lets instant rests) Bool.false_ne_true⟩
  | await issued op k timers expired cleanup =>
    cases issued with
    | true =>
      refine ⟨Nat.le_trans live.1 later, fun isStrict => .inr ?_⟩
      subst isStrict
      simpa [lets, restsUntil] using rests
    | false =>
      exact ⟨Nat.le_trans live.1 later,
        fun instant => absurd (resting_of_lets instant rests) Bool.false_ne_true⟩

variable {m : Monitor S σ}

/-- One step of a verified program: the label passes, and the rest is verified. -/
theorem Sat.step {P : Post σ α} {p p' : Prog S α} {label : Label S} {t now : Nat} {s : σ}
    (h : p.Sat m pace P t s) (live : p.Live pace t now)
    (stepped : p.step now label = some p') (admitted : m.assume s now label) :
    m.check s now label ∧ p'.Sat m pace P now (m.next s now label) := by
  cases p with
  | ret value => cases label <;> cases stepped
  | panic => cases label <;> cases stepped
  | call op k =>
    cases label with
    | call op' ans =>
      simp only [Prog.step] at stepped
      split at stepped
      · rename_i same
        subst same
        cases stepped
        exact h now ans live admitted
      · cases stepped
    | _ => cases stepped
  | arm timer d k =>
    cases label with
    | arm timer' deadline =>
      simp only [Prog.step] at stepped
      split at stepped
      · rename_i same
        obtain ⟨rfl, rfl⟩ := same
        cases stepped
        exact h now live admitted
      · cases stepped
    | _ => cases stepped
  | await issued op k timers expired cleanup =>
    cases issued with
    | false =>
      cases label with
      | issue op' =>
        simp only [Prog.step] at stepped
        split at stepped
        · rename_i same
          subst same
          cases stepped
          exact h now live admitted
        · cases stepped
      | _ => cases stepped
    | true =>
      obtain ⟨rest, done, fire, drop⟩ := h now live
      cases label with
      | done op' ans =>
        simp only [Prog.step] at stepped
        split at stepped
        · rename_i same
          subst same
          cases stepped
          exact done ans admitted
        · cases stepped
      | fire j timer deadline =>
        simp only [Prog.step] at stepped
        split at stepped
        · rename_i due
          cases stepped
          exact fire j timer deadline due.1 due.2 admitted
        · cases stepped
      | _ => cases stepped

end Prog

namespace Body

variable {m : Monitor S σ} {ρ : Type}

def Live (pace : Pace) (t clock : Nat) : Body S ρ → Prop
  | .running p => p.Live pace t clock
  | .dropping p => p.Live pace t clock

def Sat (m : Monitor S σ) (pace : Pace) (P : Post σ ρ) (t : Nat) (s : σ) : Body S ρ → Prop
  | .running p => p.Sat m pace P t s
  | .dropping p => p.Sat m pace P.afterDrop t s

theorem Live.now (pace : Pace) (clock : Nat) (b : Body S ρ) : b.Live pace clock clock := by
  cases b <;> exact Prog.Live.now _ _ _

theorem Live.tick {t clock horizon : Nat} {b : Body S ρ} (live : b.Live pace t clock)
    (later : clock ≤ horizon) (rests : b.lets pace horizon = true) :
    b.Live pace t horizon := by
  cases b with
  | running p => exact Prog.Live.tick live later rests
  | dropping p => exact Prog.Live.tick live later rests

theorem Sat.step {P : Post σ ρ} {b b' : Body S ρ} {label : Label S} {t now : Nat} {s : σ}
    (h : b.Sat m pace P t s) (live : b.Live pace t now)
    (stepped : b.step now label = some b') (admitted : m.assume s now label) :
    m.check s now label ∧ b'.Sat m pace P now (m.next s now label) := by
  cases b with
  | running p =>
    simp only [Body.step, Option.map_eq_some_iff] at stepped
    obtain ⟨p', inner, rfl⟩ := stepped
    exact Prog.Sat.step h live inner admitted
  | dropping p =>
    simp only [Body.step, Option.map_eq_some_iff] at stepped
    obtain ⟨p', inner, rfl⟩ := stepped
    exact Prog.Sat.step h live inner admitted

theorem Sat.drop {P : Post σ ρ} {b b' : Body S ρ} {t now : Nat} {s : σ}
    (h : b.Sat m pace P t s) (live : b.Live pace t now) (dropped : b.drop = some b') :
    b'.Sat m pace P now s := by
  cases b with
  | running p =>
    simp only [Body.drop, Option.map_eq_some_iff] at dropped
    obtain ⟨cleanup, suspended, rfl⟩ := dropped
    unfold Prog.dropped at suspended
    split at suspended
    · cases suspended
      exact Prog.Sat.ofSync _ (h now live).2.2.2
    · cases suspended
  | dropping p => cases dropped

/-- While suspended, a verified task keeps the resting condition. -/
theorem Sat.rest {P : Post σ ρ} {b : Body S ρ} {t clock : Nat} {s : σ}
    (h : b.Sat m pace P t s) (live : b.Live pace t clock) (resting : b.resting = true)
    (unfinished : b.unfinished = true) : m.rest s clock := by
  have parked : ∀ {ρ' : Type} {P' : Post σ ρ'} {p : Prog S ρ'}, p.Sat m pace P' t s →
      p.Live pace t clock → p.resting = true → (∀ value, p ≠ .ret value) → p ≠ .panic →
      m.rest s clock := by
    intro ρ' P' p h live resting noRet noPanic
    unfold Prog.resting at resting
    split at resting
    · exact absurd rfl (noRet _)
    · exact absurd rfl noPanic
    · exact (h clock live).1
    · cases resting
  cases b with
  | running p =>
    exact parked h live resting (fun value e => by subst e; cases unfinished)
      (fun e => by subst e; cases unfinished)
  | dropping p =>
    exact parked h live resting (fun value e => by subst e; cases unfinished)
      (fun e => by subst e; cases unfinished)

end Body

variable {Y : System S}

/-- Only spawned tasks are logged. -/
theorem Reachable.log_tasks {clock : Nat} {shared : Y.Shared} {w : World Y}
    (h : Reachable pace (.start clock shared) w) : ∀ e ∈ w.log, e.task < w.tasks.length := by
  induction h with
  | refl => simp [World.start]
  | next event before step ih =>
    rcases World.next_cases step with
      ⟨horizon, -, -, -, rfl⟩ | ⟨job, -, rfl⟩ |
      ⟨i, label, task, body, shared', -, found, -, -, rfl⟩ | ⟨i, task, body, -, -, -, rfl⟩
    · exact ih
    · intro e logged
      have old := ih e logged
      simp only [List.length_append, List.length_singleton]
      omega
    · intro e logged
      simp only [List.length_set]
      rcases List.mem_append.mp logged with old | new
      · exact ih e old
      · rw [List.mem_singleton.mp new]
        exact (List.getElem?_eq_some_iff.mp found).1
    · simpa using ih

/-- A logged instruction belongs to a task, and to that task's log. -/
theorem Reachable.task_of_entry {clock : Nat} {shared : Y.Shared} {w : World Y}
    (h : Reachable pace (.start clock shared) w) {e : Entry S} (logged : e ∈ w.log) :
    ∃ task, w.tasks[e.task]? = some task ∧ e ∈ w.logOf e.task := by
  have bound := h.log_tasks e logged
  refine ⟨w.tasks[e.task], List.getElem?_eq_getElem bound, ?_⟩
  simp [World.logOf, logged]

theorem World.mem_log_of_logOf {w : World Y} {i : Nat} {e : Entry S} (h : e ∈ w.logOf i) :
    e ∈ w.log := (List.mem_filter.mp h).1

theorem World.logOf_eq_nil {w : World Y} {i : Nat}
    (bounded : ∀ e ∈ w.log, e.task < w.tasks.length) (fresh : w.tasks.length ≤ i) :
    w.logOf i = [] := by
  simp only [World.logOf, List.filter_eq_nil_iff, beq_iff_eq]
  intro e logged same
  have := bounded e logged
  omega

theorem World.logOf_grown (w : World Y) (i : Nat) (shared : Y.Shared) (tasks : List (Task Y))
    (label : Label S) :
    World.logOf ⟨w.clock, shared, tasks, w.log ++ [⟨i, w.clock, label⟩]⟩ i =
      w.logOf i ++ [⟨i, w.clock, label⟩] := by
  simp [World.logOf]

theorem World.logOf_other (w : World Y) {i j : Nat} (shared : Y.Shared) (tasks : List (Task Y))
    (label : Label S) (other : j ≠ i) :
    World.logOf ⟨w.clock, shared, tasks, w.log ++ [⟨j, w.clock, label⟩]⟩ i = w.logOf i := by
  simp [World.logOf, other]

/-- A task of the list after task `j` has been replaced. -/
theorem getElem?_of_set {τ : Type} {tasks : List τ} {i j : Nat} {old new task : τ}
    (atJ : tasks[j]? = some old) (found : (tasks.set j new)[i]? = some task) :
    (j = i ∧ task = new) ∨ (j ≠ i ∧ tasks[i]? = some task) := by
  by_cases same : j = i
  · subst same
    have bound := (List.getElem?_eq_some_iff.mp atJ).1
    rw [List.getElem?_set_self bound, Option.some.injEq] at found
    exact .inl ⟨rfl, found.symm⟩
  · rw [List.getElem?_set_ne same] at found
    exact .inr ⟨same, found⟩

/-- A task of the list after one has been added. -/
theorem getElem?_of_snoc {τ : Type} {tasks : List τ} {i : Nat} {new task : τ}
    (found : (tasks ++ [new])[i]? = some task) :
    tasks[i]? = some task ∨ (tasks.length ≤ i ∧ task = new) := by
  rcases Nat.lt_or_ge i tasks.length with old | fresh
  · rw [List.getElem?_append_left old] at found
    exact .inl found
  · rw [List.getElem?_append_right fresh] at found
    exact .inr ⟨fresh, List.mem_singleton.mp (List.mem_of_getElem? found)⟩

/-- A task whose program is over at once never does anything. -/
theorem Reachable.over_at_once {clock : Nat} {shared : Y.Shared} {value : Y.Result} {w : World Y}
    (h : Reachable pace (.start clock shared) w) :
    ∀ {i : Nat} {task : Task Y}, w.tasks[i]? = some task → Y.program task.job = .ret value →
      task.body = .running (.ret value) ∧ w.logOf i = [] := by
  induction h with
  | refl => intro i task found; simp [World.start] at found
  | @next w w' event before step ih =>
    have bounded := before.log_tasks
    rcases World.next_cases step with
      ⟨horizon, -, -, -, rfl⟩ | ⟨job, -, rfl⟩ |
      ⟨j, label, stepping, body, shared', -, atJ, stepped, -, rfl⟩ |
      ⟨j, dropping, body, -, atJ, dropped, rfl⟩
    · intro i task found ends
      exact ih found ends
    · intro i task found ends
      rcases getElem?_of_snoc found with found | ⟨fresh, rfl⟩
      · exact ih found ends
      · have silent : w.logOf i = [] := World.logOf_eq_nil bounded fresh
        exact ⟨congrArg Body.running ends, silent⟩
    · intro i task found ends
      rcases getElem?_of_set atJ found with ⟨rfl, rfl⟩ | ⟨other, found⟩
      · rw [(ih atJ ends).1] at stepped
        cases label <;> cases stepped
      · rw [World.logOf_other w shared' _ label other]
        exact ih found ends
    · intro i task found ends
      rcases getElem?_of_set atJ found with ⟨rfl, rfl⟩ | ⟨other, found⟩
      · rw [(ih atJ ends).1] at dropped
        cases dropped
      · exact ih found ends

/-- The state of a task in a run, as its monitor sees it. -/
theorem Reachable.sat {clock : Nat} {shared : Y.Shared} {m : Y.Job → Monitor S σ}
    {P : Y.Job → Nat → Post σ Y.Result} {init : Y.Job → Nat → σ}
    (verified : ∀ job t, (Y.program job).Sat (m job) pace (P job t) t (init job t))
    {w : World Y} (h : Reachable pace (.start clock shared) w) :
    ∀ {i : Nat} {task : Task Y}, w.tasks[i]? = some task →
      (m task.job).Admits (init task.job task.spawned) (w.logOf i) →
      (m task.job).Passes (init task.job task.spawned) (w.logOf i) ∧
      ∃ t, task.body.Live pace t w.clock ∧
        task.body.Sat (m task.job) pace (P task.job task.spawned) t
          ((m task.job).run (init task.job task.spawned) (w.logOf i)) := by
  induction h with
  | refl => intro i task found; simp [World.start] at found
  | @next w w' event before step ih =>
    have bounded := before.log_tasks
    rcases World.next_cases step with
      ⟨horizon, -, later, rests, rfl⟩ | ⟨job, -, rfl⟩ |
      ⟨j, label, stepping, body, shared', -, atJ, stepped, -, rfl⟩ |
      ⟨j, dropping, body, -, atJ, dropped, rfl⟩
    · intro i task found admits
      obtain ⟨passes, t, live, sat⟩ := ih found admits
      exact ⟨passes, t, live.tick later (rests task (List.mem_of_getElem? found)), sat⟩
    · intro i task found admits
      rcases getElem?_of_snoc found with found | ⟨fresh, rfl⟩
      · exact ih found admits
      · change (m job).Admits _ (w.logOf i) at admits
        change (m job).Passes _ (w.logOf i) ∧ ∃ t, _ ∧
          Body.Sat (m job) pace _ t ((m job).run _ (w.logOf i)) _
        rw [World.logOf_eq_nil bounded fresh]
        exact ⟨True.intro, w.clock, Body.Live.now _ _ _, verified job w.clock⟩
    · intro i task found admits
      rcases getElem?_of_set atJ found with ⟨rfl, rfl⟩ | ⟨other, found⟩
      · have grown := World.logOf_grown w j shared' (w.tasks.set j { stepping with body }) label
        rw [grown, Monitor.admits_append] at admits
        obtain ⟨passes, t, live, sat⟩ := ih atJ admits.1
        have passed := sat.step live stepped admits.2.1
        rw [grown]
        refine ⟨?_, w.clock, Body.Live.now _ _ _, ?_⟩
        · rw [Monitor.passes_append]
          exact ⟨passes, passed.1, True.intro⟩
        · rw [Monitor.run_append]
          exact passed.2
      · have unchanged := World.logOf_other w shared' (w.tasks.set j { stepping with body }) label
          other
        rw [unchanged] at admits ⊢
        exact ih found admits
    · intro i task found admits
      rcases getElem?_of_set atJ found with ⟨rfl, rfl⟩ | ⟨other, found⟩
      · obtain ⟨passes, t, live, sat⟩ := ih atJ admits
        exact ⟨passes, w.clock, Body.Live.now _ _ _, sat.drop live dropped⟩
      · exact ih found admits

theorem Body.unfinished_of_step {ρ : Type} {now : Nat} {b b' : Body S ρ} {label : Label S}
    (h : b.step now label = some b') : b.unfinished = true := by
  cases b with
  | running p =>
    simp only [Body.step, Option.map_eq_some_iff] at h
    obtain ⟨p', stepped, -⟩ := h
    cases p with
    | ret value => cases label <;> cases stepped
    | panic => cases label <;> cases stepped
    | call op k => rfl
    | arm timer d k => rfl
    | await issued op k timers expired cleanup => rfl
  | dropping p =>
    simp only [Body.step, Option.map_eq_some_iff] at h
    obtain ⟨p', stepped, -⟩ := h
    cases p with
    | ret value => cases label <;> cases stepped
    | panic => cases label <;> cases stepped
    | call op k => rfl
    | arm timer d k => rfl
    | await issued op k timers expired cleanup => rfl

theorem Body.unfinished_of_drop {ρ : Type} {b b' : Body S ρ} (h : b.drop = some b') :
    b.unfinished = true := by
  cases b with
  | running p =>
    cases p with
    | ret value => cases h
    | panic => cases h
    | call op k => rfl
    | arm timer d k => rfl
    | await issued op k timers expired cleanup => rfl
  | dropping p => cases h

/-- Where instructions take no time, what holds of a task whenever it rests and
is kept by each of its instructions holds of it at every instant until it is
over: the clock only moves while the task rests. -/
theorem Reachable.prompt {clock : Nat} {shared : Y.Shared} {m : Y.Job → Monitor S σ}
    {P : Y.Job → Nat → Post σ Y.Result} {init : Y.Job → Nat → σ}
    {R : Y.Job → Nat → σ → Nat → Prop} (instant : pace.instant = true)
    (verified : ∀ job t, (Y.program job).Sat (m job) pace (P job t) t (init job t))
    (starts : ∀ job t, R job t (init job t) t)
    (moves : ∀ job t₀ s t l, (m job).assume s t l → (m job).check s t l → R job t₀ s t →
      R job t₀ ((m job).next s t l) t)
    (rests : ∀ job t₀ s t, (m job).rest s t → R job t₀ s t)
    {w : World Y} (h : Reachable pace (.start clock shared) w) :
    ∀ {i : Nat} {task : Task Y}, w.tasks[i]? = some task →
      (m task.job).Admits (init task.job task.spawned) (w.logOf i) →
      task.body.unfinished = true →
      R task.job task.spawned ((m task.job).run (init task.job task.spawned) (w.logOf i))
        w.clock := by
  induction h with
  | refl => intro i task found; simp [World.start] at found
  | @next w w' event before step ih =>
    have bounded := before.log_tasks
    rcases World.next_cases step with
      ⟨horizon, -, later, rests', rfl⟩ | ⟨job, -, rfl⟩ |
      ⟨j, label, stepping, body, shared', -, atJ, stepped, -, rfl⟩ |
      ⟨j, dropping, body, -, atJ, dropped, rfl⟩
    · intro i task found admits unfinished
      obtain ⟨-, t, live, sat⟩ := before.sat verified found admits
      have still := rests' task (List.mem_of_getElem? found)
      exact rests _ _ _ _ (sat.rest (live.tick later still) (Body.resting_of_lets instant still)
        unfinished)
    · intro i task found admits unfinished
      rcases getElem?_of_snoc found with found | ⟨fresh, rfl⟩
      · exact ih found admits unfinished
      · change R job w.clock ((m job).run _ (w.logOf i)) w.clock
        rw [World.logOf_eq_nil bounded fresh]
        exact starts job w.clock
    · intro i task found admits unfinished
      rcases getElem?_of_set atJ found with ⟨rfl, rfl⟩ | ⟨other, found⟩
      · have grown := World.logOf_grown w j shared' (w.tasks.set j { stepping with body }) label
        rw [grown, Monitor.admits_append] at admits
        have held := ih atJ admits.1 (Body.unfinished_of_step stepped)
        obtain ⟨-, t, live, sat⟩ := before.sat verified atJ admits.1
        rw [grown, Monitor.run_append]
        exact moves _ _ _ _ _ admits.2.1 (sat.step live stepped admits.2.1).1 held
      · have unchanged := World.logOf_other w shared' (w.tasks.set j { stepping with body }) label
          other
        rw [unchanged] at admits ⊢
        exact ih found admits unfinished
    · intro i task found admits unfinished
      rcases getElem?_of_set atJ found with ⟨rfl, rfl⟩ | ⟨other, found⟩
      · have held := ih atJ admits (Body.unfinished_of_drop dropped)
        exact held
      · exact ih found admits unfinished

/-- Every logged answer is one that the shared state gave at that point. -/
theorem Reachable.answered {clock : Nat} {shared : Y.Shared} {w : World Y}
    (h : Reachable pace (.start clock shared) w) {before after : List (Entry S)} {e : Entry S}
    (split : w.log = before ++ e :: after) :
    ∃ middle shared', replay Y shared before = some middle ∧
      Y.effect e.time middle e.label = some shared' ∧ replay Y shared' after = some w.shared := by
  have whole := h.replay_log
  rw [split, replay_append] at whole
  obtain ⟨middle, reached, rest⟩ := Option.bind_eq_some_iff.mp whole
  obtain ⟨shared', answered, finish⟩ := Option.bind_eq_some_iff.mp rest
  exact ⟨middle, shared', reached, answered, finish⟩

end MechanicsHttpClient.Runtime
