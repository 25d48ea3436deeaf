import MechanicsHttpClient.Runtime.Task

/-!
# Interleaved runs of tasks over shared state

A world has a clock, a shared state and any number of tasks. Each event is one
instruction of one task, the spawning or dropping of a task, or the passing of
time. Synchronous operations are answered by the shared state (`respond`);
what a suspended operation returns is chosen by the environment.

Three disciplines of time are distinguished. In a loose run the clock may move
between any two instructions. In a prompt run instructions take no time: the
clock moves only while every task is suspended or over. In a strict run it also
never passes the deadline of an armed timer, so a timer fires exactly when it is
due.

The log is history: no program reads it.
-/

namespace MechanicsHttpClient.Runtime

/-- Jobs with their programs, over a shared state that answers operations.
`respond op clock shared ans` is the shared state after `op` answered `ans`
there, and `none` when `ans` is not what the operation returns. -/
structure System (S : Signature) where
  Job : Type
  Result : Type
  Shared : Type
  program : Job → Prog S Result
  respond : (op : S.Op) → Nat → Shared → S.Ans op → Option Shared

inductive Pace where
  | loose | prompt | strict
  deriving DecidableEq

/-- Instructions take no time. -/
def Pace.instant : Pace → Bool
  | .loose => false
  | .prompt => true
  | .strict => true

theorem Pace.instant_of_strict {pace : Pace} (strict : pace = .strict) : pace.instant = true := by
  rw [strict]
  rfl

/-- A task is running its program, or has been dropped and is cleaning up. -/
inductive Body (S : Signature) (ρ : Type) where
  | running (p : Prog S ρ)
  | dropping (p : Prog S Unit)

/-- One instruction of one task, with the clock it was executed at. -/
structure Entry (S : Signature) where
  task : Nat
  time : Nat
  label : Label S

variable {S : Signature} {ρ : Type}

/-- As far as this program goes, the clock may move to `horizon`. -/
def Prog.lets {α : Type} (pace : Pace) (horizon : Nat) (p : Prog S α) : Bool :=
  match pace with
  | .loose => true
  | .prompt => p.resting
  | .strict => p.restsUntil horizon

theorem Prog.resting_of_lets {α : Type} {pace : Pace} {horizon : Nat} {p : Prog S α}
    (instant : pace.instant = true) (h : p.lets pace horizon = true) : p.resting = true := by
  cases pace with
  | loose => cases instant
  | prompt => exact h
  | strict =>
    simp only [Prog.lets, Prog.restsUntil] at h
    split at h
    · rfl
    · rfl
    · rfl
    · cases h

namespace Body

def step (now : Nat) : Body S ρ → Label S → Option (Body S ρ)
  | .running p, l => (p.step now l).map .running
  | .dropping p, l => (p.step now l).map .dropping

def drop : Body S ρ → Option (Body S ρ)
  | .running p => p.dropped.map fun cleanup => .dropping (.ofSync cleanup)
  | .dropping _ => none

def lets (pace : Pace) (horizon : Nat) : Body S ρ → Bool
  | .running p => p.lets pace horizon
  | .dropping p => p.lets pace horizon

/-- Suspended or over: no synchronous instruction of the task is due. -/
def resting : Body S ρ → Bool
  | .running p => p.resting
  | .dropping p => p.resting

theorem resting_of_lets {pace : Pace} {horizon : Nat} {b : Body S ρ}
    (instant : pace.instant = true) (h : b.lets pace horizon = true) : b.resting = true := by
  cases b with
  | running p => exact Prog.resting_of_lets instant h
  | dropping p => exact Prog.resting_of_lets instant h

/-- The task has neither returned, nor panicked, nor finished being dropped. -/
def unfinished : Body S ρ → Bool
  | .running (.ret _) => false
  | .running .panic => false
  | .dropping (.ret _) => false
  | .dropping .panic => false
  | _ => true

theorem unfinished_of_not_resting {b : Body S ρ} (h : b.resting = false) :
    b.unfinished = true := by
  unfold Body.unfinished
  split
  · cases h
  · cases h
  · cases h
  · cases h
  · rfl

end Body

structure Task (Y : System S) where
  job : Y.Job
  spawned : Nat
  body : Body S Y.Result

structure World (Y : System S) where
  clock : Nat
  shared : Y.Shared
  tasks : List (Task Y)
  log : List (Entry S)

inductive Event (Y : System S) where
  | tick (horizon : Nat)
  | spawn (job : Y.Job)
  | step (task : Nat) (label : Label S)
  | drop (task : Nat)

variable {Y : System S}

/-- What a label does to the shared state. -/
def System.effect (Y : System S) (clock : Nat) (shared : Y.Shared) : Label S → Option Y.Shared
  | .call op ans => Y.respond op clock shared ans
  | _ => some shared

namespace World

def start (clock : Nat) (shared : Y.Shared) : World Y := ⟨clock, shared, [], []⟩

/-- The instructions of one task, oldest first. -/
def logOf (w : World Y) (i : Nat) : List (Entry S) := w.log.filter fun e => e.task == i

def next (pace : Pace) (w : World Y) : Event Y → Option (World Y)
  | .tick horizon =>
    if w.clock ≤ horizon ∧ w.tasks.all (fun task => task.body.lets pace horizon) = true then
      some { w with clock := horizon }
    else none
  | .spawn job =>
    some { w with tasks := w.tasks ++ [⟨job, w.clock, .running (Y.program job)⟩] }
  | .step i label =>
    match w.tasks[i]? with
    | none => none
    | some task =>
      match task.body.step w.clock label, Y.effect w.clock w.shared label with
      | some body, some shared =>
        some { w with
          shared
          tasks := w.tasks.set i { task with body }
          log := w.log ++ [⟨i, w.clock, label⟩] }
      | _, _ => none
  | .drop i =>
    match w.tasks[i]? with
    | none => none
    | some task =>
      match task.body.drop with
      | some body => some { w with tasks := w.tasks.set i { task with body } }
      | none => none

/-- Replay a list of events. -/
def run (pace : Pace) (w : World Y) : List (Event Y) → Option (World Y)
  | [] => some w
  | event :: events => (w.next pace event).bind fun w' => w'.run pace events

end World

/-- Worlds reached from `w₀` by any sequence of events. -/
inductive Reachable (pace : Pace) (w₀ : World Y) : World Y → Prop where
  | refl : Reachable pace w₀ w₀
  | next {w w' : World Y} (event : Event Y) (before : Reachable pace w₀ w)
      (step : w.next pace event = some w') : Reachable pace w₀ w'

/-- What one event can do, with its guards: the only place where `World.next`
is taken apart. -/
theorem World.next_cases {pace : Pace} {w w' : World Y} {event : Event Y}
    (h : w.next pace event = some w') :
    (∃ horizon, event = .tick horizon ∧ w.clock ≤ horizon ∧
      (∀ task ∈ w.tasks, task.body.lets pace horizon = true) ∧
      w' = { w with clock := horizon }) ∨
    (∃ job, event = .spawn job ∧
      w' = { w with tasks := w.tasks ++ [⟨job, w.clock, .running (Y.program job)⟩] }) ∨
    (∃ i label task body shared, event = .step i label ∧ w.tasks[i]? = some task ∧
      task.body.step w.clock label = some body ∧
      Y.effect w.clock w.shared label = some shared ∧
      w' = { w with
        shared
        tasks := w.tasks.set i { task with body }
        log := w.log ++ [⟨i, w.clock, label⟩] }) ∨
    (∃ i task body, event = .drop i ∧ w.tasks[i]? = some task ∧ task.body.drop = some body ∧
      w' = { w with tasks := w.tasks.set i { task with body } }) := by
  cases event with
  | tick horizon =>
    simp only [World.next, List.all_eq_true] at h
    split at h
    · rename_i guards
      exact .inl ⟨horizon, rfl, guards.1, guards.2, (Option.some.inj h).symm⟩
    · cases h
  | spawn job => exact .inr (.inl ⟨job, rfl, (Option.some.inj h).symm⟩)
  | step i label =>
    simp only [World.next] at h
    split at h
    · cases h
    · rename_i task found
      split at h
      · rename_i body shared stepped answered
        exact .inr (.inr (.inl ⟨i, label, task, body, shared, rfl, found, stepped, answered,
          (Option.some.inj h).symm⟩))
      · cases h
  | drop i =>
    simp only [World.next] at h
    split at h
    · cases h
    · rename_i task found
      split at h
      · rename_i body dropped
        exact .inr (.inr (.inr ⟨i, task, body, rfl, found, dropped, (Option.some.inj h).symm⟩))
      · cases h

theorem Reachable.of_run {pace : Pace} {w₀ : World Y} (events : List (Event Y)) :
    ∀ {w w' : World Y}, Reachable pace w₀ w → w.run pace events = some w' →
      Reachable pace w₀ w' := by
  induction events with
  | nil =>
    intro w w' before ran
    simp only [World.run, Option.some.injEq] at ran
    exact ran ▸ before
  | cons event events ih =>
    intro w w' before ran
    simp only [World.run, Option.bind_eq_some_iff] at ran
    obtain ⟨middle, stepped, rest⟩ := ran
    exact ih (.next event before stepped) rest

/-- The answers of synchronous operations determine the shared state: it is the
starting one with the logged operations applied in order. -/
def replay (Y : System S) : Y.Shared → List (Entry S) → Option Y.Shared
  | shared, [] => some shared
  | shared, e :: rest => (Y.effect e.time shared e.label).bind fun next => replay Y next rest

theorem replay_append (Y : System S) (shared : Y.Shared) (before after : List (Entry S)) :
    replay Y shared (before ++ after) =
      (replay Y shared before).bind fun middle => replay Y middle after := by
  induction before generalizing shared with
  | nil => rfl
  | cons e rest ih =>
    simp only [List.cons_append, replay]
    cases Y.effect e.time shared e.label with
    | none => rfl
    | some next => simpa using ih next

theorem Reachable.replay_log {pace : Pace} {clock : Nat} {shared : Y.Shared} {w : World Y}
    (h : Reachable pace (.start clock shared) w) : replay Y shared w.log = some w.shared := by
  induction h with
  | refl => rfl
  | next event before step ih =>
    rcases World.next_cases step with
      ⟨horizon, -, -, -, rfl⟩ | ⟨job, -, rfl⟩ | ⟨i, label, task, body, shared', -, -, -, answered, rfl⟩ |
      ⟨i, task, body, -, -, -, rfl⟩
    · exact ih
    · exact ih
    · simp only [replay_append, ih, Option.bind_some, replay, answered]
    · exact ih

/-- Every logged instruction lies between the start and the present, and the
log is ordered by time. -/
theorem Reachable.log_sorted {pace : Pace} {clock : Nat} {shared : Y.Shared} {w : World Y}
    (h : Reachable pace (.start clock shared) w) :
    clock ≤ w.clock ∧ (∀ e ∈ w.log, e.time ≤ w.clock) ∧
      w.log.Pairwise fun e later => e.time ≤ later.time := by
  induction h with
  | refl => exact ⟨Nat.le_refl _, by simp [World.start], by simp [World.start]⟩
  | next event before step ih =>
    obtain ⟨started, bounded, sorted⟩ := ih
    rcases World.next_cases step with
      ⟨horizon, -, later, -, rfl⟩ | ⟨job, -, rfl⟩ | ⟨i, label, task, body, shared', -, -, -, -, rfl⟩ |
      ⟨i, task, body, -, -, -, rfl⟩
    · exact ⟨Nat.le_trans started later, fun e logged => Nat.le_trans (bounded e logged) later,
        sorted⟩
    · exact ⟨started, bounded, sorted⟩
    · refine ⟨started, ?_, ?_⟩
      · intro e logged
        rcases List.mem_append.mp logged with old | new
        · exact bounded e old
        · exact Nat.le_of_eq (congrArg Entry.time (List.mem_singleton.mp new))
      · rw [List.pairwise_append]
        refine ⟨sorted, List.pairwise_singleton _ _, ?_⟩
        intro e old e' new
        simp only [List.mem_singleton] at new
        exact new ▸ bounded e old
    · exact ⟨started, bounded, sorted⟩

end MechanicsHttpClient.Runtime
