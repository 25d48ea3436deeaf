import Mathlib.Data.List.Induction
import MechanicsHttpClient.Runtime.Alphabet

/-!
# Recorded histories

A recording monitor keeps the list of the events of one task that a statement
speaks of, and objects to nothing. What is proved about the record wherever the
task may rest, return, unwind or be dropped holds of the events in the task's
log in every run (`Reachable.recorded`).
-/

namespace MechanicsHttpClient.Runtime

variable {S : Signature} {σ α ε : Type} {pace : Pace}

/-- The same said of every end. -/
def Post.settled (Q : σ → Prop) : Post σ α := ⟨fun _ _ => Q, fun _ => Q, fun _ => Q⟩

def Monitor.recording (event : Label S → Option ε) (settled : List ε → Prop) :
    Monitor S (List ε) where
  next record _ label :=
    match event label with
    | some e => record ++ [e]
    | none => record
  assume _ _ _ := True
  check _ _ _ := True
  rest record _ := settled record

/-- The record of a log. -/
def recordOf (event : Label S → Option ε) (log : List (Entry S)) : List ε :=
  log.filterMap fun e => event e.label

theorem recordOf_append (event : Label S → Option ε) (before after : List (Entry S)) :
    recordOf event (before ++ after) = recordOf event before ++ recordOf event after :=
  List.filterMap_append

theorem mem_recordOf {event : Label S → Option ε} {log : List (Entry S)} {recorded : ε} :
    recorded ∈ recordOf event log ↔ ∃ e ∈ log, event e.label = some recorded :=
  List.mem_filterMap

theorem World.logOf_split {Y : System S} {w : World Y} {before later : List (Entry S)}
    {e : Entry S} {i : Nat} (split : w.log = before ++ e :: later) (own : e.task = i) :
    w.logOf i = before.filter (fun e => e.task == i) ++ e :: later.filter fun e => e.task == i := by
  simp [World.logOf, split, own]

/-- A split of one task's log is a split of the whole. -/
theorem World.log_split {Y : System S} {w : World Y} {before later : List (Entry S)} {e : Entry S}
    {i : Nat} (split : w.logOf i = before ++ e :: later) :
    ∃ before' later', w.log = before' ++ e :: later' ∧ e.task = i ∧
      before'.filter (fun e => e.task == i) = before ∧
      later'.filter (fun e => e.task == i) = later := by
  obtain ⟨start, rest, whole, first, second⟩ := List.filter_eq_append_iff.mp split
  obtain ⟨others, later', tail, foreign, own, last⟩ := List.filter_eq_cons_iff.mp second
  refine ⟨start ++ others, later', by simp [whole, tail], by simpa using own, ?_, last⟩
  rw [List.filter_append, first, List.filter_eq_nil_iff.mpr foreign, List.append_nil]

theorem Monitor.run_recording (event : Label S → Option ε) (settled : List ε → Prop)
    (record : List ε) (log : List (Entry S)) :
    (Monitor.recording event settled).run record log = record ++ recordOf event log := by
  induction log generalizing record with
  | nil => simp [Monitor.run, recordOf]
  | cons e rest ih =>
    rw [Monitor.run, ih]
    simp only [Monitor.recording, recordOf]
    cases found : event e.label with
    | none => simp [found]
    | some here => simp [found]

/-- A list to which a monitor appends the events it meets. -/
theorem Monitor.run_collected {m : Monitor S σ} {collected : σ → List ε} {event : Label S → Option ε}
    (next : ∀ s t l, collected (m.next s t l) = collected s ++ (event l).toList) (s : σ)
    (log : List (Entry S)) : collected (m.run s log) = collected s ++ recordOf event log := by
  induction log generalizing s with
  | nil => simp [run, recordOf]
  | cons e rest ih =>
    rw [run, ih, next, recordOf, recordOf, List.filterMap_cons]
    cases event e.label <;> simp

/-- The last event of a log. -/
def latestOf (event : Label S → Option ε) (log : List (Entry S)) : Option ε :=
  (recordOf event log).getLast?

theorem latestOf_source {event : Label S → Option ε} {log : List (Entry S)} {last : ε}
    (latest : latestOf event log = some last) : ∃ e ∈ log, event e.label = some last :=
  mem_recordOf.mp (List.mem_of_getLast? latest)

theorem latestOf_isSome {event : Label S → Option ε} {log : List (Entry S)} {e : Entry S} {here : ε}
    (logged : e ∈ log) (found : event e.label = some here) :
    ∃ last, latestOf event log = some last := by
  have recorded : here ∈ recordOf event log := mem_recordOf.mpr ⟨e, logged, found⟩
  exact ⟨_, List.getLast?_eq_some_getLast (List.ne_nil_of_mem recorded)⟩

/-- What a monitor knows of the last event it has met. -/
theorem Monitor.run_latest {m : Monitor S σ} (latest : σ → Option ε) (event : Label S → Option ε)
    (next : ∀ s t l, latest (m.next s t l) = (event l).or (latest s)) (s : σ)
    (log : List (Entry S)) :
    latest (m.run s log) = (latestOf event log).or (latest s) := by
  induction log generalizing s with
  | nil => simp [run, latestOf, recordOf]
  | cons e rest ih =>
    rw [run, ih, next, latestOf, latestOf, recordOf, recordOf, List.filterMap_cons]
    cases event e.label <;> simp [List.getLast?_cons]

/-- Operations and timers that leave no trace in the record. -/
def Alphabet.silent (event : Label S → Option ε) : Alphabet S where
  op o := (∀ ans, event (.call o ans) = none) ∧ event (.issue o) = none ∧
    ∀ ans, event (.done o ans) = none
  timer timer := (∀ deadline, event (.arm timer deadline) = none) ∧
    ∀ j deadline, event (.fire j timer deadline) = none
  unwinds := True

theorem Alphabet.silent_label {event : Label S → Option ε} {label : Label S}
    (has : (Alphabet.silent event).Has label) : event label = none := by
  cases label with
  | call op ans => exact has.1 ans
  | arm timer deadline => exact has.1 deadline
  | issue op => exact has.2.1
  | done op ans => exact has.2.2 ans
  | fire j timer deadline => exact has.2 j deadline

theorem Monitor.recording_ignores (event : Label S → Option ε) (settled : List ε → Prop) :
    (Monitor.recording event settled).IgnoresAll (Alphabet.silent event) := by
  intro record t label has
  refine ⟨?_, True.intro⟩
  simp only [Monitor.recording, Alphabet.silent_label has]

theorem Prog.Sat.at_rest {m : Monitor S σ} {P : Post σ α} {Q : σ → Prop} {p : Prog S α}
    {t clock : Nat} {s : σ} (h : p.Sat m pace P t s) (live : p.Live pace t clock)
    (resting : p.resting = true) (rests : ∀ t, m.rest s t → Q s)
    (returned : ∀ value, p = .ret value → ∀ t, P.returned value t s → Q s)
    (panicked : ∀ t, P.panicked t s → Q s) : Q s := by
  unfold Prog.resting at resting
  split at resting
  · exact returned _ rfl t h
  · exact panicked t h
  · exact rests clock (h clock live).1
  · cases resting

/-- A task that rests or is over, and has not returned an exempt value. -/
theorem Body.Sat.at_rest {ρ : Type} {m : Monitor S σ} {P : Post σ ρ} {Q : σ → Prop} {b : Body S ρ}
    {t clock : Nat} {s : σ} (h : b.Sat m pace P t s) (live : b.Live pace t clock)
    (resting : b.resting = true) (rests : ∀ t, m.rest s t → Q s)
    (returned : ∀ value, b = .running (.ret value) → ∀ t, P.returned value t s → Q s)
    (panicked : ∀ t, P.panicked t s → Q s) (dropped : ∀ t, P.dropped t s → Q s) : Q s := by
  cases b with
  | running p =>
    refine Prog.Sat.at_rest h live resting rests ?_ panicked
    intro value isOver
    exact returned value (congrArg Body.running isOver)
  | dropping p => exact Prog.Sat.at_rest h live resting rests (fun _ _ => dropped) panicked

/-- What a monitor knows of every end and of every suspension point holds of a
task that rests or is over. -/
theorem Reachable.settled {Y : System S} {clock : Nat} {shared : Y.Shared}
    {m : Y.Job → Monitor S σ} {Q : Y.Job → σ → Prop} {init : Y.Job → Nat → σ}
    (verified : ∀ job t, (Y.program job).Sat (m job) pace (Post.settled (Q job)) t (init job t))
    (rests : ∀ job s t, (m job).rest s t → Q job s) {w : World Y}
    (h : Reachable pace (.start clock shared) w) {i : Nat} {task : Task Y}
    (found : w.tasks[i]? = some task)
    (admits : (m task.job).Admits (init task.job task.spawned) (w.logOf i))
    (resting : task.body.resting = true) :
    Q task.job ((m task.job).run (init task.job task.spawned) (w.logOf i)) := by
  obtain ⟨-, t, live, sat⟩ := h.sat verified found admits
  exact sat.at_rest live resting (rests _ _) (fun _ _ _ => id) (fun _ => id) fun _ => id

/-- A task that rests or is over has a record as stated. -/
theorem Reachable.recorded {Y : System S} {clock : Nat} {shared : Y.Shared}
    {event : Y.Job → Label S → Option ε} {settled : Y.Job → List ε → Prop}
    (verified : ∀ job t, (Y.program job).Sat (Monitor.recording (event job) (settled job)) pace
      (Post.settled (settled job)) t []) {w : World Y}
    (h : Reachable pace (.start clock shared) w) {i : Nat} {task : Task Y}
    (found : w.tasks[i]? = some task) (resting : task.body.resting = true) :
    settled task.job (recordOf (event task.job) (w.logOf i)) := by
  have admits := Monitor.admits_of_trivial (Monitor.recording (event task.job) (settled task.job))
    (fun _ _ _ => True.intro) [] (w.logOf i)
  have record := Reachable.settled verified (fun _ _ _ => id) h found admits resting
  rwa [Monitor.run_recording, List.nil_append] at record

/-- The last event of interest, when it was, and what the task has done since. -/
structure Since (S : Signature) (ε : Type) where
  event : ε
  time : Nat
  labels : List (Label S)

/-- Keeps track of the last event and of the labels worth a note after it, and
objects to nothing. -/
def Monitor.since (event : Label S → Option ε) (noted : Label S → Bool) :
    Monitor S (Option (Since S ε)) where
  next last t label :=
    match event label with
    | some here => some ⟨here, t, []⟩
    | none =>
      if noted label then last.map fun since => { since with labels := since.labels ++ [label] }
      else last
  assume _ _ _ := True
  check _ _ _ := True
  rest _ _ := True

section Since

variable {event : Label S → Option ε} {noted : Label S → Bool}

/-- What holds in every state needs no help from the program. -/
theorem Monitor.since_anyway {P : Post (Option (Since S ε)) α}
    (returned : ∀ value t last, P.returned value t last) (panicked : ∀ t last, P.panicked t last)
    (dropped : ∀ t last, P.dropped t last) (p : Prog S α) {t : Nat} {last : Option (Since S ε)} :
    p.Sat (Monitor.since event noted) pace P t last :=
  Prog.Sat.of_invariant (I := fun _ => True) (fun _ _ _ _ => ⟨True.intro, True.intro⟩)
    (fun _ _ _ => True.intro) (fun value t last _ => returned value t last)
    (fun t last _ => panicked t last) (fun t last _ => dropped t last) p True.intro

/-- The last event of a log, and what is noted after it. -/
theorem Monitor.run_since (log : List (Entry S)) :
    ∀ {last : Since S ε}, (Monitor.since event noted).run none log = some last →
      ∃ before e later, log = before ++ e :: later ∧ event e.label = some last.event ∧
        e.time = last.time ∧ last.labels = (later.map Entry.label).filter noted ∧
        ∀ e' ∈ later, event e'.label = none := by
  induction log using List.reverseRecOn with
  | nil => intro last impossible; cases impossible
  | append_singleton log e ih =>
    intro last ran
    rw [Monitor.run_append] at ran
    cases here : event e.label with
    | some found =>
      simp only [Monitor.run, Monitor.since, here, Option.some.injEq] at ran
      subst ran
      exact ⟨log, e, [], rfl, here, rfl, rfl, by simp⟩
    | none =>
      have grown : ∀ since, (Monitor.since event noted).run none log = some since →
          ∀ labels, labels = since.labels ++ [e.label].filter noted →
          ∃ before e' later, log ++ [e] = before ++ e' :: later ∧ event e'.label = some since.event ∧
            e'.time = since.time ∧ labels = (later.map Entry.label).filter noted ∧
            ∀ e'' ∈ later, event e''.label = none := by
        intro since before labels more
        obtain ⟨earlier, first, later, split, arrived, time, noted, silent⟩ := ih before
        refine ⟨earlier, first, later ++ [e], by simp [split], arrived, time, ?_, ?_⟩
        · rw [more, noted, List.map_append, List.filter_append]
          rfl
        · intro e' mem
          rcases List.mem_append.mp mem with old | new
          · exact silent e' old
          · rw [List.mem_singleton.mp new]
            exact here
      cases worth : noted e.label with
      | true =>
        simp only [Monitor.run, Monitor.since, here, worth, if_true, Option.map_eq_some_iff] at ran
        obtain ⟨since, before, same⟩ := ran
        subst same
        exact grown since before _ (by simp [worth])
      | false =>
        simp only [Monitor.run, Monitor.since, here, worth, Bool.false_eq_true, if_false] at ran
        exact grown last ran _ (by simp [worth])

end Since

end MechanicsHttpClient.Runtime
