import Mathlib.Data.List.Nodup
import MechanicsHttpClient.Runtime.Adequacy

/-!
# Runs of some of the tasks

Where what some jobs do goes unnoticed by the others, a run can be cut down to
the others: their tasks alone have a run in which they do the same, label for
label and instant for instant, and reach the same bodies (`Reachable.isolated`).
-/

namespace MechanicsHttpClient.Runtime

variable {S : Signature} {Y : System S}

/-- What a task has done, and when. -/
def World.deeds (w : World Y) (i : Nat) : List (Nat × Label S) :=
  (w.logOf i).map fun e => (e.time, e.label)

/-- The jobs in `mine` do not notice the others, as long as every job only does what `does`
says. `agree` relates the shared state of all tasks to that of the kept ones. -/
structure Isolates (Y : System S) (mine : Y.Job → Prop) (does : Y.Job → Label S → Prop)
    (agree : Y.Shared → Y.Shared → Prop) : Prop where
  kept : ∀ job label t whole whole' part, mine job → does job label → agree whole part →
    Y.effect t whole label = some whole' →
    ∃ part', Y.effect t part label = some part' ∧ agree whole' part'
  others : ∀ job label t whole whole' part, ¬ mine job → does job label → agree whole part →
    Y.effect t whole label = some whole' → agree whole' part

/-- `places` lists where the tasks of `part` are in `whole`. -/
structure PartOf (mine : Y.Job → Prop) (agree : Y.Shared → Y.Shared → Prop) (whole part : World Y)
    (places : List Nat) : Prop where
  clock : part.clock = whole.clock
  shared : agree whole.shared part.shared
  length : part.tasks.length = places.length
  distinct : places.Nodup
  complete : ∀ i task, whole.tasks[i]? = some task → mine task.job → i ∈ places
  task : ∀ j i, places[j]? = some i → ∃ task, whole.tasks[i]? = some task ∧
    part.tasks[j]? = some task ∧ mine task.job ∧ part.deeds j = whole.deeds i

section PartOf

variable {mine : Y.Job → Prop} {agree : Y.Shared → Y.Shared → Prop} {whole part : World Y}
  {places : List Nat}

theorem World.deeds_grown (w : World Y) (i : Nat) (shared : Y.Shared) (tasks : List (Task Y))
    (label : Label S) :
    World.deeds ⟨w.clock, shared, tasks, w.log ++ [⟨i, w.clock, label⟩]⟩ i =
      w.deeds i ++ [(w.clock, label)] := by
  simp [World.deeds, World.logOf_grown]

theorem World.deeds_other (w : World Y) {i j : Nat} (shared : Y.Shared) (tasks : List (Task Y))
    (label : Label S) (other : j ≠ i) :
    World.deeds ⟨w.clock, shared, tasks, w.log ++ [⟨j, w.clock, label⟩]⟩ i = w.deeds i := by
  simp [World.deeds, World.logOf_other w shared tasks label other]

theorem PartOf.mem (isPart : PartOf mine agree whole part places) {task : Task Y}
    (listed : task ∈ part.tasks) : task ∈ whole.tasks := by
  obtain ⟨j, bound, rfl⟩ := List.getElem_of_mem listed
  have bound' : j < places.length := isPart.length ▸ bound
  obtain ⟨task, found, found', -⟩ := isPart.task j places[j] (List.getElem?_eq_getElem bound')
  rw [List.getElem?_eq_getElem bound] at found'
  cases found'
  exact List.mem_of_getElem? found

/-- Another place is another task. -/
theorem PartOf.apart (isPart : PartOf mine agree whole part places) {j j' i i' : Nat}
    (here : places[j]? = some i) (there : places[j']? = some i') : j = j' ↔ i = i' := by
  constructor
  · intro same
    subst same
    exact Option.some.inj (here.symm.trans there)
  · intro same
    subst same
    obtain ⟨bound, atJ⟩ := List.getElem?_eq_some_iff.mp here
    obtain ⟨bound', atJ'⟩ := List.getElem?_eq_some_iff.mp there
    exact isPart.distinct.getElem_inj_iff.mp (atJ.trans atJ'.symm)

/-- A kept task is replaced in both worlds; `log` and `log'` are what they gain. -/
theorem PartOf.set (isPart : PartOf mine agree whole part places) {j i : Nat} {old new : Task Y}
    {shared shared' : Y.Shared} {log log' : List (Entry S)}
    (here : places[j]? = some i) (found : whole.tasks[i]? = some old) (same : new.job = old.job)
    (agrees : agree shared shared')
    (own : World.deeds ⟨part.clock, shared', part.tasks.set j new, log'⟩ j =
      World.deeds ⟨whole.clock, shared, whole.tasks.set i new, log⟩ i)
    (others : ∀ i', i ≠ i' →
      World.deeds ⟨whole.clock, shared, whole.tasks.set i new, log⟩ i' = whole.deeds i')
    (others' : ∀ j', j ≠ j' →
      World.deeds ⟨part.clock, shared', part.tasks.set j new, log'⟩ j' = part.deeds j') :
    PartOf mine agree ⟨whole.clock, shared, whole.tasks.set i new, log⟩
      ⟨part.clock, shared', part.tasks.set j new, log'⟩ places where
  clock := isPart.clock
  shared := agrees
  length := by simpa using isPart.length
  distinct := isPart.distinct
  complete := by
    intro i' task found' isMine
    rcases getElem?_of_set found found' with ⟨rfl, rfl⟩ | ⟨-, found'⟩
    · rw [same] at isMine
      exact isPart.complete i old found isMine
    · exact isPart.complete i' task found' isMine
  task := by
    intro j' i' there
    obtain ⟨task, foundW, foundP, isMine, deeds⟩ := isPart.task j' i' there
    have apart := isPart.apart here there
    by_cases sameJ : j = j'
    · have sameI := apart.mp sameJ
      subst sameJ
      subst sameI
      rw [found] at foundW
      cases foundW
      refine ⟨new, ?_, ?_, same ▸ isMine, own⟩
      · exact List.getElem?_set_self (List.getElem?_eq_some_iff.mp found).1
      · exact List.getElem?_set_self (List.getElem?_eq_some_iff.mp foundP).1
    · have otherI : i ≠ i' := fun sameI => sameJ (apart.mpr sameI)
      refine ⟨task, ?_, ?_, isMine, ?_⟩
      · simpa [List.getElem?_set_ne otherI] using foundW
      · simpa [List.getElem?_set_ne sameJ] using foundP
      · rw [others i' otherI, others' j' sameJ]
        exact deeds

/-- A task that is not kept is replaced. -/
theorem PartOf.set_other (isPart : PartOf mine agree whole part places) {i : Nat} {old new : Task Y}
    {shared : Y.Shared} {log : List (Entry S)} (found : whole.tasks[i]? = some old)
    (same : new.job = old.job) (notMine : ¬ mine old.job) (agrees : agree shared part.shared)
    (others : ∀ i', i ≠ i' →
      World.deeds ⟨whole.clock, shared, whole.tasks.set i new, log⟩ i' = whole.deeds i') :
    PartOf mine agree ⟨whole.clock, shared, whole.tasks.set i new, log⟩ part places where
  clock := isPart.clock
  shared := agrees
  length := isPart.length
  distinct := isPart.distinct
  complete := by
    intro i' task found' isMine
    rcases getElem?_of_set found found' with ⟨rfl, rfl⟩ | ⟨-, found'⟩
    · rw [same] at isMine
      exact absurd isMine notMine
    · exact isPart.complete i' task found' isMine
  task := by
    intro j i' there
    obtain ⟨task, foundW, foundP, isMine, deeds⟩ := isPart.task j i' there
    have otherI : i ≠ i' := by
      intro sameI
      subst sameI
      rw [found] at foundW
      cases foundW
      exact notMine isMine
    refine ⟨task, ?_, foundP, isMine, ?_⟩
    · simpa [List.getElem?_set_ne otherI] using foundW
    · rw [others i' otherI]
      exact deeds

/-- A kept job is spawned in both worlds. -/
theorem PartOf.spawn (isPart : PartOf mine agree whole part places) {new : Task Y}
    (isMine : mine new.job) (bounded : ∀ e ∈ whole.log, e.task < whole.tasks.length)
    (bounded' : ∀ e ∈ part.log, e.task < part.tasks.length) :
    PartOf mine agree { whole with tasks := whole.tasks ++ [new] }
      { part with tasks := part.tasks ++ [new] } (places ++ [whole.tasks.length]) where
  clock := isPart.clock
  shared := isPart.shared
  length := by simp [isPart.length]
  distinct := by
    rw [List.nodup_append]
    refine ⟨isPart.distinct, by simp, ?_⟩
    intro i listed i' fresh
    obtain ⟨j, bound, rfl⟩ := List.getElem_of_mem listed
    obtain ⟨task, found, -⟩ := isPart.task j places[j] (List.getElem?_eq_getElem bound)
    have old := (List.getElem?_eq_some_iff.mp found).1
    rw [List.mem_singleton] at fresh
    omega
  complete := by
    intro i task found kept
    rcases getElem?_of_snoc found with found | ⟨fresh, rfl⟩
    · exact List.mem_append_left _ (isPart.complete i task found kept)
    · have bound := (List.getElem?_eq_some_iff.mp found).1
      simp only [List.length_append, List.length_singleton] at bound
      have last : i = whole.tasks.length := by omega
      rw [last]
      exact List.mem_append_right _ (List.mem_singleton.mpr rfl)
  task := by
    intro j i there
    rcases getElem?_of_snoc there with there | ⟨fresh, rfl⟩
    · obtain ⟨task, found, found', kept, deeds⟩ := isPart.task j i there
      refine ⟨task, ?_, ?_, kept, deeds⟩
      · rw [List.getElem?_append_left (List.getElem?_eq_some_iff.mp found).1]
        exact found
      · rw [List.getElem?_append_left (List.getElem?_eq_some_iff.mp found').1]
        exact found'
    · have bound := (List.getElem?_eq_some_iff.mp there).1
      simp only [List.length_append, List.length_singleton] at bound
      have last : j = part.tasks.length := by
        have := isPart.length
        omega
      subst last
      refine ⟨new, by simp, by simp, isMine, ?_⟩
      have none : World.deeds { part with tasks := part.tasks ++ [new] } part.tasks.length = [] := by
        have nothing := World.logOf_eq_nil bounded' (Nat.le_refl _)
        simpa [World.deeds, World.logOf] using nothing
      have none' : World.deeds { whole with tasks := whole.tasks ++ [new] } whole.tasks.length =
          [] := by
        have nothing := World.logOf_eq_nil bounded (Nat.le_refl _)
        simpa [World.deeds, World.logOf] using nothing
      rw [none, none']

/-- Another job is spawned. -/
theorem PartOf.spawn_other (isPart : PartOf mine agree whole part places) {new : Task Y}
    (notMine : ¬ mine new.job) :
    PartOf mine agree { whole with tasks := whole.tasks ++ [new] } part places where
  clock := isPart.clock
  shared := isPart.shared
  length := isPart.length
  distinct := isPart.distinct
  complete := by
    intro i task found kept
    rcases getElem?_of_snoc found with found | ⟨fresh, rfl⟩
    · exact isPart.complete i task found kept
    · exact absurd kept notMine
  task := by
    intro j i there
    obtain ⟨task, found, found', kept, deeds⟩ := isPart.task j i there
    refine ⟨task, ?_, found', kept, deeds⟩
    rw [List.getElem?_append_left (List.getElem?_eq_some_iff.mp found).1]
    exact found

end PartOf

/-- Nothing is unlogged, and a task keeps its job. -/
theorem World.next_keeps {pace : Pace} {w w' : World Y} {event : Event Y}
    (stepped : w.next pace event = some w') :
    (∀ e ∈ w.log, e ∈ w'.log) ∧ ∀ (i : Nat) (task : Task Y), w.tasks[i]? = some task →
      ∃ task' : Task Y, w'.tasks[i]? = some task' ∧ task'.job = task.job := by
  have replaced : ∀ (i : Nat) (old : Task Y) (body : Body S Y.Result), w.tasks[i]? = some old →
      ∀ (i' : Nat) (task : Task Y), w.tasks[i']? = some task →
        ∃ task' : Task Y, (w.tasks.set i { old with body })[i']? = some task' ∧
          task'.job = task.job := by
    intro i old body found i' task found'
    by_cases same : i = i'
    · subst same
      rw [found] at found'
      cases found'
      exact ⟨_, List.getElem?_set_self (List.getElem?_eq_some_iff.mp found).1, rfl⟩
    · exact ⟨task, by rw [List.getElem?_set_ne same, found'], rfl⟩
  rcases World.next_cases stepped with
    ⟨horizon, -, -, -, rfl⟩ | ⟨job, -, rfl⟩ | ⟨i, label, old, body, shared', -, found, -, -, rfl⟩ |
    ⟨i, old, body, -, found, -, rfl⟩
  · exact ⟨fun _ => id, fun _ task found => ⟨task, found, rfl⟩⟩
  · refine ⟨fun _ => id, fun i task found => ⟨task, ?_, rfl⟩⟩
    rw [List.getElem?_append_left (List.getElem?_eq_some_iff.mp found).1]
    exact found
  · exact ⟨fun _ => List.mem_append_left _, replaced i old body found⟩
  · exact ⟨fun _ => id, replaced i old body found⟩

/-- One event of the whole, as one event or none of the part. -/
theorem PartOf.next {mine : Y.Job → Prop} {does : Y.Job → Label S → Prop}
    {agree : Y.Shared → Y.Shared → Prop} (isolates : Isolates Y mine does agree) {pace : Pace}
    {whole whole' part start : World Y} {places : List Nat} {event : Event Y}
    (isPart : PartOf mine agree whole part places) (reached : Reachable pace start part)
    (bounded : ∀ e ∈ whole.log, e.task < whole.tasks.length)
    (bounded' : ∀ e ∈ part.log, e.task < part.tasks.length)
    (lawful : ∀ e ∈ whole'.log, ∀ task, whole'.tasks[e.task]? = some task → does task.job e.label)
    (stepped : whole.next pace event = some whole') :
    ∃ part' places', Reachable pace start part' ∧ PartOf mine agree whole' part' places' := by
  rcases World.next_cases stepped with
    ⟨horizon, -, later, rests, rfl⟩ | ⟨job, -, rfl⟩ |
    ⟨i, label, task, body, shared', -, found, does', answered, rfl⟩ |
    ⟨i, task, body, -, found, dropped, rfl⟩
  · have goes : part.next pace (.tick horizon) = some { part with clock := horizon } := by
      have rests' : part.tasks.all (fun task => task.body.lets pace horizon) = true := by
        rw [List.all_eq_true]
        exact fun task listed => rests task (isPart.mem listed)
      simp only [World.next, rests', and_true]
      rw [if_pos (isPart.clock ▸ later)]
    exact ⟨_, places, .next _ reached goes, rfl, isPart.shared, isPart.length, isPart.distinct,
      isPart.complete, isPart.task⟩
  · by_cases isMine : mine job
    · have goes : part.next pace (.spawn job) = some { part with
          tasks := part.tasks ++ [⟨job, whole.clock, .running (Y.program job)⟩] } := by
        rw [World.next, isPart.clock]
      exact ⟨_, _, .next _ reached goes, isPart.spawn isMine bounded bounded'⟩
    · exact ⟨part, places, reached, isPart.spawn_other isMine⟩
  · have lawfulNow : does task.job label := by
      refine lawful ⟨i, whole.clock, label⟩ (by simp) { task with body } ?_
      exact List.getElem?_set_self (List.getElem?_eq_some_iff.mp found).1
    by_cases isMine : mine task.job
    · obtain ⟨j, bound, atJ⟩ := List.getElem_of_mem (isPart.complete i task found isMine)
      have here : places[j]? = some i := List.getElem?_eq_some_iff.mpr ⟨bound, atJ⟩
      obtain ⟨own, foundW, foundP, -, deeds⟩ := isPart.task j i here
      rw [found] at foundW
      cases foundW
      obtain ⟨part', answered', agrees⟩ := isolates.kept _ _ _ _ _ _ isMine lawfulNow isPart.shared
        answered
      have goes : part.next pace (.step j label) = some { part with
          shared := part'
          tasks := part.tasks.set j { task with body }
          log := part.log ++ [⟨j, part.clock, label⟩] } := by
        simp only [World.next, foundP, isPart.clock, does', answered']
      refine ⟨_, places, .next _ reached goes, ?_⟩
      refine isPart.set here found rfl agrees ?_ ?_ ?_
      · rw [World.deeds_grown, World.deeds_grown, deeds, isPart.clock]
      · exact fun i' other => World.deeds_other whole _ _ label other
      · exact fun j' other => World.deeds_other part _ _ label other
    · refine ⟨part, places, reached, isPart.set_other found rfl isMine ?_ ?_⟩
      · exact isolates.others _ _ _ _ _ _ isMine lawfulNow isPart.shared answered
      · exact fun i' other => World.deeds_other whole _ _ label other
  · by_cases isMine : mine task.job
    · obtain ⟨j, bound, atJ⟩ := List.getElem_of_mem (isPart.complete i task found isMine)
      have here : places[j]? = some i := List.getElem?_eq_some_iff.mpr ⟨bound, atJ⟩
      obtain ⟨own, foundW, foundP, -, deeds⟩ := isPart.task j i here
      rw [found] at foundW
      cases foundW
      have goes : part.next pace (.drop j) = some { part with
          tasks := part.tasks.set j { task with body } } := by
        simp only [World.next, foundP, dropped]
      refine ⟨_, places, .next _ reached goes, ?_⟩
      exact isPart.set here found rfl isPart.shared deeds (fun _ _ => rfl) fun _ _ => rfl
    · exact ⟨part, places, reached, isPart.set_other found rfl isMine isPart.shared fun _ _ => rfl⟩

/-- A run of all jobs, cut down to those in `mine`. -/
theorem Reachable.isolated {mine : Y.Job → Prop} {does : Y.Job → Label S → Prop}
    {agree : Y.Shared → Y.Shared → Prop} (isolates : Isolates Y mine does agree) {pace : Pace}
    {clock : Nat} {shared shared' : Y.Shared} (agrees : agree shared shared') {whole : World Y}
    (h : Reachable pace (.start clock shared) whole)
    (lawful : ∀ e ∈ whole.log, ∀ task, whole.tasks[e.task]? = some task → does task.job e.label) :
    ∃ part places, Reachable pace (.start clock shared') part ∧
      PartOf mine agree whole part places := by
  induction h with
  | refl =>
    exact ⟨.start clock shared', [], .refl, rfl, agrees, rfl, .nil, by simp [World.start], by simp⟩
  | @next whole whole' event before step ih =>
    have earlier : ∀ e ∈ whole.log, ∀ task, whole.tasks[e.task]? = some task →
        does task.job e.label := by
      intro e logged task found
      obtain ⟨logs, keeps⟩ := World.next_keeps step
      obtain ⟨task', found', same⟩ := keeps e.task task found
      exact same ▸ lawful e (logs e logged) task' found'
    obtain ⟨part, places, reached, isPart⟩ := ih earlier
    exact isPart.next isolates reached before.log_tasks reached.log_tasks lawful step

end MechanicsHttpClient.Runtime
