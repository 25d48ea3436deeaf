import MechanicsHttpClient.Runtime.Adequacy

/-!
# Dropped tasks

A task that is dropped is left with the clean-up of the suspension point it was
dropped at. That is a synchronous program: from the drop on the task only calls
operations, and where instructions take no time it calls them at the instant of the
drop (`Reachable.dropped`).
-/

namespace MechanicsHttpClient.Runtime

variable {S : Signature} {α : Type} {pace : Pace} {Y : System S} {i : Nat}

/-- A synchronous program only calls. -/
theorem Prog.step_ofSync {c : Sync S α} {now : Nat} {label : Label S} {p : Prog S α}
    (stepped : (Prog.ofSync c).step now label = some p) :
    (∃ op ans, label = .call op ans) ∧ ∃ rest, p = .ofSync rest := by
  cases c with
  | ret value => cases label <;> cases stepped
  | panic => cases label <;> cases stepped
  | call op k =>
    cases label with
    | call op' ans =>
      simp only [Prog.ofSync, Prog.step] at stepped
      split at stepped
      · rename_i same
        subst same
        cases stepped
        exact ⟨⟨_, ans, rfl⟩, k ans, rfl⟩
      · cases stepped
    | _ => cases stepped

/-- A task that can be dropped is suspended, and left with its clean-up. -/
theorem Body.drop_cases {ρ : Type} {b b' : Body S ρ} (dropped : b.drop = some b') :
    b.resting = true ∧ b.unfinished = true ∧ ∃ cleanup, b' = .dropping (.ofSync cleanup) := by
  cases b with
  | dropping p => cases dropped
  | running p =>
    cases p with
    | await issued op k timers expired cleanup =>
      cases issued with
      | true =>
        cases dropped
        exact ⟨rfl, rfl, cleanup, rfl⟩
      | false => cases dropped
    | _ => cases dropped

/-- A task that is being dropped has been dropped at some point of the run. -/
theorem Reachable.drop_event {clock : Nat} {shared : Y.Shared} {w : World Y}
    (h : Reachable pace (.start clock shared) w) :
    ∀ {task : Task Y} {p : Prog S Unit}, w.tasks[i]? = some task → task.body = .dropping p →
      ∃ w₀ w₁, Reachable pace (.start clock shared) w₀ ∧ w₀.next pace (.drop i) = some w₁ ∧
        Reachable pace w₁ w := by
  induction h with
  | refl => intro task p found; simp [World.start] at found
  | @next w w' event before step ih =>
    intro task p found gone
    have earlier : ∀ {task : Task Y} {p : Prog S Unit}, w.tasks[i]? = some task →
        task.body = .dropping p → ∃ w₀ w₁, Reachable pace (.start clock shared) w₀ ∧
          w₀.next pace (.drop i) = some w₁ ∧ Reachable pace w₁ w' := by
      intro task p found gone
      obtain ⟨w₀, w₁, reached, dropped, later⟩ := ih found gone
      exact ⟨w₀, w₁, reached, dropped, .next event later step⟩
    rcases World.next_cases step with
      ⟨horizon, -, -, -, rfl⟩ | ⟨job, -, rfl⟩ |
      ⟨j, label, stepping, body, shared', -, atJ, stepped, -, rfl⟩ |
      ⟨j, dropping, body, rfl, atJ, dropped, rfl⟩
    · exact earlier found gone
    · rcases getElem?_of_snoc found with found | ⟨-, rfl⟩
      · exact earlier found gone
      · cases gone
    · rcases getElem?_of_set atJ found with ⟨rfl, rfl⟩ | ⟨-, found⟩
      · cases was : stepping.body with
        | dropping q => exact earlier atJ was
        | running q =>
          -- a task that is running takes no step into its clean-up
          rw [was] at stepped
          obtain ⟨q', -, same⟩ := Option.map_eq_some_iff.mp stepped
          rw [show body = .dropping p from gone] at same
          cases same
      · exact earlier found gone
    · rcases getElem?_of_set atJ found with ⟨rfl, rfl⟩ | ⟨-, found⟩
      · exact ⟨w, _, before, step, .refl⟩
      · exact earlier found gone

/-- What task `i` of `w₀` has done since it was dropped there, up to `w`. -/
structure DroppedSince (pace : Pace) (w₀ w : World Y) (i : Nat) (task : Task Y)
    (since : List (Entry S)) : Prop where
  job : ∃ before, w₀.tasks[i]? = some before ∧ before.body.resting = true ∧
    before.body.unfinished = true ∧ before.job = task.job
  log : w.logOf i = w₀.logOf i ++ since
  calls : ∀ e ∈ since, ∃ op ans, e.label = .call op ans
  later : ∀ e ∈ since, w₀.clock ≤ e.time
  atOnce : pace.instant = true → ∀ e ∈ since, e.time = w₀.clock

/-- Where the log of the task stays as it is. -/
theorem DroppedSince.same {w₀ w w' : World Y} {task : Task Y} {since : List (Entry S)}
    (known : DroppedSince pace w₀ w i task since) (log : w'.logOf i = w.logOf i) :
    DroppedSince pace w₀ w' i task since :=
  ⟨known.job, log.trans known.log, known.calls, known.later, known.atOnce⟩

/-- A call of the task, at a clock that has not moved where instructions take no time. -/
theorem DroppedSince.call {w₀ w w' : World Y} {task task' : Task Y} {since : List (Entry S)}
    {label : Label S} (known : DroppedSince pace w₀ w i task since) (sameJob : task'.job = task.job)
    (log : w'.logOf i = w.logOf i ++ [⟨i, w.clock, label⟩]) (called : ∃ op ans, label = .call op ans)
    (started : w₀.clock ≤ w.clock) (held : pace.instant = true → w.clock = w₀.clock) :
    DroppedSince pace w₀ w' i task' (since ++ [⟨i, w.clock, label⟩]) where
  job := sameJob ▸ known.job
  log := by rw [log, known.log, List.append_assoc]
  calls := List.forall_mem_append.mpr ⟨known.calls, List.forall_mem_singleton.mpr called⟩
  later := List.forall_mem_append.mpr ⟨known.later, List.forall_mem_singleton.mpr started⟩
  atOnce instant := List.forall_mem_append.mpr
    ⟨known.atOnce instant, List.forall_mem_singleton.mpr (held instant)⟩

/-- The task goes through its clean-up, and holds the clock until it is done. -/
theorem Reachable.cleans_up {w₀ w₁ w : World Y} (dropped : w₀.next pace (.drop i) = some w₁)
    (h : Reachable pace w₁ w) :
    ∃ task since cleanup, w.tasks[i]? = some task ∧ task.body = .dropping (.ofSync cleanup) ∧
      DroppedSince pace w₀ w i task since ∧ w₀.clock ≤ w.clock ∧
      (pace.instant = true → task.body.resting = false → w.clock = w₀.clock) := by
  induction h with
  | refl =>
    rcases World.next_cases dropped with
      ⟨horizon, no, -⟩ | ⟨job, no, -⟩ | ⟨j, label, task, body, shared', no, -⟩ |
      ⟨j, task, body, same, found, drops, rfl⟩
    · cases no
    · cases no
    · cases no
    · cases same
      obtain ⟨rests, unfinished, cleanup, rfl⟩ := Body.drop_cases drops
      have bound := (List.getElem?_eq_some_iff.mp found).1
      refine ⟨_, [], cleanup, List.getElem?_set_self bound, rfl, ?_, Nat.le_refl _, fun _ _ => rfl⟩
      exact ⟨⟨task, found, rests, unfinished, rfl⟩, (List.append_nil _).symm, by simp, by simp,
        by simp⟩
  | @next w w' event before step ih =>
    obtain ⟨task, since, cleanup, found, gone, known, started, held⟩ := ih
    rcases World.next_cases step with
      ⟨horizon, -, later, rests, rfl⟩ | ⟨job, -, rfl⟩ |
      ⟨j, label, stepping, body, shared', -, atJ, stepped, -, rfl⟩ |
      ⟨j, dropping, body, -, atJ, drops, rfl⟩
    · refine ⟨task, since, cleanup, found, gone, known.same rfl, Nat.le_trans started later, ?_⟩
      intro instant busy
      have resting := Body.resting_of_lets instant (rests task (List.mem_of_getElem? found))
      rw [resting] at busy
      cases busy
    · have bound := (List.getElem?_eq_some_iff.mp found).1
      exact ⟨task, since, cleanup, (List.getElem?_append_left bound).trans found, gone,
        known.same rfl, started, held⟩
    · by_cases same : j = i
      · subst same
        have isTask : stepping = task := Option.some.inj (atJ.symm.trans found)
        subst isTask
        rw [gone] at stepped
        obtain ⟨p, moved, rfl⟩ := Option.map_eq_some_iff.mp stepped
        obtain ⟨called, rest, rfl⟩ := Prog.step_ofSync moved
        have busy : stepping.body.resting = false := by
          rw [gone]
          obtain ⟨op, ans, rfl⟩ := called
          cases cleanup with
          | ret value => cases moved
          | panic => cases moved
          | call op k => rfl
        have bound := (List.getElem?_eq_some_iff.mp found).1
        have held' : pace.instant = true → w.clock = w₀.clock := fun instant => held instant busy
        refine ⟨_, since ++ [⟨j, w.clock, label⟩], rest, List.getElem?_set_self bound, rfl, ?_,
          started, fun instant _ => held' instant⟩
        exact known.call rfl (World.logOf_grown ..) called started held'
      · exact ⟨task, since, cleanup, (List.getElem?_set_ne same).trans found, gone,
          known.same (World.logOf_other w shared' _ label same), started, held⟩
    · by_cases same : j = i
      · subst same
        have isTask : dropping = task := Option.some.inj (atJ.symm.trans found)
        rw [isTask, gone] at drops
        cases drops
      · exact ⟨task, since, cleanup, (List.getElem?_set_ne same).trans found, gone,
          known.same rfl, started, held⟩

/-- A task that is being dropped, with the point at which it was dropped and what it has
done since. -/
theorem Reachable.dropped {clock : Nat} {shared : Y.Shared} {w : World Y}
    (h : Reachable pace (.start clock shared) w) {task : Task Y} {p : Prog S Unit}
    (found : w.tasks[i]? = some task) (gone : task.body = .dropping p) :
    ∃ w₀ w₁ since, Reachable pace (.start clock shared) w₀ ∧
      w₀.next pace (.drop i) = some w₁ ∧ Reachable pace w₁ w ∧
      DroppedSince pace w₀ w i task since := by
  obtain ⟨w₀, w₁, reached, drops, later⟩ := h.drop_event found gone
  obtain ⟨task', since, cleanup, found', -, known, -⟩ := later.cleans_up drops
  cases found.symm.trans found'
  exact ⟨w₀, w₁, since, reached, drops, later, known⟩

end MechanicsHttpClient.Runtime
