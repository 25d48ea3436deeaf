import MechanicsHttpClient.Runtime.World

/-!
# Programs run without interruption

A program that neither suspends nor arms a timer can be run in one go against
the shared state. `Executes` is such a run. It is what a task of a world does
when it has come to that program and is given all of the next steps
(`Executes.reaches`).
-/

namespace MechanicsHttpClient.Runtime

variable {S : Signature} {Y : System S} {α : Type}

/-- The program runs to its end at this clock, from one shared state to another;
the result is `none` when it unwinds. -/
inductive Executes (Y : System S) (clock : Nat) :
    Y.Shared → Prog S α → Option α → Y.Shared → Prop where
  | ret (shared : Y.Shared) (value : α) : Executes Y clock shared (.ret value) (some value) shared
  | panic (shared : Y.Shared) : Executes Y clock shared .panic none shared
  | call {shared middle after : Y.Shared} {op : S.Op} {ans : S.Ans op} {k : S.Ans op → Prog S α}
      {result : Option α} (answered : Y.respond op clock shared ans = some middle)
      (rest : Executes Y clock middle (k ans) result after) :
      Executes Y clock shared (.call op k) result after

namespace Executes

variable {clock : Nat} {shared after : Y.Shared} {result : Option α}

theorem ret_iff {value : α} :
    Executes Y clock shared (.ret value) result after ↔ result = some value ∧ after = shared := by
  constructor
  · intro executed
    cases executed
    exact ⟨rfl, rfl⟩
  · rintro ⟨rfl, rfl⟩
    exact .ret _ _

theorem panic_iff :
    Executes Y clock shared (.panic : Prog S α) result after ↔ result = none ∧ after = shared := by
  constructor
  · intro executed
    cases executed
    exact ⟨rfl, rfl⟩
  · rintro ⟨rfl, rfl⟩
    exact .panic _

theorem call_iff {op : S.Op} {k : S.Ans op → Prog S α} :
    Executes Y clock shared (.call op k) result after ↔
      ∃ ans middle, Y.respond op clock shared ans = some middle ∧
        Executes Y clock middle (k ans) result after := by
  constructor
  · intro executed
    cases executed with
    | call answered rest => exact ⟨_, _, answered, rest⟩
  · rintro ⟨ans, middle, answered, rest⟩
    exact .call answered rest

theorem perform_bind_iff {op : S.Op} {f : S.Ans op → Prog S α} :
    Executes Y clock shared ((Prog.perform op).bind f) result after ↔
      ∃ ans middle, Y.respond op clock shared ans = some middle ∧
        Executes Y clock middle (f ans) result after :=
  call_iff

/-- What follows runs where the first part has ended, unless that unwinds. -/
theorem bind_iff {β : Type} {f : α → Prog S β} {result : Option β} (p : Prog S α) :
    ∀ {shared : Y.Shared}, Executes Y clock shared (p.bind f) result after ↔
      (∃ value middle, Executes Y clock shared p (some value) middle ∧
        Executes Y clock middle (f value) result after) ∨
      (result = none ∧ Executes Y clock shared p none after) := by
  induction p with
  | ret value =>
    intro shared
    simp [Prog.bind, ret_iff]
  | panic =>
    intro shared
    simp [Prog.bind, panic_iff]
  | call op k ih =>
    intro shared
    rw [Prog.bind, call_iff]
    constructor
    · rintro ⟨ans, middle, answered, executed⟩
      rcases ih ans |>.mp executed with ⟨value, next, first, rest⟩ | ⟨unwound, first⟩
      · exact .inl ⟨value, next, .call answered first, rest⟩
      · exact .inr ⟨unwound, .call answered first⟩
    · rintro (⟨value, next, first, rest⟩ | ⟨unwound, first⟩)
      · obtain ⟨ans, middle, answered, executed⟩ := call_iff.mp first
        exact ⟨ans, middle, answered, ih ans |>.mpr (.inl ⟨value, next, executed, rest⟩)⟩
      · obtain ⟨ans, middle, answered, executed⟩ := call_iff.mp first
        exact ⟨ans, middle, answered, ih ans |>.mpr (.inr ⟨unwound, executed⟩)⟩
  | arm timer d k ih =>
    intro shared
    constructor
    · intro executed
      cases executed
    · rintro (⟨value, next, first, rest⟩ | ⟨unwound, first⟩) <;> cases first
  | await issued op k timers expired cleanup ihDone ihFire =>
    intro shared
    constructor
    · intro executed
      cases executed
    · rintro (⟨value, next, first, rest⟩ | ⟨unwound, first⟩) <;> cases first

/-- A task that has come to this program can run it to its end, and goes on with
what follows, while the clock and the other tasks stay where they are. -/
theorem reaches {p : Prog S α} (executed : Executes Y clock shared p result after) :
    ∀ {pace : Pace} {w₀ w : World Y} {i : Nat} {task : Task Y} {f : α → Prog S Y.Result},
      Reachable pace w₀ w → w.clock = clock → w.shared = shared → w.tasks[i]? = some task →
      task.body = .running (p.bind f) →
      ∃ w', Reachable pace w₀ w' ∧ w'.clock = clock ∧ w'.shared = after ∧
        w'.tasks[i]? = some { task with body := .running (result.elim .panic f) } ∧
        ∀ j, j ≠ i → w'.tasks[j]? = w.tasks[j]? := by
  induction executed with
  | ret shared value =>
    intro pace w₀ w i task f reached atClock atShared found running
    refine ⟨w, reached, atClock, atShared, ?_, fun _ _ => rfl⟩
    have resumed : task.body = .running (f value) := running
    rw [found, Option.elim_some, ← resumed]
  | panic shared =>
    intro pace w₀ w i task f reached atClock atShared found running
    refine ⟨w, reached, atClock, atShared, ?_, fun _ _ => rfl⟩
    have unwound : task.body = .running .panic := running
    rw [found, Option.elim_none, ← unwound]
  | @call shared middle after op ans k result answered rest ih =>
    intro pace w₀ w i task f reached atClock atShared found running
    have stepped : task.body.step w.clock (.call op ans) = some (.running ((k ans).bind f)) := by
      rw [running]
      simp [Body.step, Prog.bind, Prog.step]
    have effect : Y.effect w.clock w.shared (.call op ans) = some middle := by
      rw [atClock, atShared]
      exact answered
    have event : w.next pace (.step i (.call op ans)) = some { w with
        shared := middle
        tasks := w.tasks.set i { task with body := .running ((k ans).bind f) }
        log := w.log ++ [⟨i, w.clock, .call op ans⟩] } := by
      simp only [World.next, found, stepped, effect]
    have inside : i < w.tasks.length := (List.getElem?_eq_some_iff.mp found).1
    obtain ⟨w', reached', clock', shared', task', others⟩ := ih (.next _ reached event) atClock rfl
      (List.getElem?_set_self inside) rfl
    refine ⟨w', reached', clock', shared', task', ?_⟩
    intro j other
    rw [others j other]
    exact List.getElem?_set_ne (Ne.symm other)

end Executes

end MechanicsHttpClient.Runtime
