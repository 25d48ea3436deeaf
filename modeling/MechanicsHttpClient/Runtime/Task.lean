import Mathlib.Data.List.Basic

/-!
# Resumable tasks with timers and drop guards

A task is the state of one future between two polls. Its instructions are the
synchronous operations (`call`), the arming of a timer (`arm`) and the
suspension points (`await`). A suspension point carries everything that may
happen to it: the continuation on completion, the timers of the enclosing
timeouts with what each of them does when it expires, and the clean-up that
the enclosing drop guards owe when the future is dropped there.

`timeout` and `guarded` are therefore program transformers, not frames of a
stack: they push their deadline or their clean-up into every suspension point
of the future they wrap. Nothing here names a protocol; a signature supplies
the operations, the type of their answers and the names of the timers.
-/

namespace MechanicsHttpClient.Runtime

/-- Operations of a program, the type of each answer, and the timer names. -/
structure Signature where
  Op : Type
  Ans : Op → Type
  Timer : Type
  [decEqOp : DecidableEq Op]
  [decEqTimer : DecidableEq Timer]

attribute [instance] Signature.decEqOp Signature.decEqTimer

/-- A program that never suspends, as `Drop::drop` has to be. -/
inductive Sync (S : Signature) (α : Type) where
  | ret (value : α)
  | panic
  | call (op : S.Op) (k : S.Ans op → Sync S α)

/-- A future. In `await`, `issued` says whether the operation has been started,
`timers` lists the deadlines that can cut it (innermost first) and `expired j`
is the program that runs when the `j`-th of them fires. -/
inductive Prog (S : Signature) (α : Type) where
  | ret (value : α)
  | panic
  | call (op : S.Op) (k : S.Ans op → Prog S α)
  | arm (timer : S.Timer) (d : Nat) (k : Nat → Prog S α)
  | await (issued : Bool) (op : S.Op) (k : S.Ans op → Prog S α)
      (timers : List (S.Timer × Nat)) (expired : Nat → Prog S α) (cleanup : Sync S Unit)

/-- What a task does in one step, as seen from outside. -/
inductive Label (S : Signature) where
  | call (op : S.Op) (ans : S.Ans op)
  | arm (timer : S.Timer) (deadline : Nat)
  | issue (op : S.Op)
  | done (op : S.Op) (ans : S.Ans op)
  | fire (index : Nat) (timer : S.Timer) (deadline : Nat)

variable {S : Signature} {α β : Type}

namespace Sync

def bind : Sync S α → (α → Sync S β) → Sync S β
  | .ret value, f => f value
  | .panic, _ => .panic
  | .call op k, f => .call op fun ans => (k ans).bind f

instance : Monad (Sync S) where
  pure := .ret
  bind := Sync.bind

def perform (op : S.Op) : Sync S (S.Ans op) := .call op .ret

/-- Run `guard` after `c`, also when `c` unwinds: the order in which the fields
of a dropped future are dropped. -/
def ensuring (guard : Sync S Unit) : Sync S Unit → Sync S Unit
  | .ret _ => guard
  | .panic => guard.bind fun _ => .panic
  | .call op k => .call op fun ans => ensuring guard (k ans)

end Sync

namespace Prog

def bind : Prog S α → (α → Prog S β) → Prog S β
  | .ret value, f => f value
  | .panic, _ => .panic
  | .call op k, f => .call op fun ans => (k ans).bind f
  | .arm timer d k, f => .arm timer d fun deadline => (k deadline).bind f
  | .await issued op k timers expired cleanup, f =>
    .await issued op (fun ans => (k ans).bind f) timers (fun j => (expired j).bind f) cleanup

instance : Monad (Prog S) where
  pure := .ret
  bind := Prog.bind

/-- A synchronous operation. -/
def perform (op : S.Op) : Prog S (S.Ans op) := .call op .ret

/-- `op.await` with no timeout of its own. The list of timers is empty, so no
index reaches `expired`. -/
def suspend (op : S.Op) : Prog S (S.Ans op) :=
  .await false op .ret [] (fun _ => .panic) (.ret ())

def ofSync : Sync S α → Prog S α
  | .ret value => .ret value
  | .panic => .panic
  | .call op k => .call op fun ans => ofSync (k ans)

/-- Run a future under a deadline that has been armed. On expiry the future is
dropped at the suspension point it has reached, its clean-up runs, and only
then does the awaiting code see the elapsed timeout. -/
def withDeadline (timer : S.Timer) (deadline : Nat) : Prog S α → Prog S (Option α)
  | .ret value => .ret (some value)
  | .panic => .panic
  | .call op k => .call op fun ans => (k ans).withDeadline timer deadline
  | .arm timer' d k => .arm timer' d fun inner => (k inner).withDeadline timer deadline
  | .await issued op k timers expired cleanup =>
    .await issued op (fun ans => (k ans).withDeadline timer deadline)
      (timers ++ [(timer, deadline)])
      (fun j =>
        if j < timers.length then (expired j).withDeadline timer deadline
        else (ofSync cleanup).bind fun _ => .ret none)
      cleanup

/-- `tokio::time::timeout(d, p).await`: the deadline is fixed when the timeout
is created, `none` is the elapsed error. -/
def timeout (timer : S.Timer) (d : Nat) (p : Prog S α) : Prog S (Option α) :=
  .arm timer d fun deadline => p.withDeadline timer deadline

/-- A drop guard that lives exactly as long as `p`: it runs when `p` is dropped
at a suspension point or unwinds, and is disarmed when `p` returns. -/
def guarded (guard : Sync S Unit) : Prog S α → Prog S α
  | .ret value => .ret value
  | .panic => (ofSync guard).bind fun _ => .panic
  | .call op k => .call op fun ans => (k ans).guarded guard
  | .arm timer d k => .arm timer d fun deadline => (k deadline).guarded guard
  | .await issued op k timers expired cleanup =>
    .await issued op (fun ans => (k ans).guarded guard) timers
      (fun j => (expired j).guarded guard) (Sync.ensuring guard cleanup)

/-- The `?` operator: go on with the value, return the error. -/
def andThen {ε : Type} (p : Prog S (Except ε α)) (f : α → Prog S (Except ε β)) :
    Prog S (Except ε β) :=
  p.bind fun
    | .ok value => f value
    | .error err => .ret (.error err)

/-- `timeout(d, p).await.map_err(..)?.map_err(..)`: an elapsed timeout and an
error of the future both become errors of the caller. -/
def timed {ε ε' : Type} (timer : S.Timer) (d : Nat) (elapsed : ε) (failed : ε' → ε)
    (p : Prog S (Except ε' α)) : Prog S (Except ε α) :=
  (p.timeout timer d).bind fun
    | none => .ret (.error elapsed)
    | some (.error err) => .ret (.error (failed err))
    | some (.ok value) => .ret (.ok value)

/-- One step of a task at clock `now`. The label carries the answer, so the
step is a function; `none` means that the task cannot do this next. -/
def step (now : Nat) : Prog S α → Label S → Option (Prog S α)
  | .call op k, .call op' ans => if h : op' = op then some (k (h ▸ ans)) else none
  | .arm timer d k, .arm timer' deadline =>
    if timer' = timer ∧ deadline = now + d then some (k deadline) else none
  | .await false op k timers expired cleanup, .issue op' =>
    if op' = op then some (.await true op k timers expired cleanup) else none
  | .await true op k _ _ _, .done op' ans => if h : op' = op then some (k (h ▸ ans)) else none
  | .await true _ _ timers expired _, .fire j timer deadline =>
    if timers[j]? = some (timer, deadline) ∧ deadline ≤ now then some (expired j) else none
  | _, _ => none

/-- The clean-up owed when the task is dropped; only a suspended task can be. -/
def dropped : Prog S α → Option (Sync S Unit)
  | .await true _ _ _ _ cleanup => some cleanup
  | _ => none

/-- The task is suspended or over, and no timer of its suspension point is due
before `horizon`: virtual time may run up to there without this task moving. -/
def restsUntil (horizon : Nat) : Prog S α → Bool
  | .ret _ => true
  | .panic => true
  | .await true _ _ timers _ _ => timers.all fun timer => horizon ≤ timer.2
  | _ => false

/-- Suspended at a started operation, or over. -/
def resting : Prog S α → Bool
  | .ret _ => true
  | .panic => true
  | .await true _ _ _ _ _ => true
  | _ => false

@[simp] theorem bind_eq (p : Prog S α) (f : α → Prog S β) : (p >>= f) = p.bind f := rfl

@[simp] theorem pure_eq (value : α) : (pure value : Prog S α) = .ret value := rfl

@[simp] theorem bind_ret (value : α) (f : α → Prog S β) : (Prog.ret value).bind f = f value := rfl

@[simp] theorem step_perform_bind (op : S.Op) (k : S.Ans op → Prog S β) (now : Nat)
    (ans : S.Ans op) : ((perform op).bind k).step now (.call op ans) = some (k ans) := by
  simp [perform, Prog.bind, step]

end Prog

@[simp] theorem Sync.bind_eq (c : Sync S α) (f : α → Sync S β) : (c >>= f) = c.bind f := rfl

@[simp] theorem Sync.pure_eq (value : α) : (pure value : Sync S α) = .ret value := rfl

end MechanicsHttpClient.Runtime
