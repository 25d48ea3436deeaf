import MechanicsHttpClient.Runtime.Adequacy

/-!
# Protocols

A protocol is a flat state machine over the labels of one task: in each state it
takes a label or refuses it. It has no timeouts and no drop guards; what a task
does after it was cut or dropped stands in its table like everything else.

A program conforms to a protocol when it satisfies the protocol's monitor. Then
the protocol runs through the log of every task in every interleaved run
(`Reachable.conforms`), and what the table keeps (`Protocol.run_remembers`) or
spends (`Protocol.run_spends`) is a fact about all these logs.
-/

namespace MechanicsHttpClient.Runtime

/-- `waits` marks the states in which the task may be suspended. -/
structure Protocol (S : Signature) (σ : Type) where
  step : σ → Label S → Option σ
  waits : σ → Bool

variable {S : Signature} {σ α β : Type} {pace : Pace}

namespace Protocol

/-- The state after a log, if every label of it is taken. -/
def run (protocol : Protocol S σ) : σ → List (Entry S) → Option σ
  | s, [] => some s
  | s, e :: rest => (protocol.step s e.label).bind fun next => protocol.run next rest

def monitor (protocol : Protocol S σ) : Monitor S σ where
  next s _ label := (protocol.step s label).getD s
  assume _ _ _ := True
  check s _ label := (protocol.step s label).isSome = true
  rest s _ := protocol.waits s = true

variable {protocol : Protocol S σ}

theorem monitor_step {s next : σ} {t : Nat} {label : Label S}
    (taken : protocol.step s label = some next) :
    protocol.monitor.check s t label ∧ protocol.monitor.next s t label = next := by
  simp [monitor, taken]

theorem monitor_check {s : σ} {t : Nat} {label : Label S}
    (passes : protocol.monitor.check s t label) :
    protocol.step s label = some (protocol.monitor.next s t label) := by
  obtain ⟨next, taken⟩ := Option.isSome_iff_exists.mp passes
  rw [taken, (monitor_step taken).2]

theorem run_append (s : σ) (before after : List (Entry S)) :
    protocol.run s (before ++ after) =
      (protocol.run s before).bind fun middle => protocol.run middle after := by
  induction before generalizing s with
  | nil => rfl
  | cons e rest ih =>
    simp only [List.cons_append, run]
    cases protocol.step s e.label with
    | none => rfl
    | some next => simpa using ih next

/-- The last step of a run. -/
theorem run_snoc {s final : σ} {log : List (Entry S)} {e : Entry S}
    (ran : protocol.run s (log ++ [e]) = some final) :
    ∃ middle, protocol.run s log = some middle ∧ protocol.step middle e.label = some final := by
  rw [run_append] at ran
  obtain ⟨middle, reached, last⟩ := Option.bind_eq_some_iff.mp ran
  refine ⟨middle, reached, ?_⟩
  simpa [run] using last

/-- A run that passes an entry, cut there. -/
theorem run_split {s final : σ} {before after : List (Entry S)} {e : Entry S}
    (ran : protocol.run s (before ++ e :: after) = some final) :
    ∃ here next, protocol.run s before = some here ∧ protocol.step here e.label = some next ∧
      protocol.run next after = some final := by
  rw [run_append] at ran
  obtain ⟨here, reached, rest⟩ := Option.bind_eq_some_iff.mp ran
  obtain ⟨next, taken, rest⟩ := Option.bind_eq_some_iff.mp rest
  exact ⟨here, next, reached, taken, rest⟩

/-- A log that passes the monitor is a run of the protocol. -/
theorem run_of_passes (s : σ) (log : List (Entry S)) (passes : protocol.monitor.Passes s log) :
    protocol.run s log = some (protocol.monitor.run s log) := by
  induction log generalizing s with
  | nil => rfl
  | cons e rest ih =>
    rw [run, monitor_check passes.1, Option.bind_some, Monitor.run]
    exact ih _ passes.2

/-- The labels of a log, the last one first. -/
def past (log : List (Entry S)) : List (Label S) := (log.map Entry.label).reverse

/-- What every step keeps of the state and of what was done before. -/
theorem run_remembers {I : List (Label S) → σ → Prop}
    (keeps : ∀ past s label next, protocol.step s label = some next → I past s →
      I (label :: past) next) {s final : σ} {log : List (Entry S)}
    (ran : protocol.run s log = some final) (holds : I [] s) : I (past log) final := by
  have extended : ∀ (log : List (Entry S)) (s : σ) (before : List (Label S)),
      protocol.run s log = some final → I before s → I (past log ++ before) final := by
    intro log
    induction log with
    | nil =>
      intro s before ran holds
      cases ran
      exact holds
    | cons e rest ih =>
      intro s before ran holds
      obtain ⟨next, taken, ran⟩ := Option.bind_eq_some_iff.mp ran
      have later := ih next (e.label :: before) ran (keeps before s e.label next taken holds)
      simpa [past] using later
  simpa using extended log s [] ran holds

/-- What every step keeps of the state and of a monitor that goes along. -/
theorem run_tracks {τ : Type} {m : Monitor S τ} {I : τ → σ → Prop}
    (keeps : ∀ u s t label next, protocol.step s label = some next → I u s →
      I (m.next u t label) next) {u : τ} {s final : σ} {log : List (Entry S)}
    (ran : protocol.run s log = some final) (holds : I u s) : I (m.run u log) final := by
  induction log generalizing u s with
  | nil =>
    cases ran
    exact holds
  | cons e rest ih =>
    obtain ⟨next, taken, ran⟩ := Option.bind_eq_some_iff.mp ran
    exact ih ran (keeps u s e.time e.label next taken holds)

/-- The weights of the labels of a log, added up. -/
def total (weight : Label S → Nat) : List (Entry S) → Nat
  | [] => 0
  | e :: rest => weight e.label + total weight rest

theorem total_indicator (counts : Label S → Bool) (log : List (Entry S)) :
    total (fun label => if counts label then 1 else 0) log =
      log.countP fun e => counts e.label := by
  induction log with
  | nil => rfl
  | cons e rest ih =>
    rw [total, ih, List.countP_cons]
    omega

/-- What every step pays for out of a budget of its state is bounded in every run
by the budget at the start. -/
theorem run_spends {weight : Label S → Nat} {budget : σ → Nat}
    (spends : ∀ s label next, protocol.step s label = some next →
      weight label + budget next ≤ budget s) {s final : σ} {log : List (Entry S)}
    (ran : protocol.run s log = some final) : total weight log + budget final ≤ budget s := by
  induction log generalizing s with
  | nil =>
    cases ran
    simp [total]
  | cons e rest ih =>
    obtain ⟨next, taken, ran⟩ := Option.bind_eq_some_iff.mp ran
    have paid := spends s e.label next taken
    have later := ih ran
    rw [total]
    omega

end Protocol

/-- What a state does next: one instruction, with the state it leads to. A started
operation may also be settled by the expiry of its own timer. -/
inductive Move (S : Signature) (σ : Type) where
  | call (op : S.Op) (next : S.Ans op → σ)
  | arm (timer : S.Timer) (next : σ)
  | issue (op : S.Op) (next : σ)
  | settle (op : S.Op) (next : S.Ans op → σ) (expiry : Option (S.Timer × σ))
  | stop

def Move.step : Move S σ → Label S → Option σ
  | .call op next, .call op' ans => if h : op' = op then some (next (h ▸ ans)) else none
  | .arm timer next, .arm timer' _ => if timer' = timer then some next else none
  | .issue op next, .issue op' => if op' = op then some next else none
  | .settle op next _, .done op' ans => if h : op' = op then some (next (h ▸ ans)) else none
  | .settle _ _ (some (timer, elapsed)), .fire _ timer' _ =>
    if timer' = timer then some elapsed else none
  | _, _ => none

/-- Where a task is with an await. -/
inductive Wait where
  | due | armed | issued
  deriving DecidableEq

/-- One awaited operation, under a timer of its own or under none, and where its
answer and the expiry of the timer lead. -/
structure Await (S : Signature) (σ : Type) where
  op : S.Op
  timer : Option S.Timer
  settled : S.Ans op → σ
  elapsed : σ

def Await.move (await : Await S σ) (here : Wait → σ) : Wait → Move S σ
  | .due =>
    match await.timer with
    | some timer => .arm timer (here .armed)
    | none => .issue await.op (here .issued)
  | .armed => .issue await.op (here .issued)
  | .issued => .settle await.op await.settled (await.timer.map fun timer => (timer, await.elapsed))

namespace Move

@[simp] theorem step_call (op : S.Op) (next : S.Ans op → σ) (ans : S.Ans op) :
    (Move.call op next).step (.call op ans) = some (next ans) := by
  simp [step]

@[simp] theorem step_arm (timer : S.Timer) (next : σ) (deadline : Nat) :
    (Move.arm timer next).step (.arm timer deadline) = some next := by
  simp [step]

@[simp] theorem step_issue (op : S.Op) (next : σ) :
    (Move.issue op next).step (.issue op) = some next := by
  simp [step]

@[simp] theorem step_done (op : S.Op) (next : S.Ans op → σ) (expiry : Option (S.Timer × σ))
    (ans : S.Ans op) : (Move.settle op next expiry).step (.done op ans) = some (next ans) := by
  simp [step]

@[simp] theorem step_fire (op : S.Op) (next : S.Ans op → σ) (timer : S.Timer) (elapsed : σ)
    (j deadline : Nat) :
    (Move.settle op next (some (timer, elapsed))).step (.fire j timer deadline) =
      some elapsed := by
  simp [step]

theorem step_call_iff {op : S.Op} {k : S.Ans op → σ} {label : Label S} {next : σ} :
    (Move.call op k).step label = some next ↔ ∃ ans, label = .call op ans ∧ k ans = next := by
  constructor
  · intro taken
    cases label with
    | call op' ans =>
      simp only [step] at taken
      split at taken
      · rename_i same
        subst same
        exact ⟨ans, rfl, Option.some.inj taken⟩
      · cases taken
    | _ => cases taken
  · rintro ⟨ans, rfl, rfl⟩
    exact step_call op k ans

theorem step_arm_iff {timer : S.Timer} {after : σ} {label : Label S} {next : σ} :
    (Move.arm timer after).step label = some next ↔
      (∃ deadline, label = .arm timer deadline) ∧ after = next := by
  constructor
  · intro taken
    cases label with
    | arm timer' deadline =>
      simp only [step] at taken
      split at taken
      · rename_i same
        subst same
        exact ⟨⟨deadline, rfl⟩, Option.some.inj taken⟩
      · cases taken
    | _ => cases taken
  · rintro ⟨⟨deadline, rfl⟩, rfl⟩
    exact step_arm timer _ deadline

theorem step_issue_iff {op : S.Op} {after : σ} {label : Label S} {next : σ} :
    (Move.issue op after).step label = some next ↔ label = .issue op ∧ after = next := by
  constructor
  · intro taken
    cases label with
    | issue op' =>
      simp only [step] at taken
      split at taken
      · rename_i same
        subst same
        exact ⟨rfl, Option.some.inj taken⟩
      · cases taken
    | _ => cases taken
  · rintro ⟨rfl, rfl⟩
    exact step_issue op _

theorem step_settle_iff {op : S.Op} {k : S.Ans op → σ} {expiry : Option (S.Timer × σ)}
    {label : Label S} {next : σ} :
    (Move.settle op k expiry).step label = some next ↔
      (∃ ans, label = .done op ans ∧ k ans = next) ∨
      ∃ timer j deadline, expiry = some (timer, next) ∧ label = .fire j timer deadline := by
  constructor
  · intro taken
    cases label with
    | done op' ans =>
      simp only [step] at taken
      split at taken
      · rename_i same
        subst same
        exact .inl ⟨ans, rfl, Option.some.inj taken⟩
      · cases taken
    | fire j timer' deadline =>
      cases expiry with
      | none => cases taken
      | some expiry =>
        obtain ⟨timer, elapsed⟩ := expiry
        simp only [step] at taken
        split at taken
        · rename_i same
          subst same
          cases taken
          exact .inr ⟨_, j, deadline, rfl, rfl⟩
        · cases taken
    | _ => cases taken
  · rintro (⟨ans, rfl, rfl⟩ | ⟨timer, j, deadline, rfl, rfl⟩)
    · exact step_done op k expiry ans
    · exact step_fire op k timer next j deadline

theorem step_stop {label : Label S} {next : σ} : (Move.stop : Move S σ).step label ≠ some next := by
  cases label <;> exact fun taken => nomatch taken

end Move

/-- The steps of an await: its timer is armed, its operation started, answered, or cut. -/
theorem Await.step_cases {await : Await S σ} {here : Wait → σ} {wait : Wait} {label : Label S}
    {next : σ} (taken : (await.move here wait).step label = some next) :
    (∃ timer deadline, wait = .due ∧ await.timer = some timer ∧ label = .arm timer deadline ∧
      next = here .armed) ∨
    (wait ≠ .issued ∧ label = .issue await.op ∧ next = here .issued) ∨
    (∃ ans, wait = .issued ∧ label = .done await.op ans ∧ next = await.settled ans) ∨
    (∃ timer j deadline, wait = .issued ∧ await.timer = some timer ∧
      label = .fire j timer deadline ∧ next = await.elapsed) := by
  cases wait with
  | due =>
    cases own : await.timer with
    | some timer =>
      rw [Await.move, own, Move.step_arm_iff] at taken
      obtain ⟨⟨deadline, rfl⟩, rfl⟩ := taken
      exact .inl ⟨timer, deadline, rfl, rfl, rfl, rfl⟩
    | none =>
      rw [Await.move, own, Move.step_issue_iff] at taken
      obtain ⟨rfl, rfl⟩ := taken
      exact .inr (.inl ⟨Wait.noConfusion, rfl, rfl⟩)
  | armed =>
    rw [Await.move, Move.step_issue_iff] at taken
    obtain ⟨rfl, rfl⟩ := taken
    exact .inr (.inl ⟨Wait.noConfusion, rfl, rfl⟩)
  | issued =>
    rw [Await.move, Move.step_settle_iff] at taken
    rcases taken with ⟨ans, rfl, rfl⟩ | ⟨timer, j, deadline, expiry, rfl⟩
    · exact .inr (.inr (.inl ⟨ans, rfl, rfl, rfl⟩))
    · obtain ⟨timer', own, same⟩ := Option.map_eq_some_iff.mp expiry
      obtain ⟨rfl, rfl⟩ := Prod.mk.inj same
      exact .inr (.inr (.inr ⟨timer', j, deadline, rfl, own, rfl, rfl⟩))

/-- An operation is only started by its own await, and once. -/
theorem Await.step_issued {await : Await S σ} {here : Wait → σ} {wait : Wait} {op : S.Op}
    {next : σ} (taken : (await.move here wait).step (.issue op) = some next) :
    wait ≠ .issued ∧ op = await.op := by
  rcases Await.step_cases taken with
    ⟨timer, deadline, rfl, own, no, rfl⟩ | ⟨early, same, rfl⟩ | ⟨ans, rfl, no, rfl⟩ |
    ⟨timer, j, deadline, rfl, own, no, rfl⟩
  · cases no
  · cases same
    exact ⟨early, rfl⟩
  · cases no
  · cases no

/-- An await is no synchronous call. -/
theorem Await.step_called {await : Await S σ} {here : Wait → σ} {wait : Wait} {op : S.Op}
    {ans : S.Ans op} {next : σ} :
    (await.move here wait).step (.call op ans) ≠ some next := by
  intro taken
  rcases Await.step_cases taken with
    ⟨timer, deadline, rfl, own, no, rfl⟩ | ⟨early, no, rfl⟩ | ⟨ans, rfl, no, rfl⟩ |
    ⟨timer, j, deadline, rfl, own, no, rfl⟩
  all_goals cases no

theorem Await.step_answered {await : Await S σ} {here : Wait → σ} {wait : Wait} {op : S.Op}
    {ans : S.Ans op} {next : σ} (taken : (await.move here wait).step (.done op ans) = some next) :
    ∃ ans', Label.done op ans = .done await.op ans' ∧ next = await.settled ans' := by
  rcases Await.step_cases taken with
    ⟨timer, deadline, rfl, own, no, rfl⟩ | ⟨early, no, rfl⟩ | ⟨ans', rfl, same, rfl⟩ |
    ⟨timer, j, deadline, rfl, own, no, rfl⟩
  · cases no
  · cases no
  · exact ⟨ans', same, rfl⟩
  · cases no

/-- Only its own timer cuts an await. -/
theorem Await.step_fired {await : Await S σ} {here : Wait → σ} {wait : Wait} {timer : S.Timer}
    {j deadline : Nat} {next : σ}
    (taken : (await.move here wait).step (.fire j timer deadline) = some next) :
    wait = .issued ∧ await.timer = some timer ∧ next = await.elapsed := by
  rcases Await.step_cases taken with
    ⟨timer', deadline', rfl, own, no, rfl⟩ | ⟨early, no, rfl⟩ | ⟨ans, rfl, no, rfl⟩ |
    ⟨timer', j', deadline', rfl, own, same, rfl⟩
  · cases no
  · cases no
  · cases no
  · cases same
    exact ⟨rfl, own, rfl⟩

namespace Protocol

variable {protocol : Protocol S σ} {t : Nat} {s : σ}

/-- A synchronous operation that is taken whatever it answers. -/
theorem sat_call {P : Post σ α} {op : S.Op} {k : S.Ans op → Prog S α} {next : S.Ans op → σ}
    (taken : ∀ ans, protocol.step s (.call op ans) = some (next ans))
    (rest : ∀ ans t', (k ans).Sat protocol.monitor pace P t' (next ans)) :
    ((Prog.perform op).bind k).Sat protocol.monitor pace P t s := by
  refine Prog.Sat.perform_bind ?_
  intro t' ans _ _
  obtain ⟨passes, same⟩ := monitor_step (t := t') (taken ans)
  rw [same]
  exact ⟨passes, rest ans t'⟩

theorem sat_syncCall {P : Post σ α} {op : S.Op} {k : S.Ans op → Sync S α} {next : S.Ans op → σ}
    (taken : ∀ ans, protocol.step s (.call op ans) = some (next ans))
    (rest : ∀ ans t', (k ans).Sat protocol.monitor pace P t' (next ans)) :
    (Sync.call op k).Sat protocol.monitor pace P t s := by
  intro t' ans _ _
  obtain ⟨passes, same⟩ := monitor_step (t := t') (taken ans)
  rw [same]
  exact ⟨passes, rest ans t'⟩

/-- The protocol takes an await at `here`: `op` under `timer` or under none, and where
its answer and the expiry of the timer lead. -/
structure Awaits (protocol : Protocol S σ) (op : S.Op) (timer : Option S.Timer)
    (settled : S.Ans op → σ) (elapsed : σ) (here : Wait → σ) : Prop where
  arms : ∀ own, timer = some own → ∀ deadline,
    protocol.step (here .due) (.arm own deadline) = some (here .armed)
  starts : timer = none → protocol.step (here .due) (.issue op) = some (here .issued)
  issues : timer ≠ none → protocol.step (here .armed) (.issue op) = some (here .issued)
  settles : ∀ ans, protocol.step (here .issued) (.done op ans) = some (settled ans)
  expires : ∀ own, timer = some own → ∀ j deadline,
    protocol.step (here .issued) (.fire j own deadline) = some elapsed
  waits : protocol.waits (here .issued) = true

/-- A started operation: it is answered, cut by its own timer or dropped. -/
theorem parked {op : S.Op} {timers : List (S.Timer × Nat)}
    {completed : S.Ans op → Nat → σ → Prop} {fired : Nat → Nat → σ → Prop} {cleaned : Nat → σ → Prop}
    (waits : protocol.waits s = true)
    (done : ∀ ans, ∃ next, protocol.step s (.done op ans) = some next ∧
      ∀ t', completed ans t' next)
    (fires : ∀ j timer deadline, timers[j]? = some (timer, deadline) →
      ∃ next, protocol.step s (.fire j timer deadline) = some next ∧ ∀ t', fired j t' next)
    (dropped : ∀ t', cleaned t' s) :
    Parked protocol.monitor pace op timers completed fired cleaned t s := by
  intro t' _
  refine ⟨waits, ?_, ?_, dropped t'⟩
  · intro ans _
    obtain ⟨next, taken, goes⟩ := done ans
    obtain ⟨passes, same⟩ := monitor_step (t := t') taken
    rw [same]
    exact ⟨passes, goes t'⟩
  · intro j timer deadline found _ _
    obtain ⟨next, taken, goes⟩ := fires j timer deadline found
    obtain ⟨passes, same⟩ := monitor_step (t := t') taken
    rw [same]
    exact ⟨passes, goes t'⟩

theorem sat_suspend {op : S.Op} {settled : S.Ans op → σ} {elapsed : σ} {here : Wait → σ}
    {P : Post σ (S.Ans op)} (awaits : protocol.Awaits op none settled elapsed here)
    (returned : ∀ ans t', P.returned ans t' (settled ans))
    (dropped : ∀ t', P.dropped t' (here .issued)) :
    (Prog.suspend op).Sat protocol.monitor pace P t (here .due) := by
  intro t₁ _ _
  obtain ⟨passes, same⟩ := monitor_step (t := t₁) (awaits.starts rfl)
  rw [same]
  refine ⟨passes, parked awaits.waits ?_ ?_ dropped⟩
  · intro ans
    exact ⟨settled ans, awaits.settles ans, returned ans⟩
  · intro j timer deadline found
    simp at found

/-- An awaited operation under a timer of its own, with what is done with its answer
under the same timer. -/
theorem sat_timed_bind {op : S.Op} {timer : S.Timer} {d : Nat} {settled : S.Ans op → σ}
    {elapsed : σ} {here : Wait → σ} {f : S.Ans op → Prog S α} {P : Post σ (Option α)}
    (awaits : protocol.Awaits op (some timer) settled elapsed here)
    (returned : ∀ ans t' deadline,
      ((f ans).withDeadline timer deadline).Sat protocol.monitor pace P t' (settled ans))
    (cut : ∀ t', P.returned none t' elapsed) (dropped : ∀ t', P.dropped t' (here .issued)) :
    (((Prog.suspend op).bind f).timeout timer d).Sat protocol.monitor pace P t (here .due) := by
  intro t₁ _ _
  obtain ⟨passes₁, same₁⟩ := monitor_step (t := t₁) (awaits.arms timer rfl (t₁ + d))
  rw [same₁]
  refine ⟨passes₁, ?_⟩
  intro t₂ _ _
  obtain ⟨passes₂, same₂⟩ := monitor_step (t := t₂) (awaits.issues (by simp))
  rw [same₂]
  refine ⟨passes₂, parked awaits.waits ?_ ?_ dropped⟩
  · intro ans
    exact ⟨settled ans, awaits.settles ans, fun t' => returned ans t' _⟩
  · intro j timer' deadline found
    have own : (timer', deadline) = (timer, t₁ + d) :=
      List.mem_singleton.mp (List.mem_of_getElem? found)
    obtain ⟨rfl, rfl⟩ := Prod.mk.inj own
    exact ⟨elapsed, awaits.expires timer' rfl j _, cut⟩

theorem sat_timed {op : S.Op} {timer : S.Timer} {d : Nat} {settled : S.Ans op → σ} {elapsed : σ}
    {here : Wait → σ} {P : Post σ (Option (S.Ans op))}
    (awaits : protocol.Awaits op (some timer) settled elapsed here)
    (returned : ∀ ans t', P.returned (some ans) t' (settled ans))
    (cut : ∀ t', P.returned none t' elapsed) (dropped : ∀ t', P.dropped t' (here .issued)) :
    ((Prog.suspend op).timeout timer d).Sat protocol.monitor pace P t (here .due) :=
  sat_timed_bind (f := .ret) awaits (fun ans t' _ => returned ans t') cut dropped

/-- `R` leads from the states before an expiry to those after it, and what a
clean-up does in the one it may do in the other. -/
def Cuts (protocol : Protocol S σ) (R : σ → σ → Prop) : Prop :=
  ∀ s s' op ans next, R s s' → protocol.step s (.call op ans) = some next →
    ∃ next', protocol.step s' (.call op ans) = some next' ∧ R next next'

section Cuts

variable {R : σ → σ → Prop}

/-- What a future under a deadline has to establish where it may be cut or dropped. -/
def cutPost (R : σ → σ → Prop) (P : Post σ (Option α)) : Post σ α where
  returned a := P.returned (some a)
  panicked := P.panicked
  dropped t s := (∀ s', R s s' → P.returned none t s') ∧ P.dropped t s

/-- A clean-up that was verified for a drop, run because of the expiry. -/
theorem sat_cleanup {P P' : Post σ α} (cuts : protocol.Cuts R)
    (returned : ∀ a t s s', R s s' → P.returned a t s → P'.returned a t s')
    (panicked : ∀ t s s', R s s' → P.panicked t s → P'.panicked t s') (c : Sync S α) :
    ∀ {t s s'}, R s s' → c.Sat protocol.monitor pace P t s →
      c.Sat protocol.monitor pace P' t s' := by
  induction c with
  | ret value =>
    intro t s s' related h
    exact returned value t s s' related h
  | panic =>
    intro t s s' related h
    exact panicked t s s' related h
  | call op k ih =>
    intro t s s' related h t' ans elapsed admitted
    obtain ⟨passes, rest⟩ := h t' ans elapsed admitted
    have taken := monitor_check passes
    obtain ⟨next', taken', related'⟩ := cuts s s' op ans _ related taken
    obtain ⟨passes', same⟩ := monitor_step (t := t') taken'
    rw [same]
    exact ⟨passes', ih ans related' rest⟩

/-- A timeout whose expiry the protocol takes wherever the task may be suspended. -/
theorem sat_withDeadline {P : Post σ (Option α)} {timer : S.Timer} {deadline : Nat}
    (cuts : protocol.Cuts R)
    (fires : ∀ s, protocol.waits s = true → ∀ j, ∃ s',
      protocol.step s (.fire j timer deadline) = some s' ∧ R s s')
    (panicked : ∀ t s s', R s s' → P.panicked t s → P.panicked t s') (p : Prog S α) :
    ∀ {t s}, p.Sat protocol.monitor pace (cutPost R P) t s →
      (p.withDeadline timer deadline).Sat protocol.monitor pace P t s := by
  induction p with
  | ret value => exact fun h => h
  | panic => exact fun h => h
  | call op k ih =>
    intro t s h t' ans elapsed admitted
    exact ⟨(h t' ans elapsed admitted).1, ih ans (h t' ans elapsed admitted).2⟩
  | arm timer' d k ih =>
    intro t s h t' elapsed admitted
    exact ⟨(h t' elapsed admitted).1, ih _ (h t' elapsed admitted).2⟩
  | await issued op k timers expired cleanup ihDone ihFire =>
    have suspended : ∀ {t s}, (Prog.await true op k timers expired cleanup).Sat protocol.monitor
        pace (cutPost R P) t s →
        ((Prog.await true op k timers expired cleanup).withDeadline timer deadline).Sat
          protocol.monitor pace P t s := by
      intro t s h t' waits
      obtain ⟨rest, done, fire, drop⟩ := h t' waits.of_append
      refine ⟨rest, ?_, ?_, ?_⟩
      · intro ans admitted
        exact ⟨(done ans admitted).1, ihDone ans (done ans admitted).2⟩
      · intro j timer' deadline' found due admitted
        by_cases inner : j < timers.length
        · rw [List.getElem?_append_left inner] at found
          have passed := fire j timer' deadline' found due admitted
          refine ⟨passed.1, ?_⟩
          simp only [if_pos inner]
          exact ihFire j passed.2
        · have outer : (timer', deadline') = (timer, deadline) := by
            rw [List.getElem?_append_right (Nat.le_of_not_lt inner)] at found
            exact List.mem_singleton.mp (List.mem_of_getElem? found)
          obtain ⟨rfl, rfl⟩ := Prod.mk.inj outer
          obtain ⟨s', taken, related⟩ := fires s rest j
          obtain ⟨passes, same⟩ := monitor_step (t := t') taken
          refine ⟨passes, ?_⟩
          rw [same]
          simp only [if_neg inner]
          refine Prog.Sat.bind _ (Prog.Sat.ofSync cleanup (sat_cleanup cuts ?_ ?_ cleanup related drop))
          · intro _ t s s' related cut
            exact cut.1 s' related
          · exact panicked
      · exact Sync.Sat.imp (cutPost R P).afterDrop P.afterDrop (fun _ _ _ cut => cut.2)
          (fun _ _ stopped => stopped) cleanup drop
    cases issued with
    | true =>
      intro t s h
      exact suspended h
    | false =>
      intro t s h t' elapsed admitted
      exact ⟨(h t' elapsed admitted).1, suspended (h t' elapsed admitted).2⟩

theorem sat_timeout {P : Post σ (Option α)} {timer : S.Timer} {d : Nat} {p : Prog S α} (next : σ)
    (cuts : protocol.Cuts R)
    (fires : ∀ s, protocol.waits s = true → ∀ j deadline, ∃ s',
      protocol.step s (.fire j timer deadline) = some s' ∧ R s s')
    (panicked : ∀ t s s', R s s' → P.panicked t s → P.panicked t s')
    (armed : ∀ deadline, protocol.step s (.arm timer deadline) = some next)
    (body : ∀ t', p.Sat protocol.monitor pace (cutPost R P) t' next) :
    (p.timeout timer d).Sat protocol.monitor pace P t s := by
  intro t' _ _
  obtain ⟨passes, same⟩ := monitor_step (t := t') (armed (t' + d))
  refine ⟨passes, ?_⟩
  rw [same]
  exact sat_withDeadline cuts (fun s waits j => fires s waits j _) panicked p (body t')

end Cuts

end Protocol

/-- What a protocol knows of the ends of a task. -/
structure Ending (σ ρ : Type) where
  returned : ρ → σ → Prop
  panicked : σ → Prop
  dropped : σ → Prop

def Ending.post {ρ : Type} (ending : Ending σ ρ) : Post σ ρ :=
  ⟨fun result _ => ending.returned result, fun _ => ending.panicked, fun _ => ending.dropped⟩

/-- The task is at this state of its protocol: wherever it is suspended or over,
the state says so. -/
structure Protocol.At {ρ : Type} (protocol : Protocol S σ) (ending : Ending σ ρ) (body : Body S ρ)
    (s : σ) : Prop where
  returned : ∀ result, body = .running (.ret result) → ending.returned result s
  panicked : body = .running .panic ∨ body = .dropping .panic → ending.panicked s
  dropped : body = .dropping (.ret ()) → ending.dropped s
  suspended : body.resting = true → body.unfinished = true → protocol.waits s = true

/-- The log of every task of every run is a run of its protocol. -/
theorem Reachable.conforms {Y : System S} {clock : Nat} {shared : Y.Shared} {w : World Y}
    {protocol : Y.Job → Protocol S σ} {ending : Y.Job → Ending σ Y.Result} {start : Y.Job → σ}
    (conforms : ∀ job t, (Y.program job).Sat (protocol job).monitor pace (ending job).post t
      (start job))
    (h : Reachable pace (.start clock shared) w) {i : Nat} {task : Task Y}
    (found : w.tasks[i]? = some task) :
    ∃ s, (protocol task.job).run (start task.job) (w.logOf i) = some s ∧
      (protocol task.job).At (ending task.job) task.body s := by
  obtain ⟨passes, t, live, sat⟩ := Reachable.sat (m := fun job => (protocol job).monitor)
    (P := fun job _ => (ending job).post) conforms h found
    (Monitor.admits_of_trivial _ (fun _ _ _ => True.intro) _ _)
  refine ⟨_, Protocol.run_of_passes _ _ passes, ?_⟩
  refine ⟨?_, ?_, ?_, sat.rest live⟩
  · intro result isOver
    rw [isOver] at sat
    exact sat
  · intro isOver
    rcases isOver with isOver | isOver
    · rw [isOver] at sat
      exact sat
    · rw [isOver] at sat
      exact sat
  · intro isOver
    rw [isOver] at sat
    exact sat

end MechanicsHttpClient.Runtime
