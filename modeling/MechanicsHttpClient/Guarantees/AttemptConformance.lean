import MechanicsHttpClient.Guarantees.SendProtocol
import MechanicsHttpClient.Guarantees.Phases

/-!
# Attempts conform to the protocol of a send

The steps of the protocol's table as rules for the program: a call, an await with
its timers, the expiry of the request's timeout. By these an attempt, its rounds
and the drop of its guard conform, part by part in the order of the source.
-/

namespace MechanicsHttpClient.Guarantees

open MechanicsHttpClient.Runtime
open MechanicsHttpClient.Source

variable {pace : Pace} {plan : Plan} {t : Nat}

/-- The protocol follows its table as long as the request's timeout has not expired. -/
theorem Plan.follows {stage next : Stage} {label : Label sig}
    (moved : (plan.move stage).step label = some next)
    (own : requestFires label = true → stage.probing = false) :
    plan.protocol.step ⟨stage, false⟩ label = some ⟨next, requestFires label⟩ := by
  have taken : plan.next false stage label = some next := by
    have notCut : (requestFires label && plan.timed && stage.probing) = false := by
      cases fires : requestFires label with
      | true => simp [own fires]
      | false => rfl
    cases label with
    | call op ans => simp [Plan.next, moved]
    | _ => simp [Plan.next, notCut, moved]
  simp [Plan.protocol, taken]

/-- It follows the synchronous operations of its table also after that. -/
theorem Plan.taken {stage : Stage} {op : Op} {k : op.Ans → Stage}
    (table : plan.move stage = .call op k) (expired : Bool) (ans : op.Ans) :
    plan.protocol.step ⟨stage, expired⟩ (.call op ans) = some ⟨k ans, expired⟩ := by
  have first : (plan.move stage).step (.call op ans) = some (k ans) := by
    rw [table]
    exact @Move.step_call sig _ op k ans
  simp [Plan.protocol, Plan.next, first, requestFires]

/-- The clean-up of a drop or a cut begins where the table itself takes nothing. -/
theorem Plan.cleans {stage : Stage} {op : Op} {k : op.Ans → Stage} {ans : op.Ans}
    (silent : (plan.move stage).step (.call op ans) = none) (table : cleanup stage = .call op k)
    (expired : Bool) :
    plan.protocol.step ⟨stage, expired⟩ (.call op ans) = some ⟨k ans, expired⟩ := by
  have first : (cleanup stage).step (.call op ans) = some (k ans) := by
    rw [table]
    exact @Move.step_call sig _ op k ans
  simp only [Plan.protocol, Plan.next, silent, first, Option.none_or, Option.some_or,
    Option.map_some, requestFires, Bool.or_false]

/-- After the expiry `send` goes on where neither does. -/
theorem Plan.resumes {stage : Stage} {op : Op} {k : op.Ans → Stage} {ans : op.Ans}
    (silent : (plan.move stage).step (.call op ans) = none)
    (clean : (cleanup stage).step (.call op ans) = none) (table : afterCut stage = .call op k) :
    plan.protocol.step ⟨stage, true⟩ (.call op ans) = some ⟨k ans, true⟩ := by
  have first : (afterCut stage).step (.call op ans) = some (k ans) := by
    rw [table]
    exact @Move.step_call sig _ op k ans
  simp only [Plan.protocol, Plan.next, silent, clean, first, Option.none_or, if_true,
    Option.map_some, requestFires, Bool.or_false]

theorem Plan.sat_call {α : Type} {stage : Stage} {expired : Bool} {op : Op} {k : op.Ans → Stage}
    {P : Post Position α} {rest : op.Ans → Prog sig α} (table : plan.move stage = .call op k)
    (goesOn : ∀ ans t, (rest ans).Sat plan.protocol.monitor pace P t ⟨k ans, expired⟩) :
    ((perform op).bind rest).Sat plan.protocol.monitor pace P t ⟨stage, expired⟩ :=
  Protocol.sat_call (Plan.taken table expired) goesOn

theorem Plan.sat_syncCall {α : Type} {stage : Stage} {expired : Bool} {op : Op}
    {k : op.Ans → Stage} {P : Post Position α} {rest : op.Ans → Sync sig α}
    (table : plan.move stage = .call op k)
    (goesOn : ∀ ans t, (rest ans).Sat plan.protocol.monitor pace P t ⟨k ans, expired⟩) :
    (@Sync.call sig α op rest).Sat plan.protocol.monitor pace P t ⟨stage, expired⟩ :=
  Protocol.sat_syncCall (Plan.taken table expired) goesOn

/-- An await of the table. The flag says whether its timer is the request's, which has
to be told from that of an await inside `try_http3`. -/
theorem Plan.awaits {op : Op} {timer : Option Timer} {settled : op.Ans → Stage} {elapsed : Stage}
    {here : Wait → Stage} {flag : Bool}
    (table : ∀ wait,
      plan.move (here wait) = @Await.move sig _ ⟨op, timer, settled, elapsed⟩ here wait)
    (flagged : ∀ own, timer = some own → decide (own = .request) = flag)
    (told : flag = true → (here .issued).probing = false)
    (waiting : (here .issued).waiting = true) :
    plan.protocol.Awaits op timer (fun ans => ⟨settled ans, false⟩) ⟨elapsed, flag⟩
      fun wait => ⟨here wait, false⟩ where
  arms own isOwn deadline := by
    refine Plan.follows ?_ (fun fires => nomatch fires)
    rw [table, isOwn]
    exact Move.step_arm own _ deadline
  starts bare := by
    refine Plan.follows ?_ (fun fires => nomatch fires)
    rw [table, bare]
    exact @Move.step_issue sig _ op _
  issues _ := by
    refine Plan.follows ?_ (fun fires => nomatch fires)
    rw [table]
    exact @Move.step_issue sig _ op _
  settles ans := by
    refine Plan.follows ?_ (fun fires => nomatch fires)
    rw [table]
    exact @Move.step_done sig _ op _ _ ans
  expires own isOwn j deadline := by
    have isFlag : requestFires (.fire j own deadline) = flag := by
      rw [← flagged own isOwn]
      cases own <;> rfl
    rw [← isFlag]
    refine Plan.follows ?_ (fun fires => told (isFlag ▸ fires))
    rw [table, isOwn]
    exact @Move.step_fire sig _ op _ own _ j deadline
  waits := by simp [Plan.protocol, waiting]

/-- An await under a timer other than the request's, or under none. -/
theorem Plan.awaits_inner {op : Op} {timer : Option Timer} {settled : op.Ans → Stage}
    {elapsed : Stage} (here : Wait → Stage)
    (table : ∀ wait,
      plan.move (here wait) = @Await.move sig _ ⟨op, timer, settled, elapsed⟩ here wait)
    (inner : timer ≠ some .request) (waiting : (here .issued).waiting = true) :
    plan.protocol.Awaits op timer (fun ans => ⟨settled ans, false⟩) ⟨elapsed, false⟩
      fun wait => ⟨here wait, false⟩ := by
  refine Plan.awaits table ?_ (fun no => nomatch no) waiting
  intro own isOwn
  rw [isOwn] at inner
  simpa using inner

/-- The ends of a part of an attempt: what its value and its error lead to. It may be
dropped wherever the attempt is suspended. -/
def attemptPart {ε α : Type} (round : Round) (settled : α → Stage) (failed : ε → Stage) :
    Post Position (Except ε α) where
  returned
    | .ok value, _, position => position = ⟨settled value, false⟩
    | .error err, _, position => position = ⟨failed err, false⟩
  panicked _ _ := False
  dropped _ position := ∃ leg, position = ⟨.attempting round leg .issued, false⟩

section Attempt

variable {round : Round}

/-- The await of a leg. -/
theorem Plan.awaits_leg {leg : Leg} {op : Op} {timer : Option Timer} {settled : op.Ans → Stage}
    {elapsed : Stage}
    (table : ∀ wait, plan.attemptMove round leg wait =
      @Await.move sig _ ⟨op, timer, settled, elapsed⟩ (.attempting round leg) wait)
    (inner : timer ≠ some .request) :
    plan.protocol.Awaits op timer (fun ans => ⟨settled ans, false⟩) ⟨elapsed, false⟩
      fun wait => ⟨.attempting round leg wait, false⟩ :=
  Plan.awaits_inner (.attempting round leg) table inner rfl

theorem attemptPart_andThen {ε α β : Type} {settled : β → Stage} {failed : ε → Stage}
    (first : α → Stage) {p : Prog sig (Except ε α)} {f : α → Prog sig (Except ε β)}
    {position : Position}
    (part : p.Sat plan.protocol.monitor pace (attemptPart round first failed) t position)
    (rest : ∀ value t, (f value).Sat plan.protocol.monitor pace
      (attemptPart round settled failed) t ⟨first value, false⟩) :
    (p.andThen f).Sat plan.protocol.monitor pace (attemptPart round settled failed) t position := by
  refine Prog.Sat.andThen _ (part.mono ?_ (fun _ _ => id) fun _ _ => id)
  intro result t position returned
  cases result with
  | error err => exact returned
  | ok value =>
    cases returned
    exact rest value t

theorem firstSocketAddr_conforms :
    (firstSocketAddr round.target.authorityHost round.target.target.port
      round.target.addresses).Sat plan.protocol.monitor pace
      (attemptPart round (fun addr => .attempting round (.connect addr) .due) round.refused) t
      ⟨round.dialling, false⟩ := by
  cases hints : round.target.addresses with
  | cons addr rest =>
    simp only [Round.dialling, hints]
    rfl
  | nil =>
    simp only [Round.dialling, hints, firstSocketAddr]
    refine attemptPart_andThen round.resolved ?_ ?_
    · refine Prog.Sat.bind _ (Protocol.sat_timed (Plan.awaits_leg (fun _ => rfl) ?_) ?_ ?_ ?_)
      · simp
      · intro ans t'
        cases ans with
        | ok addrs => rfl
        | error message => rfl
      · intro t'
        rfl
      · intro t'
        exact ⟨.resolve, rfl⟩
    · intro addrs t
      cases addrs with
      | nil => rfl
      | cons addr rest => rfl

theorem connection_conforms :
    (connection round.target.authorityHost round.target.target.port
      round.target.addresses).Sat plan.protocol.monitor pace
      (attemptPart round (fun _ => .attempting round .openStream .due) round.refused) t
      ⟨.attempting round .endpoint .due, false⟩ := by
  unfold connection
  refine attemptPart_andThen (fun _ => round.dialling) ?_ ?_
  · refine Plan.sat_call rfl ?_
    intro ans t
    cases ans with
    | ok _ => rfl
    | error message => rfl
  intro _ t
  refine attemptPart_andThen (fun addr => .attempting round (.connect addr) .due)
    firstSocketAddr_conforms ?_
  intro addr t
  refine attemptPart_andThen (fun _ => .attempting round .connecting .due) ?_ ?_
  · refine Plan.sat_call rfl ?_
    intro ans t
    cases ans with
    | ok _ => rfl
    | error message => rfl
  intro _ t
  refine attemptPart_andThen (fun _ => .attempting round .build .due) ?_ ?_
  · refine Prog.Sat.bind _ (Protocol.sat_timed (Plan.awaits_leg (fun _ => rfl) ?_) ?_ ?_ ?_)
    · simp
    · intro ans t'
      cases ans with
      | ok _ => rfl
      | error message => rfl
    · intro t'
      rfl
    · intro t'
      exact ⟨.connecting, rfl⟩
  intro _ t
  refine Prog.Sat.bind _ (Protocol.sat_timed (Plan.awaits_leg (fun _ => rfl) ?_) ?_ ?_ ?_)
  · simp
  · intro ans t'
    cases ans with
    | ok _ => rfl
    | error message => rfl
  · intro t'
    rfl
  · intro t'
    exact ⟨.build, rfl⟩

/-- The retry flag of a stream failure, as the stage has it. -/
def Round.broken (round : Round) : Http3AttemptError → Stage := fun err => .closing round (.error err)

theorem requestOnStream_conforms :
    (requestOnStream plan.http3Request round.aim.body).Sat plan.protocol.monitor pace
      (attemptPart round (fun response => .closing round (.ok response)) round.broken) t
      ⟨.attempting round .openStream .due, false⟩ := by
  unfold requestOnStream
  refine attemptPart_andThen round.opened ?_ ?_
  · refine Prog.Sat.bind _ (Protocol.sat_timed (Plan.awaits_leg (fun _ => rfl) ?_) ?_ ?_ ?_)
    · simp
    · intro ans t'
      cases ans with
      | ok stream => rfl
      | error err => rfl
    · intro t'
      rfl
    · intro t'
      exact ⟨.openStream, rfl⟩
  intro stream t
  refine attemptPart_andThen (fun _ => .attempting round (.finish stream) .due) ?_ ?_
  · cases payload : round.aim.body with
    | none =>
      simp only [Round.opened, payload]
      rfl
    | some body =>
      simp only [Round.opened, payload, uploadBody]
      refine Prog.Sat.bind _ (Protocol.sat_timed (Plan.awaits_leg (fun _ => rfl) ?_) ?_ ?_ ?_)
      · simp
      · intro ans t'
        cases ans with
        | ok _ => rfl
        | error err => rfl
      · intro t'
        rfl
      · intro t'
        exact ⟨.upload stream body, rfl⟩
  intro _ t
  refine attemptPart_andThen (fun _ => .attempting round (.receive stream) .due) ?_ ?_
  · refine Prog.Sat.bind _ (Protocol.sat_timed (Plan.awaits_leg (fun _ => rfl) ?_) ?_ ?_ ?_)
    · simp
    · intro ans t'
      cases ans with
      | ok _ => rfl
      | error err => rfl
    · intro t'
      rfl
    · intro t'
      exact ⟨.finish stream, rfl⟩
  intro _ t
  refine Prog.Sat.bind _ (Protocol.sat_suspend (Plan.awaits_leg (fun _ => rfl) ?_) ?_ ?_)
  · simp
  · intro ans t'
    cases ans with
    | ok parts => rfl
    | error err => rfl
  · intro t'
    exact ⟨.receive stream, rfl⟩

theorem http3Request_conforms :
    (http3Request (callOf round.target plan.http3Request round.aim.body)).Sat
      plan.protocol.monitor pace
      (attemptPart round (fun response => .closing round (.ok response)) round.broken) t
      ⟨.attempting round .endpoint .due, false⟩ := by
  unfold http3Request
  refine Prog.Sat.bind _ (connection_conforms.mono ?_ (fun _ _ => id) fun _ _ => id)
  intro connected t position returned
  cases connected with
  | ok _ =>
    cases returned
    exact requestOnStream_conforms
  | error message => exact returned

/-- Where a send may have been dropped inside `try_http3`. -/
def DroppedProbing (aim : Aim) (position : Position) : Prop :=
  position = ⟨.dropped aim, false⟩ ∨ ∃ now, position = ⟨.looking aim now .issued, false⟩

/-- The ends of a part of `try_http3`. -/
def probePart {α : Type} (aim : Aim) (settled : α → Stage) : Post Position α where
  returned value _ position := position = ⟨settled value, false⟩
  panicked _ position := position.stage = .unwound
  dropped _ := DroppedProbing aim

/-- The two critical sections of `insert_negative`, from whichever stage. -/
theorem insertNegative_conforms {client : Client} {origin : Origin} {now : Instant}
    {blaming after : Stage} (evicting : Stage) {expired : Bool} {P : Post Position Unit}
    (inserts : plan.move blaming =
      .call (.negativeInsert origin now client.http3NegativeCacheDuration) (Plan.stored evicting))
    (removes : plan.move evicting = .call (.altSvcRemove origin) fun _ => after)
    (returned : ∀ t, P.returned () t ⟨after, expired⟩)
    (panicked : ∀ t, P.panicked t ⟨.unwound, expired⟩) :
    (insertNegative client origin now).Sat plan.protocol.monitor pace P t
      ⟨blaming, expired⟩ := by
  refine Plan.sat_syncCall inserts ?_
  intro stored t
  cases stored with
  | error panic => exact panicked t
  | ok _ =>
    refine Plan.sat_syncCall removes ?_
    intro _ t
    exact returned t

/-- The drop guard of an attempt in flight. -/
theorem cancellationGuardDrop_conforms {client : Client} {leg : Leg} {expired : Bool}
    {P : Post Position Unit} (same : plan.negativeFor = client.http3NegativeCacheDuration)
    (returned : ∀ t, P.returned () t ⟨.dropped round.aim, expired⟩)
    (panicked : ∀ t, P.panicked t ⟨.unwound, expired⟩) :
    (cancellationGuardDrop client round.origin).Sat plan.protocol.monitor pace P t
      ⟨.attempting round leg .issued, expired⟩ := by
  have cleans : ∀ ans, plan.protocol.step ⟨.attempting round leg .issued, expired⟩
      (.call (.trace (.http3Dropped round.origin)) ans) =
        some ⟨.dropping round.aim, expired⟩ := by
    intro ans
    have silent : (plan.move (.attempting round leg .issued)).step
        (.call (.trace (.http3Dropped round.origin)) ans) = none := by
      cases leg <;> rfl
    exact Plan.cleans silent rfl expired
  refine Protocol.sat_syncCall cleans ?_
  intro _ t
  refine Plan.sat_syncCall rfl ?_
  intro now t
  refine insertNegative_conforms (.uprooting round.aim) ?_ rfl returned panicked
  rw [← same]
  rfl

theorem Round.target_origin (round : Round) : round.target.origin = round.origin := by
  unfold Round.target
  split <;> rfl

theorem guardedAttempt_conforms {client : Client}
    (same : plan.negativeFor = client.http3NegativeCacheDuration) :
    (guardedAttempt client round.target plan.http3Request round.aim.body round.attempt).Sat
      plan.protocol.monitor pace (probePart round.aim round.next) t ⟨.opening round, false⟩ := by
  unfold guardedAttempt
  rw [round.target_origin]
  refine Plan.sat_call rfl ?_
  intro _ t
  refine Prog.Sat.bind _ (Prog.Sat.guarded _ (http3Request_conforms.mono ?_ ?_ ?_))
  · intro result t position returned
    have closing : position = ⟨.closing round result, false⟩ := by
      cases result with
      | ok response => exact returned
      | error err => exact returned
    subst closing
    refine Plan.sat_call rfl ?_
    intro _ t
    rfl
  · exact fun _ _ never => never.elim
  · intro t position flying
    obtain ⟨leg, rfl⟩ := flying
    refine cancellationGuardDrop_conforms same ?_ (fun _ => rfl)
    intro t
    exact .inl rfl

/-- The ends of a route and of `try_http3`: a response, or what is tried next. -/
def routePart (aim : Aim) (after : Stage) : Post Position (Except Error (Option Response)) where
  returned
    | .ok (some response), _, position => position = ⟨.leaving (some response), false⟩
    | .ok none, _, position => position = ⟨after, false⟩
    | .error _, _, _ => False
  panicked _ position := position.stage = .unwound
  dropped _ := DroppedProbing aim

theorem giveUp_conforms {client : Client}
    (same : plan.negativeFor = client.http3NegativeCacheDuration) :
    (giveUp client round.origin round.now).Sat plan.protocol.monitor pace
      (routePart round.aim round.abandon) t ⟨.blaming round, false⟩ := by
  refine Prog.Sat.bind _ (Prog.Sat.ofSync _ ?_)
  refine insertNegative_conforms (.evicting round) ?_ rfl (fun _ => rfl) (fun _ => rfl)
  rw [← same]
  rfl

/-- One round of the loop. -/
theorem round_conforms {client : Client} {attempts : List Nat}
    (same : plan.negativeFor = client.http3NegativeCacheDuration)
    (retried : ∀ retryWithoutH3,
      h3StreamFailureAction retryWithoutH3 round.attempt = .retryFreshH3 → ∀ t,
      (retryLoop client round.target plan.http3Request round.aim.body round.now attempts).Sat
        plan.protocol.monitor pace (routePart round.aim round.abandon) t
        ⟨.opening { round with attempt := round.attempt + 1 }, false⟩) :
    (retryLoop client round.target plan.http3Request round.aim.body round.now
      (round.attempt :: attempts)).Sat plan.protocol.monitor pace (routePart round.aim round.abandon) t
      ⟨.opening round, false⟩ := by
  refine retryLoop_sat ((guardedAttempt_conforms same).mono ?_ (fun _ _ => id) fun _ _ => id)
  intro result t position returned
  cases returned
  rcases result with (message | retryWithoutH3) | response
  · simp only [AfterAttempt, round.target_origin]
    exact giveUp_conforms same
  · simp only [AfterAttempt, Round.next, round.target_origin]
    cases action : h3StreamFailureAction retryWithoutH3 round.attempt with
    | retryFreshH3 => exact retried retryWithoutH3 action t
    | useTcp => exact giveUp_conforms same
  · rfl

/-- The loop has at most two rounds. -/
theorem staleRetry_conforms {client : Client}
    (same : plan.negativeFor = client.http3NegativeCacheDuration) (first : round.attempt = 0) :
    (requestHttp3WithStaleRetry client round.target plan.http3Request round.aim.body
      round.now).Sat plan.protocol.monitor pace (routePart round.aim round.abandon) t
      ⟨.opening round, false⟩ := by
  obtain ⟨aim, now, route, attempt⟩ := round
  subst first
  refine round_conforms same ?_
  intro _ _ t
  refine @round_conforms _ _ _ ⟨aim, now, route, 1⟩ _ _ same ?_
  intro retryWithoutH3 again
  simp [h3StreamFailureAction] at again

end Attempt

end MechanicsHttpClient.Guarantees
