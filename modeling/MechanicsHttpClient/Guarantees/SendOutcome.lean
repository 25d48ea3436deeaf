import MechanicsHttpClient.Guarantees.NegativeCause
import MechanicsHttpClient.Guarantees.SendConformance

/-!
# How a send ends

What a send returns is read off its log, the last label first (`Explains`): a
response is the answer of the operation that was awaited last, with nothing
after it but the Alt-Svc bookkeeping; an error is a timeout that expired or
hyper's own error, or the one that the builder was rejected with. This follows
from what the protocol remembers (`Remembers`) of the labels it has taken.
-/

namespace MechanicsHttpClient.Guarantees

open MechanicsHttpClient.Runtime
open MechanicsHttpClient.Source

/-- What a label says of the last attempt to open a stream. -/
def openMark : Label sig → Option (Option BodyHandle)
  | .done (.sendRequest _) (.ok stream) => some (some stream)
  | .done (.sendRequest _) (.error _) => some none
  | _ => none

/-- The stream that was opened last. -/
def openedLast : List (Label sig) → Option BodyHandle
  | [] => none
  | label :: older => (openMark label).getD (openedLast older)

/-- An attempt starts, or none is in flight any more. -/
def flightMark : Label sig → Option (Option Origin)
  | .call (.trace (.http3Request origin _)) _ => some (some origin)
  | .call (.trace (.http3Outcome _ _ _)) _ => some none
  | .call (.trace (.http3Dropped _)) _ => some none
  | _ => none

/-- The origin of the attempt that has been started and has neither ended nor been dropped. -/
def inFlight : List (Label sig) → Option Origin
  | [] => none
  | label :: older => (flightMark label).getD (inFlight older)

/-- The last label is the answer of an attempt, on the stream that it opened. -/
inductive OverHttp3 : List (Label sig) → Response → Prop where
  | received {older : List (Label sig)} {stream : BodyHandle} (parts : ResponseParts)
      (opened : openedLast older = some stream) :
      OverHttp3 (.done .recvResponse (.ok parts) :: older) (Response.newH3 parts stream)

/-- The last label is hyper's answer. -/
inductive OverTcp (plan : Plan) : List (Label sig) → Response → Prop where
  | received (older : List (Label sig)) (parts : ResponseParts) (incoming : BodyHandle) :
      OverTcp plan (.done (.hyperRequest plan.tcpRequest) (.ok (parts, incoming)) :: older)
        (Response.new parts incoming)

/-- What the log of a send says of its result. -/
inductive Explains (plan : Plan) : List (Label sig) → Except Error Response → Prop where
  | http3 {older : List (Label sig)} {response : Response} (origin : Origin) (attempt : Nat)
      (answer : OverHttp3 older response) :
      Explains plan (.call (.trace .tryHttp3Left) () ::
        .call (.trace (.http3Outcome origin attempt .responded)) () :: older) (.ok response)
  | tcp {past : List (Label sig)} {response : Response} (answer : OverTcp plan past response)
      (silent : plan.arrived response = .ended (.ok response)) : Explains plan past (.ok response)
  | learnt {older : List (Label sig)} {response : Response} {origin : Origin}
      {value : HeaderValue} {now : Instant} {update : AltSvc.AltSvcUpdate}
      (answer : OverTcp plan older response)
      (advertises : plan.arrived response = .learning response origin value)
      (parsed : AltSvc.parseHeader value now origin.port = .ok update) :
      Explains plan (.call (.altSvcUpdate origin update) () :: .call .instantNow now :: older)
        (.ok response)
  | failed (older : List (Label sig)) (err : LegacyError) :
      Explains plan (.done (.hyperRequest plan.tcpRequest) (.error err) :: older)
        (.error (mapLegacyError err))
  | timedOut {past : List (Label sig)} (fired : ∃ label ∈ past, requestFires label = true) :
      Explains plan past (.error .timeout)

/-- The last label is the one on which a send panics: the deadline of a negative entry or the
expiry of an Alt-Svc entry overflows. -/
inductive Overflowed (plan : Plan) : List (Label sig) → Prop where
  | negative {older : List (Label sig)} (origin : Origin) (now : Instant) (duration : Duration)
      (panic : Panic) :
      Overflowed plan (.call (.negativeInsert origin now duration) (.error panic) :: older)
  | altSvc {older : List (Label sig)} {response : Response} {origin : Origin}
      {value : HeaderValue} {now : Instant} {panic : Panic} (answer : OverTcp plan older response)
      (advertises : plan.arrived response = .learning response origin value)
      (overflow : AltSvc.parseHeader value now origin.port = .error panic) :
      Overflowed plan (.call .instantNow now :: older)

/-- The origin of an attempt between its start and its end. -/
def Stage.flies : Stage → Option Origin
  | .attempting round _ _ => some round.origin
  | .closing round _ => some round.origin
  | _ => none

/-- The stages that a send may be in after its timeout has expired. -/
def Stage.late : Stage → Bool
  | .attempting _ _ .issued => true
  | .looking _ _ .issued => true
  | .transmitting .issued => true
  | .dropping _ => true
  | .condemning _ _ => true
  | .uprooting _ => true
  | .dropped _ => true
  | .timedOut _ _ => true
  | .expelling _ => true
  | .ended (.error .timeout) => true
  | .unwound => true
  | _ => false

/-- What a stage says of the labels before it. -/
def Stage.Tells (plan : Plan) (expired : Bool) (past : List (Label sig)) : Stage → Prop
  | .attempting _ leg _ => ∀ stream, leg.stream = some stream → openedLast past = some stream
  | .closing _ (.ok response) => OverHttp3 past response
  | .leaving (some response) => ∃ origin attempt older, OverHttp3 older response ∧
      past = .call (.trace (.http3Outcome origin attempt .responded)) () :: older
  | .looking aim _ .issued => expired = false →
      ∃ older, past = .issue (.lookupHttps aim.origin.host) :: older
  | .transmitting .issued => expired = false →
      ∃ older, past = .issue (.hyperRequest plan.tcpRequest) :: older
  | .learning response origin value => OverTcp plan past response ∧
      plan.arrived response = .learning response origin value
  | .updating response origin update => ∃ value now older, OverTcp plan older response ∧
      plan.arrived response = .learning response origin value ∧
      AltSvc.parseHeader value now origin.port = .ok update ∧
      past = .call .instantNow now :: older
  | .timedOut _ _ => expired = true
  | .expelling _ => expired = true
  | .ended result => Explains plan past result
  | .unwound => Overflowed plan past
  | _ => True

/-- What is known at a position. -/
structure Remembers (plan : Plan) (past : List (Label sig)) (position : Position) : Prop where
  expired : position.expired = true ↔ ∃ label ∈ past, requestFires label = true
  late : position.expired = true → position.stage.late = true
  flight : inFlight past = position.stage.flies
  tells : position.stage.Tells plan position.expired past

theorem quiet_marks {label : Label sig} (plain : quiet label = true) :
    openMark label = none ∧ flightMark label = none := by
  cases label with
  | call op ans =>
    cases op with
    | trace point => cases plain
    | _ => exact ⟨rfl, rfl⟩
  | done op ans =>
    cases op with
    | sendRequest request => cases plain
    | _ => exact ⟨rfl, rfl⟩
  | _ => exact ⟨rfl, rfl⟩

section Step

variable {plan : Plan} {round : Round} {past : List (Label sig)} {label : Label sig}

theorem inFlight_cons (unmarked : flightMark label = none) :
    inFlight (label :: past) = inFlight past := by
  rw [inFlight, unmarked, Option.getD_none]

theorem openedLast_cons (unmarked : openMark label = none) :
    openedLast (label :: past) = openedLast past := by
  rw [openedLast, unmarked, Option.getD_none]

theorem Round.opened_eq (round : Round) (stream : BodyHandle) :
    ∃ leg, round.opened stream = .attempting round leg .due ∧ leg.stream = some stream := by
  unfold Round.opened
  split
  · exact ⟨_, rfl, rfl⟩
  · exact ⟨_, rfl, rfl⟩

/-- An attempt stays in flight until its outcome is traced. -/
theorem AttemptStep.flies {leg : Leg} {wait : Wait} {next : Stage}
    (step : AttemptStep plan round leg wait label next) :
    flightMark label = none ∧ next.flies = some round.origin := by
  cases step with
  | arms deadline => exact ⟨rfl, rfl⟩
  | starts op within early => exact ⟨rfl, rfl⟩
  | goesOn forward kept plain called => exact ⟨(quiet_marks plain).2, rfl⟩
  | opens stream =>
    obtain ⟨leg, same, -⟩ := round.opened_eq stream
    rw [same]
    exact ⟨rfl, rfl⟩
  | refuses => exact ⟨rfl, rfl⟩
  | fails started plain called => exact ⟨(quiet_marks plain).2, rfl⟩
  | answers stream parts => exact ⟨rfl, rfl⟩

theorem AttemptStep.tells {leg : Leg} {wait : Wait} {next : Stage} {expired : Bool}
    (step : AttemptStep plan round leg wait label next)
    (before : ∀ stream, leg.stream = some stream → openedLast past = some stream) :
    next.Tells plan expired (label :: past) := by
  cases step with
  | arms deadline => exact before
  | starts op within early => exact before
  | goesOn forward kept plain called =>
    intro stream opened
    rw [openedLast_cons (quiet_marks plain).1]
    exact before stream (kept ▸ opened)
  | opens stream =>
    obtain ⟨leg, same, has⟩ := round.opened_eq stream
    rw [same]
    intro stream' opened
    rw [has] at opened
    exact opened
  | refuses => exact True.intro
  | fails started plain called => exact True.intro
  | answers stream parts => exact .received parts (before stream rfl)

theorem AttemptStep.due {leg : Leg} {wait : Wait} {next : Stage} {op : Op} {ans : op.Ans}
    (step : AttemptStep plan round leg wait (.call op ans) next) : wait = .due := by
  cases step with
  | goesOn forward kept plain called => exact called op ans rfl
  | fails started plain called => exact called op ans rfl

/-- What remains to be shown where the table has taken a label. -/
theorem Remembers.extend {stage after : Stage} {expired : Bool}
    (before : Remembers plan past ⟨stage, expired⟩)
    (late : (expired || requestFires label) = true → after.late = true)
    (flight : inFlight (label :: past) = after.flies)
    (tells : after.Tells plan (expired || requestFires label) (label :: past)) :
    Remembers plan (label :: past) ⟨after, expired || requestFires label⟩ where
  expired := by
    have known := before.expired
    simp only [List.mem_cons, exists_eq_or_imp, Bool.or_eq_true]
    rw [known]
    exact or_comm
  late := late
  flight := flight
  tells := tells

/-- A stage that is only met in time. -/
theorem Remembers.inTime {stage : Stage} {expired : Bool}
    (before : Remembers plan past ⟨stage, expired⟩) (early : stage.late = false) :
    expired = false := by
  cases isExpired : expired with
  | false => rfl
  | true =>
    have late : stage.late = true := before.late isExpired
    rw [early] at late
    cases late

/-- A label before the expiry. -/
theorem Remembers.proceeds {stage after : Stage}
    (before : Remembers plan past ⟨stage, false⟩) (unfired : requestFires label = false)
    (flight : inFlight (label :: past) = after.flies)
    (tells : after.Tells plan false (label :: past)) :
    Remembers plan (label :: past) ⟨after, false || requestFires label⟩ := by
  refine before.extend ?_ flight ?_
  · simp [unfired]
  · rw [unfired]
    exact tells

/-- A label of the table that marks neither the beginning nor the end of an attempt. -/
theorem Remembers.goesOn {stage after : Stage} {expired : Bool}
    (before : Remembers plan past ⟨stage, expired⟩) (early : stage.late = false)
    (unfired : requestFires label = false) (unmarked : flightMark label = none)
    (still : after.flies = stage.flies) (tells : after.Tells plan false (label :: past)) :
    Remembers plan (label :: past) ⟨after, expired || requestFires label⟩ := by
  have inTime := before.inTime early
  subst inTime
  refine before.proceeds unfired ?_ tells
  rw [inFlight_cons unmarked, still]
  exact before.flight

/-- The same for what is done after a drop or a cut. -/
theorem Remembers.cleansUp {stage after : Stage} {expired : Bool}
    (before : Remembers plan past ⟨stage, expired⟩) (late : after.late = true)
    (unfired : requestFires label = false) (unmarked : flightMark label = none)
    (still : after.flies = stage.flies) (tells : after.Tells plan expired (label :: past)) :
    Remembers plan (label :: past) ⟨after, expired || requestFires label⟩ := by
  refine before.extend (fun _ => late) ?_ ?_
  · rw [inFlight_cons unmarked, still]
    exact before.flight
  · rw [unfired, Bool.or_false]
    exact tells

theorem Remembers.advertised {stage : Stage} {expired : Bool} {aim : Aim} {now : Instant}
    {entry : HttpsRr.HttpsRrEntry} (before : Remembers plan past ⟨stage, expired⟩)
    (early : stage.late = false) (unfired : requestFires label = false)
    (unmarked : flightMark label = none) (still : stage.flies = none) :
    Remembers plan (label :: past)
      ⟨Plan.advertised aim now entry, expired || requestFires label⟩ := by
  unfold Plan.advertised
  split
  · exact before.goesOn early unfired unmarked still.symm True.intro
  · exact before.goesOn early unfired unmarked still.symm True.intro

theorem remembers_arrived {expired : Bool} {response : Response}
    (before : Remembers plan past ⟨.transmitting .issued, expired⟩) (inTime : expired = false)
    (unfired : requestFires label = false) (unmarked : flightMark label = none)
    (answer : OverTcp plan (label :: past) response) :
    Remembers plan (label :: past) ⟨plan.arrived response, expired || requestFires label⟩ := by
  subst inTime
  have flight : inFlight (label :: past) = none := by
    rw [inFlight_cons unmarked]
    exact before.flight
  cases goes : plan.arrived response with
  | learning response' origin value =>
    refine before.proceeds unfired flight ?_
    have same : response' = response := by
      unfold Plan.arrived at goes
      split at goes
      · cases goes
        rfl
      · cases goes
    subst same
    exact ⟨answer, goes⟩
  | ended result =>
    refine before.proceeds unfired flight ?_
    have same : result = .ok response := by
      unfold Plan.arrived at goes
      split at goes
      · cases goes
      · cases goes
        rfl
    subst same
    exact .tcp answer goes
  | _ =>
    unfold Plan.arrived at goes
    split at goes <;> cases goes

/-- Only synchronous operations come after the expiry. -/
theorem inTime_of_called {expired : Bool} (called : expired = true → ∃ op ans, label = .call op ans)
    (other : ∀ op ans, label ≠ .call op ans) : expired = false := by
  cases isExpired : expired with
  | false => rfl
  | true =>
    obtain ⟨op, ans, same⟩ := called isExpired
    exact absurd same (other op ans)

/-- What is remembered is kept by every row of the table. -/
theorem remembers_move {stage after : Stage} {expired : Bool}
    (moved : (plan.move stage).step label = some after)
    (called : expired = true → ∃ op ans, label = .call op ans)
    (before : Remembers plan past ⟨stage, expired⟩) :
    Remembers plan (label :: past) ⟨after, expired || requestFires label⟩ := by
  cases stage with
  | arming aim =>
    obtain ⟨⟨deadline, rfl⟩, rfl⟩ := Move.step_arm_iff.mp moved
    exact before.goesOn rfl rfl rfl rfl True.intro
  | entering aim =>
    obtain ⟨_, rfl, rfl⟩ := Move.step_call_iff.mp moved
    exact before.goesOn rfl rfl rfl rfl True.intro
  | reading aim =>
    obtain ⟨now, rfl, rfl⟩ := Move.step_call_iff.mp moved
    exact before.goesOn rfl rfl rfl rfl True.intro
  | checking aim now =>
    obtain ⟨hit, rfl, rfl⟩ := Move.step_call_iff.mp moved
    cases hit with
    | true => exact before.goesOn rfl rfl rfl rfl True.intro
    | false => exact before.goesOn rfl rfl rfl rfl True.intro
  | recalling aim now =>
    obtain ⟨found, rfl, rfl⟩ := Move.step_call_iff.mp moved
    cases found with
    | some entry => exact before.goesOn rfl rfl rfl rfl True.intro
    | none => exact before.goesOn rfl rfl rfl rfl True.intro
  | routing aim now entry =>
    obtain ⟨_, rfl, rfl⟩ := Move.step_call_iff.mp moved
    exact before.goesOn rfl rfl rfl rfl True.intro
  | opening round =>
    obtain ⟨_, rfl, rfl⟩ := Move.step_call_iff.mp moved
    have inTime := before.inTime rfl
    subst inTime
    refine before.proceeds rfl rfl ?_
    intro stream opened
    cases opened
  | attempting round leg wait =>
    have step := Plan.attemptMove_step moved
    obtain ⟨unmarked, flies⟩ := step.flies
    have inTime : expired = false := by
      cases isExpired : expired with
      | false => rfl
      | true =>
        obtain ⟨op, ans, rfl⟩ := called isExpired
        cases step.due
        exact absurd (before.late isExpired) Bool.false_ne_true
    subst inTime
    refine before.proceeds step.unfired ?_ (step.tells before.tells)
    rw [inFlight_cons unmarked, flies]
    exact before.flight
  | closing round result =>
    obtain ⟨_, rfl, rfl⟩ := Move.step_call_iff.mp moved
    have inTime := before.inTime rfl
    subst inTime
    have answer := before.tells
    refine before.proceeds rfl ?_ ?_
    · unfold Round.next
      split
      · rfl
      · rfl
      · split <;> rfl
    · rcases result with (message | retryWithoutH3) | response
      · exact True.intro
      · simp only [Round.next]
        split
        · exact True.intro
        · exact True.intro
      · exact ⟨round.origin, round.attempt, past, answer, rfl⟩
  | blaming round =>
    obtain ⟨stored, rfl, rfl⟩ := Move.step_call_iff.mp moved
    cases stored with
    | ok _ => exact before.goesOn rfl rfl rfl rfl True.intro
    | error panic => exact before.goesOn rfl rfl rfl rfl (.negative _ _ _ panic)
  | evicting round =>
    obtain ⟨_, rfl, rfl⟩ := Move.step_call_iff.mp moved
    unfold Round.abandon
    split
    · exact before.goesOn rfl rfl rfl rfl True.intro
    · exact before.goesOn rfl rfl rfl rfl True.intro
  | caching aim now =>
    obtain ⟨cached, rfl, rfl⟩ := Move.step_call_iff.mp moved
    cases cached with
    | some entry => exact before.advertised rfl rfl rfl rfl
    | none => exact before.goesOn rfl rfl rfl rfl True.intro
  | looking aim now wait =>
    rw [Plan.move] at moved
    rcases Await.step_cases moved with
      ⟨timer, deadline, rfl, own, rfl, rfl⟩ | ⟨early, rfl, rfl⟩ | ⟨ans, rfl, rfl, rfl⟩ |
      ⟨timer, j, deadline, rfl, own, rfl, rfl⟩
    · exact before.goesOn rfl rfl rfl rfl True.intro
    · refine before.goesOn ?_ rfl rfl rfl fun _ => ⟨past, rfl⟩
      cases wait with
      | due => rfl
      | armed => rfl
      | issued => exact absurd rfl early
    · have inTime := inTime_of_called called (by simp)
      subst inTime
      rcases ans with e | records
      · exact before.proceeds rfl before.flight True.intro
      · simp only
        split
        · exact before.proceeds rfl before.flight True.intro
        · exact before.proceeds rfl before.flight True.intro
    · cases own
      have inTime := inTime_of_called called (by simp)
      subst inTime
      exact before.proceeds rfl before.flight True.intro
  | storing aim now entry =>
    obtain ⟨_, rfl, rfl⟩ := Move.step_call_iff.mp moved
    exact before.advertised rfl rfl rfl rfl
  | leaving response =>
    cases response with
    | some response =>
      obtain ⟨_, rfl, rfl⟩ := Move.step_call_iff.mp moved
      obtain ⟨origin, attempt, older, answer, rfl⟩ := before.tells
      exact before.goesOn rfl rfl rfl rfl (.http3 origin attempt answer)
    | none =>
      obtain ⟨_, rfl, rfl⟩ := Move.step_call_iff.mp moved
      exact before.goesOn rfl rfl rfl rfl True.intro
  | transmitting wait =>
    rw [Plan.move] at moved
    rcases Await.step_cases moved with
      ⟨timer, deadline, rfl, own, rfl, rfl⟩ | ⟨early, rfl, rfl⟩ | ⟨ans, rfl, rfl, rfl⟩ |
      ⟨timer, j, deadline, rfl, own, rfl, rfl⟩
    · exact before.goesOn rfl rfl rfl rfl True.intro
    · refine before.goesOn ?_ rfl rfl rfl fun _ => ⟨past, rfl⟩
      cases wait with
      | due => rfl
      | armed => rfl
      | issued => exact absurd rfl early
    · have inTime := inTime_of_called called (by simp)
      rcases ans with err | ⟨parts, incoming⟩
      · subst inTime
        exact before.proceeds rfl before.flight (.failed past err)
      · exact remembers_arrived before inTime rfl rfl (.received past parts incoming)
    · have isRequest : timer = .request := by
        split at own
        · exact (Option.some.inj own).symm
        · cases own
      subst isRequest
      refine before.extend (fun _ => rfl) before.flight ?_
      intro inTime
      simp [requestFires] at inTime
  | learning response origin value =>
    obtain ⟨now, rfl, rfl⟩ := Move.step_call_iff.mp moved
    obtain ⟨answer, goes⟩ := before.tells
    cases parsed : AltSvc.parseHeader value now origin.port with
    | ok update =>
      exact before.goesOn rfl rfl rfl rfl ⟨value, now, past, answer, goes, parsed, rfl⟩
    | error panic => exact before.goesOn rfl rfl rfl rfl (.altSvc answer goes parsed)
  | updating response origin update =>
    obtain ⟨_, rfl, rfl⟩ := Move.step_call_iff.mp moved
    obtain ⟨value, now, older, answer, goes, parsed, rfl⟩ := before.tells
    exact before.goesOn rfl rfl rfl rfl (.learnt answer goes parsed)
  | dropping aim =>
    obtain ⟨now, rfl, rfl⟩ := Move.step_call_iff.mp moved
    exact before.cleansUp rfl rfl rfl rfl True.intro
  | condemning aim now =>
    obtain ⟨stored, rfl, rfl⟩ := Move.step_call_iff.mp moved
    cases stored with
    | ok _ => exact before.cleansUp rfl rfl rfl rfl True.intro
    | error panic => exact before.cleansUp rfl rfl rfl rfl (.negative _ _ _ panic)
  | uprooting aim =>
    obtain ⟨_, rfl, rfl⟩ := Move.step_call_iff.mp moved
    exact before.cleansUp rfl rfl rfl rfl True.intro
  | timedOut aim now =>
    obtain ⟨stored, rfl, rfl⟩ := Move.step_call_iff.mp moved
    cases stored with
    | ok _ => exact before.cleansUp rfl rfl rfl rfl before.tells
    | error panic => exact before.cleansUp rfl rfl rfl rfl (.negative _ _ _ panic)
  | expelling aim =>
    obtain ⟨_, rfl, rfl⟩ := Move.step_call_iff.mp moved
    obtain ⟨fire, known, fires⟩ := before.expired.mp before.tells
    exact before.cleansUp rfl rfl rfl rfl (.timedOut ⟨fire, List.mem_cons_of_mem _ known, fires⟩)
  | dropped aim => exact absurd moved Move.step_stop
  | ended result => exact absurd moved Move.step_stop
  | unwound => exact absurd moved Move.step_stop

theorem remembers_step {position next : Position}
    (taken : plan.protocol.step position label = some next)
    (before : Remembers plan past position) : Remembers plan (label :: past) next := by
  obtain ⟨stage, expired⟩ := position
  rcases Plan.step_cases taken with
    ⟨after, moved, rfl, called⟩ | ⟨after, op, ans, rfl, cleaned, rfl⟩ |
    ⟨after, op, ans, rfl, rfl, cut, rfl⟩ | ⟨j, deadline, rfl, rfl, probing, rfl⟩
  · exact remembers_move moved called before
  · unfold Plan.cleanup at cleaned
    split at cleaned
    · rename_i round leg
      obtain ⟨_, same, rfl⟩ := Move.step_call_iff.mp cleaned
      cases same
      have cleaning : Remembers plan (.call (.trace (.http3Dropped round.origin)) () :: past)
          ⟨.dropping round.aim, expired || false⟩ :=
        before.extend (fun _ => rfl) rfl True.intro
      rwa [Bool.or_false] at cleaning
    · exact absurd cleaned Move.step_stop
  · unfold Plan.afterCut at cut
    split at cut
    · obtain ⟨_, same, rfl⟩ := Move.step_call_iff.mp cut
      cases same
      exact before.cleansUp rfl rfl rfl rfl rfl
    · obtain ⟨_, same, rfl⟩ := Move.step_call_iff.mp cut
      cases same
      exact before.cleansUp rfl rfl rfl rfl rfl
    · exact absurd cut Move.step_stop
  · unfold Stage.probing at probing
    split at probing
    · have expiry : Remembers plan (.fire j .request deadline :: past) ⟨_, false || true⟩ :=
        before.extend (fun _ => rfl) before.flight before.tells
      exact expiry
    · have expiry : Remembers plan (.fire j .request deadline :: past) ⟨_, false || true⟩ :=
        before.extend (fun _ => rfl) before.flight fun no => nomatch no
      exact expiry
    · cases probing

theorem remembers_start : Remembers plan [] ⟨plan.start, false⟩ := by
  have quiet : plan.start.flies = none ∧ plan.start.Tells plan false [] := by
    unfold Plan.start
    split
    · split
      · exact ⟨rfl, True.intro⟩
      · exact ⟨rfl, True.intro⟩
    · exact ⟨rfl, True.intro⟩
  exact ⟨by simp, (fun no => nomatch no), quiet.1.symm, quiet.2⟩

theorem remembers_run {position : Position} {log : List (Entry sig)}
    (ran : plan.protocol.run ⟨plan.start, false⟩ log = some position) :
    Remembers plan (Protocol.past log) position :=
  Protocol.run_remembers (fun _ _ _ _ taken before => remembers_step taken before) ran
    remembers_start

end Step

theorem mapLegacyError_ne_timeout (err : LegacyError) : mapLegacyError err ≠ .timeout := by
  unfold mapLegacyError
  dsimp only
  split
  · exact Error.noConfusion
  · split
    · exact Error.noConfusion
    · exact Error.noConfusion

theorem explained_timeout {plan : Plan} {past : List (Label sig)}
    (explained : Explains plan past (.error .timeout)) :
    ∃ label ∈ past, requestFires label = true := by
  generalize same : (Except.error Error.timeout : Except Error Response) = result at explained
  cases explained with
  | timedOut fired => exact fired
  | failed older err => exact absurd (Except.error.inj same).symm (mapLegacyError_ne_timeout err)
  | _ => cases same

theorem Remembers.explains {plan : Plan} {past : List (Label sig)} {position : Position}
    {result : Except Error Response} (known : Remembers plan past position)
    (isOver : position.verdict = some result) : Explains plan past result := by
  unfold Position.verdict at isOver
  split at isOver
  · cases isOver
    exact known.tells
  · cases isOver
    exact .timedOut (known.expired.mp rfl)
  · cases isOver

theorem Remembers.timeout_iff {plan : Plan} {past : List (Label sig)} {position : Position}
    {result : Except Error Response} (known : Remembers plan past position)
    (isOver : position.verdict = some result) :
    result = .error .timeout ↔ ∃ label ∈ past, requestFires label = true := by
  constructor
  · intro timedOut
    subst timedOut
    exact explained_timeout (known.explains isOver)
  · intro fired
    have late := known.late (known.expired.mpr fired)
    unfold Position.verdict at isOver
    split at isOver
    · cases isOver
      rcases result with (_ | _) | _
      all_goals first | rfl | cases late
    · exact (Option.some.inj isOver).symm
    · cases isOver

section Runs

variable {client : Client} {pace : Pace} {clock : Nat} {shared : SharedState}
  {w : World (sends client)} {i : Nat} {task : Task (sends client)} {plan : Plan}

/-- A send with a plan, at its position. -/
theorem send_remembers (reached : Reachable pace (.start clock shared) w)
    (found : w.tasks[i]? = some task) (planned : planOf task.job.val = .ok plan) :
    ∃ position, plan.protocol.run ⟨plan.start, false⟩ (w.logOf i) = some position ∧
      plan.protocol.At sendEnding task.body position ∧
      Remembers plan (Protocol.past (w.logOf i)) position := by
  obtain ⟨position, ran, isAt⟩ := send_follows reached found
  simp only [sendProtocol, sendStart, planned] at ran isAt
  exact ⟨position, ran, isAt, remembers_run ran⟩

theorem mem_past {log : List (Entry sig)} {P : Label sig → Prop} :
    (∃ label ∈ Protocol.past log, P label) ↔ ∃ e ∈ log, P e.label := by
  simp [Protocol.past]

/-- What the log of a send says of what it has returned. The timeout error is returned if
and only if the timer of the request has fired. -/
inductive Explained (builder : RequestBuilder) (log : List (Entry sig))
    (result : Except Error Response) : Prop where
  | rejected {err : Error} (unplanned : planOf builder = .error err) (silent : log = [])
      (same : result = .error err) : Explained builder log result
  | planned {plan : Plan} (planned : planOf builder = .ok plan)
      (explains : Explains plan (Protocol.past log) result)
      (timed : result = .error .timeout ↔ ∃ e ∈ log, requestFires e.label = true) :
      Explained builder log result

/-- A send whose builder is rejected is over at once. -/
theorem rejected_over (reached : Reachable pace (.start clock shared) w)
    (found : w.tasks[i]? = some task) {err : Error} (unplanned : planOf task.job.val = .error err) :
    task.body = .running (.ret (.error err)) ∧ w.logOf i = [] := by
  refine reached.over_at_once found ?_
  change send task.job.val = .ret (.error err)
  unfold planOf at unplanned
  unfold send
  cases deferred : task.job.val.deferredError with
  | some err' =>
    rw [deferred] at unplanned
    cases unplanned
    rfl
  | none =>
    simp only [deferred] at unplanned ⊢
    cases parsed : task.job.val.uri with
    | error err' =>
      rw [parsed] at unplanned
      cases unplanned
      rfl
    | ok uri =>
      rw [parsed] at unplanned
      cases unplanned

/-- The result of a send is explained by its log: a response is the answer that was
awaited last, an error a timeout that expired or hyper's own, unless the builder was
rejected. -/
theorem send_result_explained (reached : Reachable pace (.start clock shared) w)
    (found : w.tasks[i]? = some task) {result : Except Error Response}
    (isOver : task.body = .running (.ret result)) :
    Explained task.job.val (w.logOf i) result := by
  cases planned : planOf task.job.val with
  | error err =>
    obtain ⟨body, silent⟩ := rejected_over reached found planned
    rw [isOver] at body
    cases body
    exact .rejected planned silent rfl
  | ok plan =>
    obtain ⟨position, -, isAt, known⟩ := send_remembers reached found planned
    have verdict := isAt.returned result isOver
    exact .planned planned (known.explains verdict) ((known.timeout_iff verdict).trans mem_past)

end Runs

/-- A send whose timer expires in an attempt. -/
theorem send_result_explained_timeout :
    ∃ (w : World (sends Example.hurried)) (plan : Plan),
      planOf (Example.builder Example.hurried) = .ok plan ∧
      Explains plan (Protocol.past (w.logOf 0)) (.error .timeout) ∧
      ∃ e ∈ w.logOf 0, requestFires e.label = true := by
  obtain ⟨w, task, reached, found, -, job, isOver⟩ := Example.ends .strict Example.timesOutLate 0
    (Example.logged 0 0 Example.awaitsAddresses ++
      Example.logged 0 100000000 Example.cutInAttempt)
    ⟨Example.builder Example.hurried, rfl⟩ (some (.error .timeout)) rfl
  have explained := send_result_explained reached found (Example.ended_returned isOver)
  rw [job] at explained
  cases explained with
  | rejected unplanned silent same => cases unplanned
  | planned planned explains timed => exact ⟨w, _, planned, explains, timed.mp rfl⟩

end MechanicsHttpClient.Guarantees
