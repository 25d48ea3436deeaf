import MechanicsHttpClient.Guarantees.RetryBudget
import MechanicsHttpClient.Guarantees.SendConformance

/-!
# Budgets of the stages

What a send may still use up from each stage of its protocol on: labels, attempts,
streams, lookups and requests to hyper. A stage covers another where it can pay
for one more label and what the other may still use; the stages of an attempt, of
a round and of a route cover those that follow them.
-/

namespace MechanicsHttpClient.Guarantees

open MechanicsHttpClient.Runtime
open MechanicsHttpClient.Source

/-- What is counted. -/
inductive Resource where
  | labels
  | attempts
  | streams
  | lookups
  | hyperRequests

def asksForHttps : Label sig → Bool
  | .issue (.lookupHttps _) => true
  | _ => false

def startsHyper : Label sig → Bool
  | .issue (.hyperRequest _) => true
  | _ => false

namespace Resource

def counts : Resource → Label sig → Bool
  | labels, _ => true
  | attempts, label => startsAttempt label
  | streams, label => opensStream label
  | lookups, label => asksForHttps label
  | hyperRequests, label => startsHyper label

def weight (resource : Resource) (label : Label sig) : Nat :=
  if resource.counts label then 1 else 0

end Resource

def plus (labels : Nat) (budget : Resource → Nat) : Resource → Nat
  | .labels => labels + budget .labels
  | resource => budget resource

/-- From hyper on. -/
def tcpBudget : Resource → Nat
  | .labels => 5
  | .hyperRequests => 1
  | _ => 0

/-- From an HTTPS record with HTTP/3 on: its route may be attempted twice. -/
def advertisedBudget : Resource → Nat
  | .labels => 66
  | .attempts => 2
  | .streams => 1
  | .lookups => 0
  | .hyperRequests => 1

def httpsRrBudget : Resource → Nat
  | .labels => 71
  | .lookups => 1
  | resource => advertisedBudget resource

/-- From an Alt-Svc entry on: both routes may be attempted twice. -/
def altSvcBudget : Resource → Nat
  | .labels => 131
  | .attempts => 4
  | .streams => 2
  | .lookups => 1
  | .hyperRequests => 1

namespace Round

/-- Once the route of this round is given up. -/
def givenUp (round : Round) : Resource → Nat :=
  match round.route with
  | .altSvc _ => httpsRrBudget
  | .httpsRr _ => plus 1 tcpBudget

/-- The attempts that may follow this one on its route. -/
def spare (round : Round) : Nat := if round.attempt = 0 then 1 else 0

/-- A route is given up after an attempt that has opened a stream. -/
def withStream (round : Round) (labels : Nat) : Resource → Nat := plus (labels + 3) round.givenUp

def withoutStream (round : Round) (labels : Nat) : Resource → Nat
  | .labels => labels + 3 + 29 * round.spare + round.givenUp .labels
  | .attempts => round.spare + round.givenUp .attempts
  | .streams => 1 + round.givenUp .streams
  | resource => round.givenUp resource

def openingBudget (round : Round) : Resource → Nat
  | .attempts => 1 + round.withoutStream 28 .attempts
  | resource => round.withoutStream 28 resource

/-- At a part of an attempt. -/
def legBudget (round : Round) (leg : Leg) (labels : Nat) : Resource → Nat :=
  match leg.stream with
  | some _ => round.withStream (3 * leg.ahead + labels)
  | none => round.withoutStream (3 * leg.ahead + labels)

/-- After an attempt: only a stream that was refused is retried. -/
def closingBudget (round : Round) : Except Http3AttemptError Response → Resource → Nat
  | .error (.stream true) => round.withoutStream 0
  | _ => round.withStream 0

end Round

/-- What an await still takes: its timer, its start and its end. -/
def labelsLeft : Wait → Nat
  | .due => 3
  | .armed => 2
  | .issued => 1

def toStart : Wait → Nat
  | .issued => 0
  | _ => 1

def lookingBudget (wait : Wait) : Resource → Nat
  | .labels => labelsLeft wait + 67
  | .lookups => toStart wait
  | resource => advertisedBudget resource

def transmittingBudget (wait : Wait) : Resource → Nat
  | .labels => labelsLeft wait + 2
  | .hyperRequests => toStart wait
  | _ => 0

def labelsOnly (labels : Nat) : Resource → Nat
  | .labels => labels
  | _ => 0

def Stage.budget : Stage → Resource → Nat
  | .arming _ => plus 6 altSvcBudget
  | .entering _ => plus 5 altSvcBudget
  | .reading _ => plus 4 altSvcBudget
  | .checking _ _ => plus 3 altSvcBudget
  | .recalling _ _ => plus 2 altSvcBudget
  | .routing _ _ _ => plus 1 altSvcBudget
  | .opening round => round.openingBudget
  | .attempting round leg wait => round.legBudget leg (labelsLeft wait)
  | .closing round result => round.closingBudget result
  | .blaming round => plus 2 round.givenUp
  | .evicting round => plus 1 round.givenUp
  | .caching _ _ => httpsRrBudget
  | .looking _ _ wait => lookingBudget wait
  | .storing _ _ _ => plus 1 advertisedBudget
  | .leaving _ => plus 1 tcpBudget
  | .transmitting wait => transmittingBudget wait
  | .learning _ _ _ => labelsOnly 2
  | .updating _ _ _ => labelsOnly 1
  | .dropping _ => labelsOnly 6
  | .condemning _ _ => labelsOnly 5
  | .uprooting _ => labelsOnly 4
  | .dropped _ => labelsOnly 3
  | .timedOut _ _ => labelsOnly 2
  | .expelling _ => labelsOnly 1
  | .ended _ => labelsOnly 0
  | .unwound => labelsOnly 0

/-- The expiry of the request's timeout is one more label. -/
def Position.budget (position : Position) : Resource → Nat :=
  plus (if position.expired then 0 else 1) position.stage.budget

section Step

variable {plan : Plan} {round : Round} {label : Label sig} {resource : Resource}

theorem quiet_counts (plain : quiet label = true) (other : resource ≠ .labels) :
    resource.counts label = false := by
  cases resource with
  | labels => exact absurd rfl other
  | attempts =>
    cases label with
    | call op ans =>
      cases op with
      | trace point => cases plain
      | _ => rfl
    | _ => rfl
  | streams =>
    cases label with
    | done op ans =>
      cases op with
      | sendRequest request => cases plain
      | _ => rfl
    | _ => rfl
  | lookups =>
    cases label with
    | issue op => cases plain
    | _ => rfl
  | hyperRequests =>
    cases label with
    | issue op => cases plain
    | _ => rfl

/-- `after` and one more label are left of `before`. -/
def Covers (before after : Resource → Nat) : Prop := ∀ resource, plus 1 after resource ≤ before resource

instance (before after : Resource → Nat) : Decidable (Covers before after) :=
  decidable_of_iff
    (plus 1 after .labels ≤ before .labels ∧ after .attempts ≤ before .attempts ∧
      after .streams ≤ before .streams ∧ after .lookups ≤ before .lookups ∧
      after .hyperRequests ≤ before .hyperRequests) <| by
    constructor
    · intro all resource
      cases resource with
      | labels => exact all.1
      | attempts => exact all.2.1
      | streams => exact all.2.2.1
      | lookups => exact all.2.2.2.1
      | hyperRequests => exact all.2.2.2.2
    · intro covers
      exact ⟨covers .labels, covers .attempts, covers .streams, covers .lookups,
        covers .hyperRequests⟩

theorem Covers.trans {before middle after : Resource → Nat} (covers : Covers middle after)
    (less : ∀ resource, middle resource ≤ before resource) : Covers before after :=
  fun resource => (covers resource).trans (less resource)

theorem Covers.plus (labels : Nat) (budget : Resource → Nat) :
    Covers (plus (labels + 1) budget) (plus labels budget) := by
  intro resource
  cases resource with
  | labels =>
    simp only [Guarantees.plus]
    omega
  | _ => exact Nat.le_refl _

/-- A label that is nothing but one more. -/
theorem Covers.pays {before after : Resource → Nat} (covers : Covers before after)
    (plain : ∀ resource : Resource, resource ≠ .labels → resource.counts label = false) :
    resource.weight label + after resource ≤ before resource := by
  have paid := covers resource
  by_cases isLabels : resource = .labels
  · subst isLabels
    exact paid
  · have uncounted := plain resource isLabels
    have kept : Guarantees.plus 1 after resource = after resource := by
      cases resource with
      | labels => exact absurd rfl isLabels
      | _ => rfl
    rw [kept] at paid
    simpa [Resource.weight, uncounted] using paid

theorem Round.tcp_le_givenUp (round : Round) (resource : Resource) :
    plus 1 tcpBudget resource ≤ round.givenUp resource := by
  have httpsRr : plus 1 tcpBudget resource ≤ httpsRrBudget resource := by
    cases resource <;> decide
  unfold Round.givenUp
  cases round.route with
  | altSvc entry => exact httpsRr
  | httpsRr entry => exact Nat.le_refl _

theorem Round.withStream_covers (round : Round) {labels more : Nat} (less : labels < more) :
    Covers (round.withStream more) (round.withStream labels) := by
  intro resource
  cases resource with
  | labels =>
    simp only [withStream, plus]
    omega
  | _ => exact Nat.le_refl _

theorem Round.withoutStream_covers (round : Round) {labels more : Nat} (less : labels < more) :
    Covers (round.withoutStream more) (round.withoutStream labels) := by
  intro resource
  cases resource with
  | labels =>
    simp only [withoutStream, plus]
    omega
  | _ => exact Nat.le_refl _

theorem Round.withStream_le (round : Round) (labels : Nat) :
    round.withStream labels resource ≤ round.withoutStream labels resource := by
  cases resource with
  | labels =>
    simp only [withStream, withoutStream, plus]
    omega
  | attempts =>
    simp only [withStream, withoutStream, plus]
    omega
  | streams =>
    simp only [withStream, withoutStream, plus]
    omega
  | _ => exact Nat.le_refl _

theorem Round.closing_le (round : Round) (result : Except Http3AttemptError Response) :
    round.closingBudget result resource ≤ round.withoutStream 0 resource := by
  unfold Round.closingBudget
  split
  · exact Nat.le_refl _
  · exact round.withStream_le 0

/-- Parts of an attempt on the same stream. -/
theorem Round.leg_covers (round : Round) {leg leg' : Leg} {labels labels' : Nat}
    (kept : leg'.stream = leg.stream)
    (less : 3 * leg'.ahead + labels' < 3 * leg.ahead + labels) :
    Covers (round.legBudget leg labels) (round.legBudget leg' labels') := by
  unfold Round.legBudget
  rw [kept]
  cases leg.stream with
  | some stream => exact round.withStream_covers less
  | none => exact round.withoutStream_covers less

theorem labelsLeft_pos (wait : Wait) : 0 < labelsLeft wait := by
  cases wait <;> decide

theorem labelsLeft_early {wait : Wait} (early : wait ≠ .issued) : 1 < labelsLeft wait := by
  cases wait with
  | due => decide
  | armed => decide
  | issued => exact absurd rfl early

/-- An attempt that fails pays for its last label. -/
theorem Round.closing_covers (round : Round) {leg : Leg} {labels : Nat} {err : Http3AttemptError}
    (started : leg.stream ≠ none → err = .stream false) (left : 0 < labels) :
    Covers (round.legBudget leg labels) (Stage.closing round (.error err)).budget := by
  unfold Round.legBudget Stage.budget
  cases opened : leg.stream with
  | some stream =>
    rw [started (by simp [opened])]
    exact round.withStream_covers (by omega)
  | none =>
    have covers : Covers (round.withoutStream (3 * leg.ahead + labels)) (round.withoutStream 0) :=
      round.withoutStream_covers (by omega)
    intro resource
    have less := covers resource
    have close : round.closingBudget (.error err) resource ≤ round.withoutStream 0 resource :=
      round.closing_le _
    cases resource with
    | labels =>
      simp only [plus] at less ⊢
      omega
    | _ => exact close.trans less

/-- A stream that was opened is paid for. -/
theorem Round.opened_spends (round : Round) {request : Request Unit} {stream : BodyHandle}
    {leg : Leg} (has : leg.stream = some stream) (behind : leg.ahead ≤ 2) :
    resource.weight (.done (.sendRequest request) (.ok stream)) + round.legBudget leg 3 resource ≤
      round.withoutStream 10 resource := by
  unfold Round.legBudget
  rw [has]
  cases resource with
  | labels =>
    simp only [withStream, withoutStream, plus, Resource.weight, Resource.counts, if_true]
    omega
  | attempts => simp [withStream, withoutStream, plus, Resource.weight, Resource.counts, startsAttempt]
  | streams => exact Nat.le_refl _
  | lookups => exact Nat.le_of_eq (Nat.zero_add _)
  | hyperRequests => exact Nat.le_of_eq (Nat.zero_add _)

theorem AttemptStep.spends {leg : Leg} {wait : Wait} {next : Stage}
    (step : AttemptStep plan round leg wait label next) :
    resource.weight label + next.budget resource ≤
      (Stage.attempting round leg wait).budget resource := by
  cases step with
  | @arms leg timer deadline =>
    have less : 3 * leg.ahead + labelsLeft .armed < 3 * leg.ahead + labelsLeft .due :=
      Nat.lt_succ_self _
    exact (round.leg_covers rfl less).pays fun _ other => quiet_counts rfl other
  | starts op within early =>
    have left := labelsLeft_early early
    have less : 3 * leg.ahead + labelsLeft .issued < 3 * leg.ahead + labelsLeft wait := by
      rw [labelsLeft]
      omega
    refine (round.leg_covers rfl less).pays ?_
    intro resource other
    cases resource with
    | labels => exact absurd rfl other
    | lookups =>
      cases op with
      | lookupHttps host => cases within
      | _ => rfl
    | hyperRequests =>
      cases op with
      | hyperRequest request => cases within
      | _ => rfl
    | _ => rfl
  | @goesOn _ leg' _ _ forward kept plain called =>
    have pending := labelsLeft_pos wait
    have less : 3 * leg'.ahead + labelsLeft .due < 3 * leg.ahead + labelsLeft wait := by
      rw [labelsLeft]
      omega
    exact (round.leg_covers kept less).pays fun _ other => quiet_counts plain other
  | opens stream =>
    unfold Round.opened
    cases round.aim.body with
    | some body =>
      have has : (Leg.upload stream body).stream = some stream := rfl
      exact round.opened_spends has (Nat.le_refl 2)
    | none =>
      have has : (Leg.finish stream).stream = some stream := rfl
      exact round.opened_spends has (Nat.le_succ 1)
  | refuses =>
    have refused : Leg.openStream.stream ≠ none → Http3AttemptError.stream true = .stream false :=
      fun no => absurd rfl no
    refine (round.closing_covers refused (labelsLeft_pos .issued)).pays ?_
    intro resource other
    cases resource with
    | labels => exact absurd rfl other
    | _ => rfl
  | fails started plain called =>
    exact (round.closing_covers started (labelsLeft_pos wait)).pays fun _ other =>
      quiet_counts plain other
  | answers stream parts =>
    have covers : Covers (round.withStream 1) (round.withStream 0) :=
      round.withStream_covers Nat.zero_lt_one
    refine covers.pays ?_
    intro resource other
    cases resource with
    | labels => exact absurd rfl other
    | _ => rfl

/-- A synchronous label that is not the start of an attempt. -/
theorem Covers.pays_call {op : Op} {ans : op.Ans} {before after : Resource → Nat}
    (covers : Covers before after) (plain : startsAttempt (.call op ans) = false) :
    resource.weight (.call op ans) + after resource ≤ before resource := by
  refine covers.pays ?_
  intro resource other
  cases resource with
  | labels => exact absurd rfl other
  | attempts => exact plain
  | _ => rfl

theorem Covers.pays_done {op : Op} {ans : op.Ans} {before after : Resource → Nat}
    (covers : Covers before after) (plain : opensStream (.done op ans) = false) :
    resource.weight (.done op ans) + after resource ≤ before resource := by
  refine covers.pays ?_
  intro resource other
  cases resource with
  | labels => exact absurd rfl other
  | streams => exact plain
  | _ => rfl

theorem labelsOnly_covers {labels more : Nat} (less : labels < more) :
    Covers (labelsOnly more) (labelsOnly labels) := by
  intro resource
  cases resource with
  | labels =>
    simp only [plus, labelsOnly]
    omega
  | _ => exact Nat.le_refl _

/-- The second attempt of a route is its last. -/
theorem Round.again_covers (round : Round) (first : round.attempt = 0) :
    Covers (round.withoutStream 0) (Round.openingBudget { round with attempt := round.attempt + 1 }) := by
  have here : round.spare = 1 := by simp [spare, first]
  have there : Round.spare { round with attempt := round.attempt + 1 } = 0 := by simp [spare]
  have same : Round.givenUp { round with attempt := round.attempt + 1 } = round.givenUp := rfl
  intro resource
  cases resource with
  | labels =>
    simp only [plus, openingBudget, withoutStream, here, there, same]
    omega
  | attempts =>
    simp only [plus, openingBudget, withoutStream, here, there, same]
    omega
  | _ => exact Nat.le_refl _

theorem Round.next_covers (round : Round) (result : Except Http3AttemptError Response) :
    Covers (round.closingBudget result) (round.next result).budget := by
  have blamed : Covers (round.withStream 0) (plus 2 round.givenUp) := Covers.plus 2 round.givenUp
  rcases result with (message | retryWithoutH3) | response
  · exact blamed
  · simp only [Round.next]
    cases action : h3StreamFailureAction retryWithoutH3 round.attempt with
    | retryFreshH3 =>
      unfold h3StreamFailureAction at action
      split at action
      · rename_i retried
        obtain ⟨refused, first⟩ := retried
        subst refused
        exact round.again_covers first
      · cases action
    | useTcp =>
      cases retryWithoutH3 with
      | true => exact blamed.trans fun resource => round.withStream_le 0
      | false => exact blamed
  · intro resource
    have left := round.tcp_le_givenUp resource
    have paid := blamed resource
    cases resource with
    | labels =>
      simp only [plus, Stage.budget, Round.next, closingBudget] at left paid ⊢
      omega
    | _ => exact left.trans paid

theorem Round.abandon_le (round : Round) (resource : Resource) :
    round.abandon.budget resource ≤ round.givenUp resource := by
  unfold Round.abandon Round.givenUp
  cases round.route with
  | altSvc entry => exact Nat.le_refl _
  | httpsRr entry => exact Nat.le_refl _

theorem advertised_le (aim : Aim) (now : Instant) (entry : HttpsRr.HttpsRrEntry)
    (resource : Resource) :
    (Plan.advertised aim now entry).budget resource ≤ advertisedBudget resource := by
  unfold Plan.advertised
  split
  · cases resource <;> exact Nat.le_refl _
  · have early : plus 1 tcpBudget resource ≤ advertisedBudget resource := by
      cases resource <;> decide
    exact early

theorem arrived_le (plan : Plan) (response : Response) (resource : Resource) :
    (plan.arrived response).budget resource ≤ labelsOnly 2 resource := by
  unfold Plan.arrived
  split
  · exact Nat.le_refl _
  · have early : labelsOnly 0 resource ≤ labelsOnly 2 resource := by
      cases resource <;> decide
    exact early

theorem Covers.before {before middle after : Resource → Nat} (covers : Covers before middle)
    (less : ∀ resource, after resource ≤ middle resource) : Covers before after := by
  intro resource
  have paid := covers resource
  have lower := less resource
  cases resource with
  | labels =>
    simp only [Guarantees.plus] at paid ⊢
    omega
  | _ => exact lower.trans paid

end Step

end MechanicsHttpClient.Guarantees
