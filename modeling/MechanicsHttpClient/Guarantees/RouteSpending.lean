import MechanicsHttpClient.Guarantees.HttpsRrSelection
import MechanicsHttpClient.Guarantees.Phases

/-!
# What the attempts of a route spend

src/request.rs:276-398 and src/http3.rs:50-119. `Spending` counts the connections
and the streams of a send up to the moment its retry loop gives up, and notes what
is offered and attempted after it. One attempt opens one connection and at most one
stream; the loop makes the second attempt only where the first has put nothing on
a stream.
-/

namespace MechanicsHttpClient.Guarantees

open MechanicsHttpClient.Runtime
open MechanicsHttpClient.Source

/-- The HTTPS RR cache or the resolver offers h3. -/
def offersH3 : Label sig → Bool
  | .call (.httpsRrCached _ _) (some entry) => entry.hasH3
  | .done (.lookupHttps _) (.ok records) => records.any fun record => record.hasAlpn "h3".toList
  | _ => false

/-- `Http3State::request` is called. -/
def startsAttempt : Label sig → Bool
  | .call (.trace (.http3Request _ _)) _ => true
  | _ => false

/-- A QUIC connection is opened. -/
def opensConnection : Label sig → Bool
  | .call (.connect _ _) _ => true
  | _ => false

/-- The request is past the stream-open step. -/
def opensStream : Label sig → Bool
  | .done (.sendRequest _) (.ok _) => true
  | _ => false

structure Spending where
  ended : Bool
  offered : Bool
  again : Bool
  connections : Nat
  streams : Nat

namespace Spending

def start : Spending := ⟨false, false, false, 0, 0⟩

/-- Offers and attempts count from the moment the loop has given up. -/
def next (spending : Spending) (label : Label sig) : Spending where
  ended := spending.ended || (gaveUp label).isSome
  offered := spending.offered || (spending.ended && offersH3 label)
  again := spending.again || (spending.ended && startsAttempt label)
  connections := spending.connections + (opensConnection label).toNat
  streams := spending.streams + (opensStream label).toNat

/-- The retry budget is kept. -/
structure Kept (spending : Spending) : Prop where
  again : spending.again = false
  connections : spending.connections ≤ 2
  streams : spending.streams ≤ 1

/-- Unless h3 is offered again. -/
def Fine (spending : Spending) : Prop := spending.offered = false → spending.Kept

/-- And if it is, there is another attempt. -/
structure Settled (spending : Spending) : Prop where
  fine : spending.Fine
  tempted : spending.offered = true → spending.again = true

/-- The loop is not over: so many connections and streams have been opened. -/
structure Trying (connections streams : Nat) (spending : Spending) : Prop where
  ended : spending.ended = false
  offered : spending.offered = false
  again : spending.again = false
  connections : spending.connections ≤ connections
  streams : spending.streams ≤ streams

/-- The loop has given up, and nothing has happened since. -/
structure Spent (spending : Spending) : Prop where
  ended : spending.ended = true
  offered : spending.offered = false
  kept : spending.Kept

/-- h3 was offered again, and is attempted again. -/
structure Over (spending : Spending) : Prop where
  offered : spending.offered = true
  again : spending.again = true

variable {spending : Spending} {k n : Nat}

theorem Trying.settled (trying : spending.Trying k n) (connections : k ≤ 2) (streams : n ≤ 1) :
    spending.Settled where
  fine _ := ⟨trying.again, Nat.le_trans trying.connections connections,
    Nat.le_trans trying.streams streams⟩
  tempted offered := by simp [trying.offered] at offered

theorem Trying.mono {k' n' : Nat} (trying : spending.Trying k n) (connections : k ≤ k')
    (streams : n ≤ n') : spending.Trying k' n' where
  ended := trying.ended
  offered := trying.offered
  again := trying.again
  connections := Nat.le_trans trying.connections connections
  streams := Nat.le_trans trying.streams streams

theorem Spent.settled (spent : spending.Spent) : spending.Settled where
  fine _ := spent.kept
  tempted offered := by simp [spent.offered] at offered

theorem Over.settled (isOver : spending.Over) : spending.Settled where
  fine offered := by simp [isOver.offered] at offered
  tempted _ := isOver.again

theorem Over.next (isOver : spending.Over) (label : Label sig) : (spending.next label).Over :=
  ⟨by simp [Spending.next, isOver.offered], by simp [Spending.next, isOver.again]⟩

/-- Before the loop gives up, a label only opens connections and streams. -/
theorem Trying.next (trying : spending.Trying k n) (label : Label sig)
    (goesOn : gaveUp label = none) :
    (spending.next label).Trying (k + (opensConnection label).toNat)
      (n + (opensStream label).toNat) where
  ended := by simp [Spending.next, trying.ended, goesOn]
  offered := by simp [Spending.next, trying.ended, trying.offered]
  again := by simp [Spending.next, trying.ended, trying.again]
  connections := Nat.add_le_add_right trying.connections _
  streams := Nat.add_le_add_right trying.streams _

/-- The loop gives up. -/
theorem Trying.spent (trying : spending.Trying 2 1) (label : Label sig) {origin : Origin}
    (gave : gaveUp label = some origin) (here : opensConnection label = false)
    (there : opensStream label = false) : (spending.next label).Spent where
  ended := by simp [Spending.next, gave]
  offered := by simp [Spending.next, trying.ended, trying.offered]
  kept :=
    { again := by simp [Spending.next, trying.ended, trying.again]
      connections := by simpa [Spending.next, here] using trying.connections
      streams := by simpa [Spending.next, there] using trying.streams }

end Spending

def budgetMonitor : Monitor sig Spending where
  next spending _ label := spending.next label
  assume _ _ _ := True
  check spending _ label := spending.Fine → (spending.next label).Fine
  rest spending _ := spending.Settled

/-- What costs nothing and offers nothing. -/
def budgetQuiet : Alphabet sig where
  op
    | .httpsRrCached _ _ | .lookupHttps _ | .connect _ _ | .sendRequest _ => False
    | .trace (.http3Request _ _) | .trace (.http3Outcome _ _ _) => False
    | _ => True
  timer _ := True
  unwinds := True

theorem Spending.next_silent (spending : Spending) {label : Label sig}
    (goesOn : gaveUp label = none) (offers : offersH3 label = false)
    (attempts : startsAttempt label = false) (connects : opensConnection label = false)
    (opens : opensStream label = false) : spending.next label = spending := by
  simp [Spending.next, goesOn, offers, attempts, connects, opens]

theorem budgetMonitor_check {spending after : Spending} {t : Nat} {label : Label sig}
    (moves : spending.next label = after) (fine : spending.Fine → after.Fine) :
    budgetMonitor.check spending t label := by
  subst moves
  exact fine

theorem budgetMonitor_ignores : budgetMonitor.IgnoresAll budgetQuiet := by
  intro spending t label has
  have silent : spending.next label = spending := by
    cases label with
    | call op ans =>
      cases op with
      | httpsRrCached origin now => exact has.elim
      | connect addr serverName => exact has.elim
      | trace point =>
        cases point with
        | http3Request origin call => exact has.elim
        | http3Outcome origin attempt outcome => exact has.elim
        | _ => exact spending.next_silent rfl rfl rfl rfl rfl
      | _ => exact spending.next_silent rfl rfl rfl rfl rfl
    | done op ans =>
      cases op with
      | lookupHttps host => exact has.elim
      | sendRequest request => exact has.elim
      | _ => exact spending.next_silent rfl rfl rfl rfl rfl
    | _ => exact spending.next_silent rfl rfl rfl rfl rfl
  exact ⟨silent, budgetMonitor_check silent id⟩

section Attempt

variable {pace : Pace} {spending : Spending} {k t : Nat}

theorem budgetQuiet_sat {α : Type} {P : Post Spending α} {p : Prog sig α}
    (uses : p.Uses budgetQuiet) (settled : spending.Settled)
    (returned : ∀ a t, P.returned a t spending)
    (stopped : ∀ t, P.panicked t spending ∧ P.dropped t spending) :
    p.Sat budgetMonitor pace P t spending :=
  Prog.Sat.of_uses budgetMonitor_ignores p uses (fun _ _ => settled) (fun a t _ => returned a t)
    (fun _ t _ => (stopped t).1) fun t _ => (stopped t).2

theorem connection_budget {P : Post Spending (Except Str Unit)} (authorityHost : Str)
    (port : UInt16) (addresses : List IpAddr) (trying : spending.Trying k 0) (bounded : k ≤ 1)
    (returned : ∀ result t spending, spending.Trying (k + 1) 0 → P.returned result t spending)
    (stopped : ∀ t spending, spending.Trying (k + 1) 0 →
      P.panicked t spending ∧ P.dropped t spending) :
    (connection authorityHost port addresses).Sat budgetMonitor pace P t spending := by
  have already := trying.mono (Nat.le_add_right k 1) (Nat.le_refl 0)
  have settled := already.settled (by omega) (by omega)
  have ends := fun t => stopped t spending already
  unfold connection
  refine Prog.Sat.andThen _ (budgetQuiet_sat (Prog.Uses.perform True.intro) settled ?_ ends)
  intro made t
  cases made with
  | error message => exact returned _ t _ already
  | ok _ =>
    refine Prog.Sat.andThen _ (budgetQuiet_sat (firstSocketAddr_uses True.intro True.intro) settled
      ?_ ends)
    intro found t
    cases found with
    | error message => exact returned _ t _ already
    | ok addr =>
      refine Prog.Sat.andThen _ ?_
      intro t connecting _ _
      have opened := trying.next (.call (.connect addr authorityHost) connecting) rfl
      have rests : (spending.next (.call (.connect addr authorityHost) connecting)).Settled :=
        opened.settled (by simp [opensConnection]; omega) (by simp [opensStream])
      refine ⟨fun _ => rests.fine, ?_⟩
      cases connecting with
      | error message => exact returned _ t _ opened
      | ok _ =>
        have ends := fun t => stopped t _ opened
        refine Prog.Sat.andThen _ (budgetQuiet_sat (Prog.Uses.timed True.intro _
          (Prog.Uses.suspend True.intro)) rests ?_ ends)
        intro connected t
        cases connected with
        | error message => exact returned _ t _ opened
        | ok _ =>
          exact budgetQuiet_sat (Prog.Uses.timed True.intro _ (Prog.Uses.suspend True.intro)) rests
            (fun result t => returned result t _ opened) ends

/-- Once the request is on a stream, no failure lets it be retried. -/
theorem h3StreamPhase_budget {α ε : Type} {P : Post Spending (Except Http3AttemptError α)}
    {d : Duration} {future : Prog sig (Except ε α)} (uses : future.Uses budgetQuiet)
    (settled : spending.Settled) (value : ∀ a t, P.returned (.ok a) t spending)
    (failed : ∀ t, P.returned (.error streamErrorAfterRequestStarted) t spending)
    (stopped : ∀ t, P.panicked t spending ∧ P.dropped t spending) :
    (h3StreamPhase d future).Sat budgetMonitor pace P t spending := by
  refine Prog.Sat.timed_cut fun t' _ _ => ?_
  have still := fun label has => budgetMonitor_ignores spending t' label has
  have armed := still (.arm .upload (t' + d.nanos)) True.intro
  refine ⟨armed.2, fun spending t j => budgetMonitor_ignores spending t _ True.intro, ?_⟩
  rw [armed.1]
  refine budgetQuiet_sat uses settled ?_ fun t => ⟨(stopped t).1, failed t, (stopped t).2⟩
  intro result t
  cases result with
  | ok a => exact value a t
  | error err => exact failed t

theorem requestOnStream_budget {P : Post Spending (Except Http3AttemptError Response)}
    (request : Request Unit) (body : Option Bytes) (trying : spending.Trying k 0) (bounded : k ≤ 2)
    (returned : ∀ result t spending, spending.Trying k 1 →
      (result = .error (.stream true) → spending.Trying k 0) → P.returned result t spending)
    (stopped : ∀ t spending, spending.Trying k 1 → P.panicked t spending ∧ P.dropped t spending) :
    (requestOnStream request body).Sat budgetMonitor pace P t spending := by
  have already := trying.mono (Nat.le_refl k) (Nat.zero_le 1)
  have cut := fun t => returned (.error (.stream true)) t spending already fun _ => trying
  unfold requestOnStream
  refine Prog.Sat.andThen _ (Prog.Sat.timed_cut fun t' _ _ => ?_)
  have armed := budgetMonitor_ignores spending t' (.arm .streamOpen (t' + h3StreamOpenTimeout.nanos))
    True.intro
  refine ⟨armed.2, fun spending t j => budgetMonitor_ignores spending t _ True.intro, ?_⟩
  rw [armed.1]
  refine Prog.Sat.suspend fun t₁ _ _ => ?_
  have issued : spending.next (.issue (.sendRequest request)) = spending :=
    spending.next_silent rfl rfl rfl rfl rfl
  refine ⟨budgetMonitor_check issued id, fun t₂ _ => ?_⟩
  have waits : budgetMonitor.next spending t₁ (.issue (.sendRequest request)) = spending := issued
  rw [waits]
  refine ⟨already.settled bounded (Nat.le_refl 1), ?_, cut t₂, (stopped t₂ spending already).2⟩
  intro opened _
  have here := trying.next (.done (.sendRequest request) opened) rfl
  cases opened with
  | error err =>
    have unopened : (spending.next (.done (.sendRequest request) (.error err))).Trying k 0 := here
    have already := unopened.mono (Nat.le_refl k) (Nat.zero_le 1)
    exact ⟨fun _ => (already.settled bounded (Nat.le_refl 1)).fine,
      returned _ t₂ _ already fun _ => unopened⟩
  | ok stream =>
    have settled := here.settled bounded (Nat.le_refl 1)
    have ends := fun t => stopped t _ here
    have failed := fun t => returned (.error streamErrorAfterRequestStarted) t _ here (by
      intro same
      cases same)
    refine ⟨fun _ => settled.fine, ?_⟩
    have uploaded : (uploadBody body).Sat budgetMonitor pace
        ⟨fun result t spending' =>
          spending' = spending.next (.done (.sendRequest request) (.ok stream)) ∧
          (result = .ok () ∨ result = .error streamErrorAfterRequestStarted), P.panicked, P.dropped⟩ t₂
        (spending.next (.done (.sendRequest request) (.ok stream))) := by
      cases body with
      | none => exact ⟨rfl, .inl rfl⟩
      | some bytes =>
        exact h3StreamPhase_budget (Prog.Uses.suspend True.intro) settled (fun _ _ => ⟨rfl, .inl rfl⟩)
          (fun _ => ⟨rfl, .inr rfl⟩) ends
    refine Prog.Sat.andThen _ (uploaded.mono ?_ (fun _ _ => id) fun _ _ => id)
    rintro result t _ ⟨rfl, rfl | rfl⟩
    · refine Prog.Sat.andThen _ (h3StreamPhase_budget (Prog.Uses.suspend True.intro) settled ?_ failed
        ends)
      intro _ t
      refine Prog.Sat.bind _ (budgetQuiet_sat (Prog.Uses.suspend True.intro) settled ?_ ends)
      intro response t
      cases response with
      | ok parts => exact returned _ t _ here nofun
      | error err => exact failed t
    · exact failed t

theorem http3Request_budget {P : Post Spending (Except Http3AttemptError Response)}
    (call : Http3Call) (trying : spending.Trying k 0) (bounded : k ≤ 1)
    (returned : ∀ result t spending, spending.Trying (k + 1) 1 →
      (result = .error (.stream true) → spending.Trying (k + 1) 0) → P.returned result t spending)
    (stopped : ∀ t spending, spending.Trying (k + 1) 1 →
      P.panicked t spending ∧ P.dropped t spending) :
    (http3Request call).Sat budgetMonitor pace P t spending := by
  unfold http3Request
  refine Prog.Sat.bind _ (connection_budget _ _ _ trying bounded ?_ ?_)
  · intro connected t spending trying
    cases connected with
    | ok _ => exact requestOnStream_budget _ _ trying (by omega) returned stopped
    | error err =>
      exact returned _ t spending (trying.mono (Nat.le_refl _) (Nat.zero_le 1)) nofun
  · intro t spending trying
    exact stopped t spending (trying.mono (Nat.le_refl _) (Nat.zero_le 1))

end Attempt

section Routes

variable {pace : Pace} {spending : Spending} {k t : Nat} {client : Client}
  {target : Http3RequestTarget} {request : Request Unit} {body : Option Bytes} {now : Instant}
  {P : Post Spending (Except Error (Option Response))}

/-- Once there is another attempt, nothing more is said. -/
theorem over_budget {α : Type} {P : Post Spending α} {p : Prog sig α} (isOver : spending.Over)
    (ends : ∀ t spending, spending.Over →
      (∀ a, P.returned a t spending) ∧ P.panicked t spending ∧ P.dropped t spending) :
    p.Sat budgetMonitor pace P t spending :=
  Prog.Sat.of_invariant (I := Spending.Over)
    (fun _ _ label isOver => ⟨fun _ => (isOver.next label).settled.fine, isOver.next label⟩)
    (fun _ _ isOver => isOver.settled) (fun a t spending isOver => (ends t spending isOver).1 a)
    (fun t spending isOver => (ends t spending isOver).2.1)
    (fun t spending isOver => (ends t spending isOver).2.2) p isOver

theorem giveUp_budget {origin : Origin} (spent : spending.Spent)
    (gaveUp : ∀ t spending, spending.Spent → P.returned (.ok none) t spending)
    (stopped : ∀ t spending, spending.Settled → P.panicked t spending ∧ P.dropped t spending) :
    (giveUp client origin now).Sat budgetMonitor pace P t spending := by
  have uses : (Prog.ofSync (insertNegative client origin now)).Uses budgetQuiet :=
    Prog.Uses.ofSync _ (insertNegative_uses True.intro True.intro True.intro)
  exact Prog.Sat.bind _ (budgetQuiet_sat uses spent.settled (fun _ t => gaveUp t spending spent)
    fun t => stopped t spending spent.settled)

/-- A round of the loop, and the next one if nothing is on a stream yet. -/
theorem retryLoop_budget {attempt : Nat} {attempts : List Nat} (trying : spending.Trying k 0)
    (bounded : k ≤ 1)
    (answered : ∀ response t spending, spending.Trying 2 1 →
      P.returned (.ok (some response)) t spending)
    (gaveUp : ∀ t spending, spending.Spent → P.returned (.ok none) t spending)
    (stopped : ∀ t spending, spending.Settled → P.panicked t spending ∧ P.dropped t spending)
    (retried : ∀ retryWithoutH3, h3StreamFailureAction retryWithoutH3 attempt = .retryFreshH3 →
      ∀ t spending, spending.Trying (k + 1) 0 →
        (retryLoop client target request body now attempts).Sat budgetMonitor pace P t spending) :
    (retryLoop client target request body now (attempt :: attempts)).Sat budgetMonitor pace P t
      spending := by
  have two : k + 1 ≤ 2 := by omega
  refine retryLoop_sat (Prog.Sat.perform_bind fun t _ _ _ => ?_)
  have begun := trying.next
    (.call (.trace (.http3Request target.origin (callOf target request body))) ()) rfl
  refine ⟨fun _ => (begun.settled (Nat.le_trans bounded (by omega)) (Nat.zero_le 1)).fine,
    Prog.Sat.bind _ (Prog.Sat.guarded _ (http3Request_budget _ begun bounded ?_ ?_))⟩
  · intro result t spending trying unsent
    have whole := trying.mono two (Nat.le_refl 1)
    refine Prog.Sat.perform_bind fun t _ _ _ => ?_
    rcases result with (message | retryWithoutH3) | response
    · have spent := whole.spent (.call (.trace (.http3Outcome target.origin attempt
        (.failed (.handshake message)))) ()) rfl rfl rfl
      exact ⟨fun _ => spent.settled.fine, giveUp_budget spent gaveUp stopped⟩
    · cases action : h3StreamFailureAction retryWithoutH3 attempt with
      | retryFreshH3 =>
        have cut : retryWithoutH3 = true := by
          cases retryWithoutH3 with
          | true => rfl
          | false => simp [h3StreamFailureAction] at action
        have goesOn : Guarantees.gaveUp (.call (.trace (.http3Outcome target.origin attempt
            (.failed (.stream retryWithoutH3)))) ()) = none := by
          simp [Guarantees.gaveUp, givesUp, action]
        have again := (unsent (by rw [cut])).next _ goesOn
        refine ⟨fun _ => (again.settled two (Nat.zero_le 1)).fine, ?_⟩
        change AfterAttempt budgetMonitor pace P client target request body now attempt attempts
          (.error (.stream retryWithoutH3)) t _
        simp only [AfterAttempt, action]
        exact retried retryWithoutH3 action t _ again
      | useTcp =>
        have gives : Guarantees.gaveUp (.call (.trace (.http3Outcome target.origin attempt
            (.failed (.stream retryWithoutH3)))) ()) = some target.origin := by
          simp [Guarantees.gaveUp, givesUp, action]
        have spent := whole.spent _ gives rfl rfl
        refine ⟨fun _ => spent.settled.fine, ?_⟩
        change AfterAttempt budgetMonitor pace P client target request body now attempt attempts
          (.error (.stream retryWithoutH3)) t _
        simp only [AfterAttempt, action]
        exact giveUp_budget spent gaveUp stopped
    · have kept := whole.next (.call (.trace (.http3Outcome target.origin attempt .responded)) ()) rfl
      exact ⟨fun _ => (kept.settled (Nat.le_refl 2) (Nat.le_refl 1)).fine, answered response t _ kept⟩
  · intro t spending trying
    have settled := trying.settled two (Nat.le_refl 1)
    have uses : (cancellationGuardDrop client target.origin).Uses budgetQuiet :=
      ⟨True.intro, fun _ => ⟨True.intro, fun now =>
        insertNegative_uses True.intro True.intro True.intro⟩⟩
    exact ⟨Sync.Sat.of_uses budgetMonitor_ignores _ uses (fun _ t _ => (stopped t _ settled).1)
        fun _ t _ => (stopped t _ settled).1,
      Sync.Sat.of_uses budgetMonitor_ignores _ uses (fun _ t _ => (stopped t _ settled).2)
        fun _ t _ => (stopped t _ settled).1⟩

theorem route_budget (trying : spending.Trying 0 0)
    (answered : ∀ response t spending, spending.Trying 2 1 →
      P.returned (.ok (some response)) t spending)
    (gaveUp : ∀ t spending, spending.Spent → P.returned (.ok none) t spending)
    (stopped : ∀ t spending, spending.Settled → P.panicked t spending ∧ P.dropped t spending) :
    (requestHttp3WithStaleRetry client target request body now).Sat budgetMonitor pace P t
      spending := by
  refine retryLoop_budget trying (Nat.zero_le 1) answered gaveUp stopped ?_
  intro _ _ t spending trying
  refine retryLoop_budget trying (Nat.le_refl 1) answered gaveUp stopped ?_
  intro retryWithoutH3 again
  simp [h3StreamFailureAction] at again

/-- A route that is taken after the loop has given up makes another attempt. -/
theorem temptedRoute_budget (ended : spending.ended = true) (offered : spending.offered = true)
    (ends : ∀ t spending, spending.Over →
      (∀ result, P.returned result t spending) ∧ P.panicked t spending ∧ P.dropped t spending) :
    (requestHttp3WithStaleRetry client target request body now).Sat budgetMonitor pace P t
      spending := by
  refine retryLoop_sat (Prog.Sat.perform_bind fun t _ _ _ => ?_)
  have isOver : (spending.next (.call (.trace (.http3Request target.origin
      (callOf target request body))) ())).Over :=
    ⟨by simp [Spending.next, offered], by simp [Spending.next, ended, startsAttempt]⟩
  refine ⟨fun _ => isOver.settled.fine, over_budget isOver ?_⟩
  intro t spending isOver
  refine ⟨?_, (ends t spending isOver).2⟩
  intro result
  rcases result with (message | retryWithoutH3) | response
  · exact over_budget isOver ends
  · simp only [AfterAttempt]
    cases h3StreamFailureAction retryWithoutH3 0 with
    | retryFreshH3 => exact over_budget isOver ends
    | useTcp => exact over_budget isOver ends
  · exact (ends t spending isOver).1 _

end Routes

end MechanicsHttpClient.Guarantees
