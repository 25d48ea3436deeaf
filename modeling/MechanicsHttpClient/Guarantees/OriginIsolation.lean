import MechanicsHttpClient.Guarantees.CacheHistory
import MechanicsHttpClient.Runtime.Isolation

/-!
# Sends to different origins

src/client.rs:68-74. All sends of a client share three caches and the HTTP/3
endpoint, yet the sends to one origin do not notice the others: what they do,
label for label and instant for instant, they also do in a run of their own.
The one thing that crosses over is the lock of the negative cache, which an
overflow at any origin poisons.
-/

namespace MechanicsHttpClient.Guarantees

open MechanicsHttpClient.Runtime
open MechanicsHttpClient.Source

structure AgreeAt {β : Type} (origin : Origin) (whole part : Lock (Cache β)) : Prop where
  poisoned : part.poisoned = whole.poisoned
  value : part.value origin = whole.value origin

/-- `part` holds for `origin` what `whole` does. The endpoint may exist in `whole` only. -/
structure AgreeOn (origin : Origin) (whole part : SharedState) : Prop where
  httpsRr : AgreeAt origin whole.httpsRr part.httpsRr
  altSvc : AgreeAt origin whole.altSvc part.altSvc
  negative : AgreeAt origin whole.negative part.negative
  endpoint : part.endpoint.poisoned = whole.endpoint.poisoned
  created : part.endpoint.value = true → whole.endpoint.value = true

section AgreeAt

variable {β : Type} {origin other : Origin} {whole part : Lock (Cache β)}

theorem AgreeAt.insert (value : β) (poisoned : Bool) :
    AgreeAt origin ⟨whole.value.insert origin value, poisoned⟩
      ⟨part.value.insert origin value, poisoned⟩ :=
  ⟨rfl, by simp⟩

theorem AgreeAt.remove (poisoned : Bool) :
    AgreeAt origin ⟨whole.value.remove origin, poisoned⟩ ⟨part.value.remove origin, poisoned⟩ :=
  ⟨rfl, by simp⟩

theorem AgreeAt.insert_other (agrees : AgreeAt origin whole part) (value : β)
    (sound : whole.poisoned = false) (differs : origin ≠ other) :
    AgreeAt origin ⟨whole.value.insert other value, false⟩ part :=
  ⟨agrees.poisoned.trans sound, agrees.value.trans (Cache.insert_other _ _ differs).symm⟩

theorem AgreeAt.remove_other (agrees : AgreeAt origin whole part)
    (sound : whole.poisoned = false) (differs : origin ≠ other) :
    AgreeAt origin ⟨whole.value.remove other, false⟩ part :=
  ⟨agrees.poisoned.trans sound, agrees.value.trans (Cache.remove_other _ differs).symm⟩

theorem AgreeAt.lookupFresh (agrees : AgreeAt origin whole part) (fresh : β → Bool) :
    (part.lookupFresh origin fresh).1 = (whole.lookupFresh origin fresh).1 ∧
      AgreeAt origin (whole.lookupFresh origin fresh).2 (part.lookupFresh origin fresh).2 := by
  unfold Lock.lookupFresh
  rw [agrees.poisoned, agrees.value]
  cases whole.poisoned with
  | true => exact ⟨rfl, agrees⟩
  | false =>
    cases whole.value origin with
    | none => exact ⟨rfl, .remove false⟩
    | some value =>
      cases good : fresh value with
      | true => simpa [good] using agrees
      | false => simpa [good] using AgreeAt.remove false

theorem AgreeAt.lookupFresh_other (agrees : AgreeAt origin whole part) (fresh : β → Bool)
    (differs : origin ≠ other) : AgreeAt origin (whole.lookupFresh other fresh).2 part := by
  unfold Lock.lookupFresh
  cases sound : whole.poisoned with
  | true => exact agrees
  | false =>
    have removed := agrees.remove_other sound differs
    cases whole.value other with
    | none => exact removed
    | some value =>
      cases good : fresh value with
      | true => simpa [good] using agrees
      | false => simpa [good] using removed

end AgreeAt

/-- The deadline of a negative entry overflows. -/
def overflows : Label sig → Bool
  | .call (.negativeInsert _ _ _) (.error _) => true
  | _ => false

/-- Only under its own key, and without an overflow. -/
structure StaysWithin (builder : RequestBuilder) (label : Label sig) : Prop where
  own : ∀ origin, cacheKey label = some origin → originOf builder = some origin
  fits : overflows label = false

section Respond

variable {origin other : Origin} {whole part whole' : SharedState} {clock : Nat}

/-- The same answer, and states that agree again. -/
theorem kept_of {α : Type} [DecidableEq α] {f : SharedState → α × SharedState} {ans : α}
    (same : (f part).1 = (f whole).1) (agrees : AgreeOn origin (f whole).2 (f part).2)
    (answers : answered (f whole) ans = some whole') :
    ∃ part', answered (f part) ans = some part' ∧ AgreeOn origin whole' part' := by
  obtain ⟨isAns, rfl⟩ := answered_eq_some answers
  exact ⟨(f part).2, answered_iff.mpr ⟨same.trans isAns, rfl⟩, agrees⟩

theorem negativeInsert_kept (agrees : AgreeOn origin whole part) (now : Instant)
    (duration : Duration) :
    (part.negativeInsert origin now duration).1 = (whole.negativeInsert origin now duration).1 ∧
      AgreeOn origin (whole.negativeInsert origin now duration).2
        (part.negativeInsert origin now duration).2 := by
  unfold SharedState.negativeInsert
  rw [agrees.negative.poisoned]
  cases whole.negative.poisoned with
  | true => exact ⟨rfl, agrees⟩
  | false =>
    cases now.checkedAdd duration with
    | some expiresAt => exact ⟨rfl, { agrees with negative := .insert expiresAt false }⟩
    | none => exact ⟨rfl, { agrees with negative := ⟨rfl, agrees.negative.value⟩ }⟩

theorem altSvcUpdate_kept (agrees : AgreeOn origin whole part) (update : AltSvc.AltSvcUpdate) :
    AgreeOn origin (whole.altSvcUpdate origin update).2 (part.altSvcUpdate origin update).2 := by
  unfold SharedState.altSvcUpdate
  rw [agrees.altSvc.poisoned]
  cases whole.altSvc.poisoned with
  | true => exact agrees
  | false =>
    cases update with
    | clear => exact { agrees with altSvc := .remove false }
    | entry entry => exact { agrees with altSvc := .insert entry false }
    | none => exact agrees

theorem altSvcRemove_kept (agrees : AgreeOn origin whole part) :
    AgreeOn origin (whole.altSvcRemove origin).2 (part.altSvcRemove origin).2 := by
  unfold SharedState.altSvcRemove
  rw [agrees.altSvc.poisoned]
  cases whole.altSvc.poisoned with
  | true => exact agrees
  | false => exact { agrees with altSvc := .remove false }

theorem httpsRrInsert_kept (agrees : AgreeOn origin whole part) (entry : HttpsRr.HttpsRrEntry) :
    AgreeOn origin (whole.httpsRrInsert origin entry).2 (part.httpsRrInsert origin entry).2 := by
  unfold SharedState.httpsRrInsert
  rw [agrees.httpsRr.poisoned]
  cases whole.httpsRr.poisoned with
  | true => exact agrees
  | false => exact { agrees with httpsRr := .insert entry false }

/-- An endpoint that only `whole` has is created in `part`. -/
theorem endpoint_kept {ans : Except Str Unit} (agrees : AgreeOn origin whole part)
    (answers : answered (whole.endpointAnswer ans) ans = some whole') :
    ∃ part', answered (part.endpointAnswer ans) ans = some part' ∧ AgreeOn origin whole' part' := by
  obtain ⟨isAns, rfl⟩ := answered_eq_some answers
  unfold SharedState.endpointAnswer at isAns ⊢
  rw [agrees.endpoint]
  cases poisoned : whole.endpoint.poisoned with
  | true =>
    simp only [poisoned, if_true] at isAns ⊢
    exact ⟨part, answered_iff.mpr ⟨isAns, rfl⟩, agrees⟩
  | false =>
    simp only [poisoned, Bool.false_eq_true, if_false] at isAns ⊢
    cases there : whole.endpoint.value with
    | true =>
      simp only [there, if_true] at isAns ⊢
      subst isAns
      cases here : part.endpoint.value with
      | true => exact ⟨part, answered_iff.mpr ⟨rfl, rfl⟩, agrees⟩
      | false =>
        refine ⟨{ part with endpoint := ⟨true, false⟩ }, answered_iff.mpr ⟨rfl, rfl⟩, ?_⟩
        exact { agrees with endpoint := poisoned.symm, created := fun _ => there }
    | false =>
      have here : part.endpoint.value = false := by
        rw [← Bool.not_eq_true]
        intro created
        rw [agrees.created created] at there
        cases there
      simp only [there, here, Bool.false_eq_true, if_false] at isAns ⊢
      cases ans with
      | error message => exact ⟨part, answered_iff.mpr ⟨rfl, rfl⟩, agrees⟩
      | ok created =>
        refine ⟨{ part with endpoint := ⟨true, false⟩ }, answered_iff.mpr ⟨rfl, rfl⟩, ?_⟩
        exact { agrees with endpoint := rfl, created := fun _ => rfl }

/-- An operation for the origin, or for none, is answered alike. -/
theorem respond_kept {op : Op} {ans : op.Ans}
    (own : ∀ o, cacheKey (.call op ans) = some o → o = origin)
    (agrees : AgreeOn origin whole part) (answers : respond op clock whole ans = some whole') :
    ∃ part', respond op clock part ans = some part' ∧ AgreeOn origin whole' part' := by
  cases op with
  | instantNow =>
    simp only [respond] at answers ⊢
    split at answers
    · cases answers
      rename_i reads
      exact ⟨part, if_pos reads, agrees⟩
    · cases answers
  | negativeCacheHit o now =>
    cases own o rfl
    have looked := agrees.negative.lookupFresh fun expiresAt => now.nanos < expiresAt.nanos
    exact kept_of (congrArg Option.isSome looked.1) { agrees with negative := looked.2 } answers
  | altSvcEntry o now =>
    cases own o rfl
    have looked := agrees.altSvc.lookupFresh fun entry => AltSvc.fresh entry now
    exact kept_of looked.1 { agrees with altSvc := looked.2 } answers
  | httpsRrCached o now =>
    cases own o rfl
    have looked := agrees.httpsRr.lookupFresh fun entry => HttpsRr.fresh entry now
    exact kept_of looked.1 { agrees with httpsRr := looked.2 } answers
  | httpsRrInsert o entry =>
    cases own o rfl
    exact kept_of (Subsingleton.elim _ _) (httpsRrInsert_kept agrees entry) answers
  | negativeInsert o now duration =>
    cases own o rfl
    have inserted := negativeInsert_kept agrees now duration
    exact kept_of inserted.1 inserted.2 answers
  | altSvcRemove o =>
    cases own o rfl
    exact kept_of (Subsingleton.elim _ _) (altSvcRemove_kept agrees) answers
  | altSvcUpdate o update =>
    cases own o rfl
    exact kept_of (Subsingleton.elim _ _) (altSvcUpdate_kept agrees update) answers
  | endpoint => exact endpoint_kept agrees answers
  | _ =>
    cases answers
    exact ⟨part, rfl, agrees⟩

/-- An operation for another origin, or for none, changes nothing here. -/
theorem respond_other {op : Op} {ans : op.Ans}
    (others : ∀ o, cacheKey (.call op ans) = some o → origin ≠ o)
    (fits : overflows (.call op ans) = false)
    (agrees : AgreeOn origin whole part) (answers : respond op clock whole ans = some whole') :
    AgreeOn origin whole' part := by
  cases op with
  | instantNow =>
    simp only [respond] at answers
    split at answers
    · cases answers
      exact agrees
    · cases answers
  | negativeCacheHit o now =>
    obtain ⟨-, rfl⟩ := answered_eq_some answers
    exact { agrees with negative := agrees.negative.lookupFresh_other _ (others o rfl) }
  | altSvcEntry o now =>
    obtain ⟨-, rfl⟩ := answered_eq_some answers
    exact { agrees with altSvc := agrees.altSvc.lookupFresh_other _ (others o rfl) }
  | httpsRrCached o now =>
    obtain ⟨-, rfl⟩ := answered_eq_some answers
    exact { agrees with httpsRr := agrees.httpsRr.lookupFresh_other _ (others o rfl) }
  | httpsRrInsert o entry =>
    obtain ⟨-, rfl⟩ := answered_eq_some answers
    unfold SharedState.httpsRrInsert
    cases sound : whole.httpsRr.poisoned with
    | true => exact agrees
    | false => exact { agrees with httpsRr := agrees.httpsRr.insert_other entry sound (others o rfl) }
  | negativeInsert o now duration =>
    obtain ⟨isAns, rfl⟩ := answered_eq_some answers
    unfold SharedState.negativeInsert at isAns ⊢
    cases sound : whole.negative.poisoned with
    | true => exact agrees
    | false =>
      simp only [sound, Bool.false_eq_true, if_false] at isAns ⊢
      cases fit : now.checkedAdd duration with
      | some expiresAt =>
        exact { agrees with negative := agrees.negative.insert_other expiresAt sound (others o rfl) }
      | none =>
        simp only [fit] at isAns
        subst isAns
        cases fits
  | altSvcRemove o =>
    obtain ⟨-, rfl⟩ := answered_eq_some answers
    unfold SharedState.altSvcRemove
    cases sound : whole.altSvc.poisoned with
    | true => exact agrees
    | false => exact { agrees with altSvc := agrees.altSvc.remove_other sound (others o rfl) }
  | altSvcUpdate o update =>
    obtain ⟨-, rfl⟩ := answered_eq_some answers
    unfold SharedState.altSvcUpdate
    cases sound : whole.altSvc.poisoned with
    | true => exact agrees
    | false =>
      cases update with
      | clear => exact { agrees with altSvc := agrees.altSvc.remove_other sound (others o rfl) }
      | entry entry =>
        exact { agrees with altSvc := agrees.altSvc.insert_other entry sound (others o rfl) }
      | none => exact agrees
  | endpoint =>
    obtain ⟨-, rfl⟩ := answered_eq_some answers
    unfold SharedState.endpointAnswer
    cases poisoned : whole.endpoint.poisoned with
    | true => exact agrees
    | false =>
      cases there : whole.endpoint.value with
      | true => exact agrees
      | false =>
        cases ans with
        | error message => exact agrees
        | ok created =>
          exact { agrees with endpoint := agrees.endpoint.trans poisoned, created := fun _ => rfl }
  | _ =>
    cases answers
    exact agrees

end Respond

def NothingOverflowed (log : List (Entry sig)) : Prop := ∀ e ∈ log, overflows e.label = false

def SentTo (client : Client) (origin : Origin) (job : (sends client).Job) : Prop :=
  originOf job.val = some origin

theorem sends_isolate (client : Client) (origin : Origin) :
    Isolates (sends client) (SentTo client origin)
      (fun job label => StaysWithin job.val label) (AgreeOn origin) where
  kept := by
    intro job label t whole whole' part mine stays agrees effect
    cases label with
    | call op ans =>
      refine respond_kept ?_ agrees effect
      intro o key
      exact Option.some.inj ((stays.own o key).symm.trans mine)
    | _ =>
      cases effect
      exact ⟨part, rfl, agrees⟩
  others := by
    intro job label t whole whole' part others stays agrees effect
    cases label with
    | call op ans =>
      refine respond_other ?_ stays.fits agrees effect
      intro o key same
      subst same
      exact others (stays.own origin key)
    | _ =>
      cases effect
      exact agrees

theorem AgreeOn.refl (origin : Origin) (shared : SharedState) : AgreeOn origin shared shared :=
  ⟨⟨rfl, rfl⟩, ⟨rfl, rfl⟩, ⟨rfl, rfl⟩, rfl, id⟩

/-- Whatever else a client sends, its sends to one origin have a run of their own. In it
they have the same bodies and logs at the same instants, and find the same entries. -/
theorem origins_isolated {client : Client} {pace : Pace} {clock : Nat} {shared : SharedState}
    {w : World (sends client)} (reached : Reachable pace (.start clock shared) w)
    (fits : NothingOverflowed w.log) (origin : Origin) :
    ∃ alone places, Reachable pace (.start clock shared) alone ∧
      PartOf (SentTo client origin) (AgreeOn origin) w alone places := by
  refine reached.isolated (sends_isolate client origin) (AgreeOn.refl origin shared) ?_
  intro e logged task found
  obtain ⟨task', found', own⟩ := reached.task_of_entry logged
  rw [found] at found'
  cases found'
  exact ⟨fun o key => cacheKey_own reached found own key, fits e logged⟩

namespace Example

def elsewhereOrigin : Origin := ⟨"p.example".toList, 443⟩

def sendsElsewhere : RequestBuilder :=
  RequestBuilder.new client .get "https://p.example/".toList
    (.ok ⟨some "https".toList, some "p.example".toList, none, "/".toList⟩)

/-- A send to another origin remembers a failure there. -/
def failsElsewhere : List (Label sig) :=
  [.call (.trace (.tryHttp3Entered elsewhereOrigin)) (), .call .instantNow start,
    .call (.negativeCacheHit elsewhereOrigin start) false,
    .call (.altSvcEntry elsewhereOrigin start) none,
    .call (.httpsRrCached elsewhereOrigin start) none, .arm .httpsRrLookup 150000000,
    .issue (.lookupHttps elsewhereOrigin.host)]

/-- Two sends in turns. -/
def twoOrigins : List (Event (sends client)) :=
  [.spawn ⟨sendsElsewhere, rfl⟩, spawned client] ++ performs 0 (failsElsewhere.take 3) ++
  performs 1 (consults start none) ++ performs 0 (failsElsewhere.drop 3)

def twoOriginsLog : List (Entry sig) :=
  logged 0 0 (failsElsewhere.take 3) ++ logged 1 0 (consults start none) ++
  logged 0 0 (failsElsewhere.drop 3)

end Example

/-- The second of two sends, cut out of a run in which they take turns. -/
theorem origins_isolated_two :
    ∃ (w alone : World (sends Example.client)) (places : List Nat),
      PartOf (SentTo Example.client Example.origin) (AgreeOn Example.origin) w alone places ∧
      1 ∈ places ∧ ∃ e ∈ w.log, cacheKey e.label = some Example.elsewhereOrigin := by
  obtain ⟨w, task, reached, found, -, -, log, job, -⟩ := Example.reaches .strict Example.twoOrigins
    1 0 false Example.twoOriginsLog ⟨Example.builder Example.client, rfl⟩ 0 false true rfl
  have fits : NothingOverflowed w.log := by
    have plain : ∀ e ∈ Example.twoOriginsLog, overflows e.label = false := by decide
    exact log ▸ plain
  obtain ⟨alone, places, -, isPart⟩ := origins_isolated reached fits Example.origin
  refine ⟨w, alone, places, isPart, isPart.complete 1 task found ?_, ?_⟩
  · rw [job]
    rfl
  · rw [log]
    exact ⟨⟨0, 0, .call (.negativeCacheHit Example.elsewhereOrigin Example.start) false⟩,
      by simp [Example.twoOriginsLog, Example.logged, Example.failsElsewhere], rfl⟩

end MechanicsHttpClient.Guarantees
