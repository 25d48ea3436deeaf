import MechanicsHttpClient.Guarantees.Footprint
import MechanicsHttpClient.Runtime.Slot

/-!
# The caches as a function of the history

For one origin, the negative cache and the Alt-Svc cache are slots of
`Runtime.Slot`: `negativeAct` and `altSvcAct` say what each operation of any
task does to them. The contents of the shared state are the slots after the log
(`negative_eq_after`, `altSvc_eq_after`), and an answer of `negative_cache_hit`
or `alt_svc_entry` is read off the slot at that point of the run.
-/

namespace MechanicsHttpClient.Guarantees

open MechanicsHttpClient.Runtime
open MechanicsHttpClient.Source

/-- The negative entry of `origin` under one instruction. -/
def negativeAct (origin : Origin) : Label sig → SlotAct Instant
  | .call (.negativeInsert o now duration) _ =>
    if o = origin then
      match now.checkedAdd duration with
      | some expiresAt => .store expiresAt
      | none => .keep
    else .keep
  | .call (.negativeCacheHit o now) _ =>
    if o = origin then .evict fun expiresAt => !decide (now.nanos < expiresAt.nanos) else .keep
  | _ => .keep

/-- The Alt-Svc entry of `origin` under one instruction. -/
def altSvcAct (origin : Origin) : Label sig → SlotAct AltSvc.AltSvcEntry
  | .call (.altSvcUpdate o update) _ =>
    if o = origin then
      match update with
      | .entry entry => .store entry
      | .clear => .evict fun _ => true
      | .none => .keep
    else .keep
  | .call (.altSvcRemove o) _ => if o = origin then .evict fun _ => true else .keep
  | .call (.altSvcEntry o now) _ =>
    if o = origin then .evict fun entry => !AltSvc.fresh entry now else .keep
  | _ => .keep

/-- The key that an operation on the caches is given. -/
def cacheKey : Label sig → Option Origin
  | .call (.negativeCacheHit origin _) _ => some origin
  | .call (.negativeInsert origin _ _) _ => some origin
  | .call (.altSvcEntry origin _) _ => some origin
  | .call (.altSvcRemove origin) _ => some origin
  | .call (.altSvcUpdate origin _) _ => some origin
  | .call (.httpsRrCached origin _) _ => some origin
  | .call (.httpsRrInsert origin _) _ => some origin
  | _ => none

/-- An operation with another key, or with none, keeps both slots. -/
theorem cacheKey_other {origin : Origin} {label : Label sig} (other : cacheKey label ≠ some origin) :
    negativeAct origin label = .keep ∧ altSvcAct origin label = .keep := by
  cases label with
  | call op ans =>
    cases op with
    | negativeCacheHit o now => simp_all [cacheKey, negativeAct, altSvcAct]
    | negativeInsert o now duration => simp_all [cacheKey, negativeAct, altSvcAct]
    | altSvcEntry o now => simp_all [cacheKey, negativeAct, altSvcAct]
    | altSvcRemove o => simp_all [cacheKey, negativeAct, altSvcAct]
    | altSvcUpdate o update => simp_all [cacheKey, negativeAct, altSvcAct]
    | _ => exact ⟨rfl, rfl⟩
  | _ => exact ⟨rfl, rfl⟩

/-- The lock is sound, and the value under every key has undergone the key's act. -/
structure Applied {β : Type} (act : Origin → SlotAct β) (lock lock' : Lock (Cache β)) : Prop where
  sound : lock'.poisoned = false
  value : ∀ origin, lock'.value origin = (act origin).apply (lock.value origin)

section Applied

variable {β : Type} {lock lock' : Lock (Cache β)}

theorem Applied.unchanged {act : Origin → SlotAct β} (sound : lock.poisoned = false)
    (same : lock' = lock) (keeps : ∀ origin, act origin = .keep) : Applied act lock lock' where
  sound := same ▸ sound
  value origin := by
    rw [keeps, same]
    rfl

theorem Applied.insert (origin : Origin) (value : β) :
    Applied (fun o => if origin = o then .store value else .keep) lock
      ⟨lock.value.insert origin value, false⟩ where
  sound := rfl
  value o := by
    by_cases same : origin = o
    · subst same
      simp [SlotAct.apply]
    · rw [if_neg same]
      exact Cache.insert_other _ _ (Ne.symm same)

/-- Removing what meets a condition, or whatever there is. -/
theorem Applied.remove {origin : Origin} {stale : β → Bool}
    (removes : ∀ value, lock.value origin = some value → stale value = true) :
    Applied (fun o => if origin = o then .evict stale else .keep) lock
      ⟨lock.value.remove origin, false⟩ where
  sound := rfl
  value o := by
    by_cases same : origin = o
    · subst same
      cases content : lock.value origin with
      | none => simp [SlotAct.apply]
      | some value => simp [SlotAct.apply, removes value content]
    · rw [if_neg same]
      exact Cache.remove_other _ (Ne.symm same)

/-- A lookup purges what is not fresh, at its own key only. -/
theorem Applied.lookupFresh (sound : lock.poisoned = false) (origin : Origin)
    (fresh : β → Bool) :
    Applied (fun o => if origin = o then .evict fun value => !fresh value else .keep) lock
      (lock.lookupFresh origin fresh).2 := by
  unfold Lock.lookupFresh
  rw [if_neg (by simp [sound])]
  cases content : lock.value origin with
  | none => exact .remove (by simp [content])
  | some value =>
    cases good : fresh value with
    | false =>
      simp only [good, Bool.false_eq_true, if_false]
      refine .remove ?_
      intro held here
      cases content.symm.trans here
      simp [good]
    | true =>
      simp only [good, if_true]
      refine ⟨sound, ?_⟩
      intro o
      by_cases same : origin = o
      · subst same
        simp [content, SlotAct.apply, good]
      · simp [same, SlotAct.apply]

theorem lookupFresh_answer (sound : lock.poisoned = false) (origin : Origin) (fresh : β → Bool) :
    (lock.lookupFresh origin fresh).1 = (lock.value origin).filter fresh := by
  unfold Lock.lookupFresh
  rw [if_neg (by simp [sound])]
  cases lock.value origin with
  | none => rfl
  | some value => cases good : fresh value <;> simp [good, Option.filter]

end Applied

/-- A poisoned lock stays as it is. -/
theorem lookupFresh_poisoned {β : Type} (lock : Lock (Cache β)) (origin : Origin)
    (fresh : β → Bool) (poisoned : lock.poisoned = true) :
    lock.lookupFresh origin fresh = (none, lock) := by
  unfold Lock.lookupFresh
  rw [if_pos poisoned]

theorem answered_iff {α : Type} [DecidableEq α] {outcome : α × SharedState} {ans : α}
    {shared : SharedState} :
    answered outcome ans = some shared ↔ outcome.1 = ans ∧ outcome.2 = shared := by
  unfold answered
  split
  · rename_i same
    simp [same]
  · rename_i different
    simp [different]

theorem answered_eq_some {α : Type} [DecidableEq α] {outcome : α × SharedState} {ans : α}
    {shared : SharedState} (h : answered outcome ans = some shared) :
    outcome.1 = ans ∧ outcome.2 = shared := answered_iff.mp h

/-- The caches of the shared state. -/
inductive CacheName where
  | negative | altSvc | httpsRr
  deriving DecidableEq

/-- The cache that an operation works on. -/
def cacheOf : Op → Option CacheName
  | .negativeCacheHit _ _ | .negativeInsert _ _ _ => some .negative
  | .altSvcEntry _ _ | .altSvcRemove _ | .altSvcUpdate _ _ => some .altSvc
  | .httpsRrCached _ _ | .httpsRrInsert _ _ => some .httpsRr
  | _ => none

structure OthersKept (op : Op) (shared shared' : SharedState) : Prop where
  negative : cacheOf op ≠ some .negative → shared'.negative = shared.negative
  altSvc : cacheOf op ≠ some .altSvc → shared'.altSvc = shared.altSvc
  httpsRr : cacheOf op ≠ some .httpsRr → shared'.httpsRr = shared.httpsRr

/-- An operation leaves the caches alone that it does not work on. -/
theorem respond_others {op : Op} {clock : Nat} {shared shared' : SharedState} {ans : op.Ans}
    (h : respond op clock shared ans = some shared') : OthersKept op shared shared' := by
  cases op with
  | instantNow =>
    simp only [respond] at h
    split at h <;> cases h
    exact ⟨fun _ => rfl, fun _ => rfl, fun _ => rfl⟩
  | negativeCacheHit origin now =>
    simp only [respond] at h
    rw [← (answered_eq_some h).2]
    exact ⟨fun other => absurd rfl other, fun _ => rfl, fun _ => rfl⟩
  | negativeInsert origin now duration =>
    simp only [respond] at h
    rw [← (answered_eq_some h).2]
    unfold SharedState.negativeInsert
    repeat' split
    all_goals exact ⟨fun other => absurd rfl other, fun _ => rfl, fun _ => rfl⟩
  | altSvcEntry origin now =>
    simp only [respond] at h
    rw [← (answered_eq_some h).2]
    exact ⟨fun _ => rfl, fun other => absurd rfl other, fun _ => rfl⟩
  | altSvcRemove origin =>
    simp only [respond] at h
    rw [← (answered_eq_some h).2]
    unfold SharedState.altSvcRemove
    split
    all_goals exact ⟨fun _ => rfl, fun other => absurd rfl other, fun _ => rfl⟩
  | altSvcUpdate origin update =>
    simp only [respond] at h
    rw [← (answered_eq_some h).2]
    unfold SharedState.altSvcUpdate
    repeat' split
    all_goals exact ⟨fun _ => rfl, fun other => absurd rfl other, fun _ => rfl⟩
  | httpsRrCached origin now =>
    simp only [respond] at h
    rw [← (answered_eq_some h).2]
    exact ⟨fun _ => rfl, fun _ => rfl, fun other => absurd rfl other⟩
  | httpsRrInsert origin entry =>
    simp only [respond] at h
    rw [← (answered_eq_some h).2]
    unfold SharedState.httpsRrInsert
    split
    all_goals exact ⟨fun _ => rfl, fun _ => rfl, fun other => absurd rfl other⟩
  | endpoint =>
    simp only [respond] at h
    rw [← (answered_eq_some h).2]
    unfold SharedState.endpointAnswer
    repeat' split
    all_goals exact ⟨fun _ => rfl, fun _ => rfl, fun _ => rfl⟩
  | _ =>
    cases h
    exact ⟨fun _ => rfl, fun _ => rfl, fun _ => rfl⟩

/-- What one instruction does to the negative cache, while its lock is sound. -/
theorem effect_negative {client : Client} {clock : Nat} {shared shared' : SharedState}
    {label : Label sig} (effect : (sends client).effect clock shared label = some shared')
    (sound : shared'.negative.poisoned = false) :
    shared.negative.poisoned = false ∧
      Applied (fun origin => negativeAct origin label) shared.negative shared'.negative := by
  have unchanged : shared'.negative = shared.negative →
      (∀ origin, negativeAct origin label = .keep) → shared.negative.poisoned = false ∧
        Applied (fun origin => negativeAct origin label) shared.negative shared'.negative := by
    intro same keeps
    have before : shared.negative.poisoned = false := same ▸ sound
    exact ⟨before, .unchanged before same keeps⟩
  cases label with
  | call op ans =>
    have responded : respond op clock shared ans = some shared' := effect
    cases op with
    | negativeCacheHit o now =>
      simp only [respond] at responded
      have after := (answered_eq_some responded).2
      subst after
      have healthy : shared.negative.poisoned = false := by
        by_contra poisoned
        have stuck := lookupFresh_poisoned shared.negative o
          (fun expiresAt => decide (now.nanos < expiresAt.nanos)) (by simpa using poisoned)
        simp only [SharedState.negativeCacheHit, stuck] at sound
        exact poisoned sound
      exact ⟨healthy, .lookupFresh healthy o _⟩
    | negativeInsert o now duration =>
      simp only [respond] at responded
      have after := (answered_eq_some responded).2
      subst after
      unfold SharedState.negativeInsert at sound ⊢
      split at sound
      · rename_i poisoned
        rw [poisoned] at sound
        cases sound
      · rename_i healthy
        rw [if_neg healthy]
        refine ⟨by simpa using healthy, ?_⟩
        simp only [negativeAct]
        cases sum : now.checkedAdd duration with
        | none =>
          rw [sum] at sound
          cases sound
        | some expiresAt => exact .insert o expiresAt
    | _ =>
      have same := (respond_others responded).negative (by simp [cacheOf])
      exact unchanged same fun _ => rfl
  | _ =>
    cases effect
    exact unchanged rfl fun _ => rfl

/-- What one instruction does to the Alt-Svc cache, whose lock nothing poisons. -/
theorem effect_altSvc {client : Client} {clock : Nat} {shared shared' : SharedState}
    {label : Label sig} (effect : (sends client).effect clock shared label = some shared')
    (sound : shared.altSvc.poisoned = false) :
    Applied (fun origin => altSvcAct origin label) shared.altSvc shared'.altSvc := by
  have healthy : ¬ shared.altSvc.poisoned = true := by simp [sound]
  cases label with
  | call op ans =>
    have responded : respond op clock shared ans = some shared' := effect
    cases op with
    | altSvcEntry o now =>
      simp only [respond] at responded
      rw [← (answered_eq_some responded).2]
      exact .lookupFresh sound o _
    | altSvcRemove o =>
      simp only [respond] at responded
      rw [← (answered_eq_some responded).2]
      unfold SharedState.altSvcRemove
      rw [if_neg healthy]
      exact .remove fun _ _ => rfl
    | altSvcUpdate o update =>
      simp only [respond] at responded
      rw [← (answered_eq_some responded).2]
      unfold SharedState.altSvcUpdate
      rw [if_neg healthy]
      cases update with
      | none => exact .unchanged sound rfl (by simp [altSvcAct])
      | clear => exact .remove fun _ _ => rfl
      | entry entry => exact .insert o entry
    | _ =>
      have same := (respond_others responded).altSvc (by simp [cacheOf])
      exact .unchanged sound same fun _ => rfl
  | _ =>
    cases effect
    exact .unchanged sound rfl fun _ => rfl

/-- The negative entry of an origin after a history. -/
def negativeAfter (origin : Origin) (history : List (Entry sig)) : Option Instant :=
  Slot.after (fun e => negativeAct origin e.label) history

/-- The Alt-Svc entry of an origin after a history. -/
def altSvcAfter (origin : Origin) (history : List (Entry sig)) : Option AltSvc.AltSvcEntry :=
  Slot.after (fun e => altSvcAct origin e.label) history

/-- Poisoning is for ever. -/
theorem negative_sound_before {client : Client} (history : List (Entry sig)) :
    ∀ {shared shared' : SharedState}, replay (sends client) shared history = some shared' →
      shared'.negative.poisoned = false → shared.negative.poisoned = false := by
  induction history with
  | nil =>
    intro shared shared' replayed sound
    cases replayed
    exact sound
  | cons e rest ih =>
    intro shared shared' replayed sound
    obtain ⟨middle, effect, further⟩ := Option.bind_eq_some_iff.mp replayed
    exact (effect_negative effect (ih further sound)).1

/-- Only a deadline that is not representable poisons the negative cache. -/
theorem effect_keeps_sound {client : Client} {clock : Nat} {shared shared' : SharedState}
    {label : Label sig} (effect : (sends client).effect clock shared label = some shared')
    (fits : ∀ origin now duration ans, label = .call (.negativeInsert origin now duration) ans →
      now.nanos + duration.nanos < instantLimit)
    (sound : shared.negative.poisoned = false) : shared'.negative.poisoned = false := by
  cases label with
  | call op ans =>
    have responded : respond op clock shared ans = some shared' := effect
    cases op with
    | negativeCacheHit origin now =>
      simp only [respond] at responded
      rw [← (answered_eq_some responded).2]
      exact (Applied.lookupFresh sound origin _).sound
    | negativeInsert origin now duration =>
      simp only [respond] at responded
      rw [← (answered_eq_some responded).2]
      have bound := fits origin now duration ans rfl
      simp [SharedState.negativeInsert, sound, Instant.checkedAdd, bound]
    | _ =>
      rw [(respond_others responded).negative (by simp [cacheOf])]
      exact sound
  | _ =>
    cases effect
    exact sound

theorem replay_keeps_sound {client : Client} (history : List (Entry sig))
    (fits : ∀ e ∈ history, ∀ origin now duration ans,
      e.label = .call (.negativeInsert origin now duration) ans →
      now.nanos + duration.nanos < instantLimit) :
    ∀ {shared shared' : SharedState}, replay (sends client) shared history = some shared' →
      shared.negative.poisoned = false → shared'.negative.poisoned = false := by
  induction history with
  | nil =>
    intro shared shared' replayed sound
    cases replayed
    exact sound
  | cons e rest ih =>
    intro shared shared' replayed sound
    obtain ⟨middle, effect, further⟩ := Option.bind_eq_some_iff.mp replayed
    exact ih (fun e' mem => fits e' (List.mem_cons_of_mem _ mem)) further
      (effect_keeps_sound effect (fits e List.mem_cons_self) sound)

theorem negative_eq_after {client : Client} (history : List (Entry sig)) :
    ∀ {shared : SharedState}, replay (sends client) SharedState.new history = some shared →
      shared.negative.poisoned = false →
      ∀ origin, shared.negative.value origin = negativeAfter origin history := by
  induction history using List.reverseRecOn with
  | nil =>
    intro shared replayed _ origin
    cases replayed
    rfl
  | append_singleton history e ih =>
    intro shared replayed sound origin
    have whole := replay_append (sends client) SharedState.new history [e]
    obtain ⟨middle, before, last⟩ := Option.bind_eq_some_iff.mp (whole.symm.trans replayed)
    obtain ⟨shared', effect, done⟩ := Option.bind_eq_some_iff.mp last
    cases done
    have step := effect_negative effect sound
    rw [negativeAfter, Slot.after_append_singleton, step.2.value origin, ih before step.1 origin]
    rfl

/-- A cache whose lock nothing poisons holds what its slots hold after the log. -/
theorem cache_eq_after {client : Client} {β : Type} (cache : SharedState → Lock (Cache β))
    (act : Origin → Label sig → SlotAct β) (fresh : cache .new = ⟨fun _ => none, false⟩)
    (step : ∀ {clock : Nat} {shared shared' : SharedState} {label : Label sig},
      (sends client).effect clock shared label = some shared' →
      (cache shared).poisoned = false →
      Applied (fun origin => act origin label) (cache shared) (cache shared'))
    (history : List (Entry sig)) :
    ∀ {shared : SharedState}, replay (sends client) SharedState.new history = some shared →
      (cache shared).poisoned = false ∧ ∀ origin,
        (cache shared).value origin = Slot.after (fun e => act origin e.label) history := by
  induction history using List.reverseRecOn with
  | nil =>
    intro shared replayed
    cases replayed
    rw [fresh]
    exact ⟨rfl, fun _ => rfl⟩
  | append_singleton history e ih =>
    intro shared replayed
    have whole := replay_append (sends client) SharedState.new history [e]
    obtain ⟨middle, before, last⟩ := Option.bind_eq_some_iff.mp (whole.symm.trans replayed)
    obtain ⟨shared', effect, done⟩ := Option.bind_eq_some_iff.mp last
    cases done
    have after := step effect (ih before).1
    refine ⟨after.sound, ?_⟩
    intro origin
    rw [Slot.after_append_singleton, after.value origin, (ih before).2 origin]

theorem altSvc_eq_after {client : Client} (history : List (Entry sig)) :
    ∀ {shared : SharedState}, replay (sends client) SharedState.new history = some shared →
      shared.altSvc.poisoned = false ∧
      ∀ origin, shared.altSvc.value origin = altSvcAfter origin history :=
  cache_eq_after SharedState.altSvc altSvcAct rfl effect_altSvc history

/-- The expiry that an instruction writes into the negative entry of `origin`. -/
def negativeWritten (origin : Origin) : Label sig → Option Instant
  | .call (.negativeInsert o now duration) _ =>
    if o = origin then now.checkedAdd duration else none
  | _ => none

/-- What an instruction writes into the Alt-Svc slot of `origin`: an entry, or
nothing any more. -/
def altSvcWritten (origin : Origin) : Label sig → Option (Option AltSvc.AltSvcEntry)
  | .call (.altSvcUpdate o (.entry entry)) _ => if o = origin then some (some entry) else none
  | .call (.altSvcUpdate o .clear) _ => if o = origin then some none else none
  | .call (.altSvcRemove o) _ => if o = origin then some none else none
  | _ => none

/-- `value` is the last one written in the history, and `later` came after it. -/
def LastWritten {β : Type} (written : Label sig → Option β) (value : β)
    (history later : List (Entry sig)) : Prop :=
  ∃ before e, history = before ++ e :: later ∧ written e.label = some value ∧
    ∀ e' ∈ later, written e'.label = none

/-- The last negative entry, unless a check has purged it since. -/
def NegativeHeld (origin : Origin) (history : List (Entry sig)) (expiresAt : Instant) : Prop :=
  ∃ later, LastWritten (negativeWritten origin) expiresAt history later ∧
    ∀ e ∈ later, ∀ now hit, e.label = .call (.negativeCacheHit origin now) hit →
      now.nanos < expiresAt.nanos

/-- The last Alt-Svc entry, unless a lookup has purged it since. -/
def AltSvcHeld (origin : Origin) (history : List (Entry sig)) (entry : AltSvc.AltSvcEntry) :
    Prop :=
  ∃ later, LastWritten (altSvcWritten origin) (some entry) history later ∧
    ∀ e ∈ later, ∀ now found, e.label = .call (.altSvcEntry origin now) found →
      now.nanos < entry.expiresAt.nanos

theorem negativeAct_store_iff {origin : Origin} {label : Label sig} {expiresAt : Instant} :
    negativeAct origin label = .store expiresAt ↔ negativeWritten origin label = some expiresAt := by
  unfold negativeAct negativeWritten
  split
  · rename_i o now duration _
    by_cases same : o = origin
    · simp only [if_pos same]
      cases now.checkedAdd duration <;> simp
    · simp [same]
  · rename_i o now _
    by_cases same : o = origin <;> simp [same]
  · simp

theorem negativeWritten_some {origin : Origin} {label : Label sig} {expiresAt : Instant}
    (written : negativeWritten origin label = some expiresAt) :
    ∃ now duration ans, label = .call (.negativeInsert origin now duration) ans ∧
      now.checkedAdd duration = some expiresAt := by
  unfold negativeWritten at written
  split at written
  · rename_i o now duration ans
    split at written
    · rename_i same
      exact ⟨now, duration, ans, by rw [same], written⟩
    · cases written
  · cases written

/-- Only a check evicts a negative entry. -/
theorem negativeAct_evict {origin : Origin} {label : Label sig} {stale : Instant → Bool}
    (evicts : negativeAct origin label = .evict stale) :
    ∃ now hit, label = .call (.negativeCacheHit origin now) hit ∧
      stale = fun expiresAt => !decide (now.nanos < expiresAt.nanos) := by
  unfold negativeAct at evicts
  split at evicts
  · repeat' split at evicts
    all_goals cases evicts
  · rename_i o now hit
    split at evicts
    · rename_i same
      cases evicts
      exact ⟨now, hit, by rw [same], rfl⟩
    · cases evicts
  · cases evicts

theorem negativeAct_spares_iff {origin : Origin} {label : Label sig} {expiresAt : Instant} :
    (negativeAct origin label).Spares expiresAt ↔ negativeWritten origin label = none ∧
      ∀ now hit, label = .call (.negativeCacheHit origin now) hit →
        now.nanos < expiresAt.nanos := by
  cases label with
  | call op ans =>
    cases op with
    | negativeInsert o now duration =>
      by_cases same : o = origin
      · simp only [negativeAct, negativeWritten, if_pos same]
        cases now.checkedAdd duration <;> simp [SlotAct.Spares]
      · simp [negativeAct, negativeWritten, same, SlotAct.Spares]
    | negativeCacheHit o now =>
      by_cases same : o = origin
      · subst same
        simp [negativeAct, negativeWritten, SlotAct.Spares]
      · simp [negativeAct, negativeWritten, same, SlotAct.Spares]
    | _ => simp [negativeAct, negativeWritten, SlotAct.Spares]
  | _ => simp [negativeAct, negativeWritten, SlotAct.Spares]

theorem altSvcAct_store_iff {origin : Origin} {label : Label sig} {entry : AltSvc.AltSvcEntry} :
    altSvcAct origin label = .store entry ↔ altSvcWritten origin label = some (some entry) := by
  cases label with
  | call op ans =>
    cases op with
    | altSvcUpdate o update =>
      by_cases same : o = origin
      · cases update <;> simp [altSvcAct, altSvcWritten, same]
      · cases update <;> simp [altSvcAct, altSvcWritten, same]
    | altSvcRemove o => by_cases same : o = origin <;> simp [altSvcAct, altSvcWritten, same]
    | altSvcEntry o now => by_cases same : o = origin <;> simp [altSvcAct, altSvcWritten, same]
    | _ => simp [altSvcAct, altSvcWritten]
  | _ => simp [altSvcAct, altSvcWritten]

theorem altSvcAct_spares_iff {origin : Origin} {label : Label sig} {entry : AltSvc.AltSvcEntry} :
    (altSvcAct origin label).Spares entry ↔ altSvcWritten origin label = none ∧
      ∀ now found, label = .call (.altSvcEntry origin now) found →
        now.nanos < entry.expiresAt.nanos := by
  cases label with
  | call op ans =>
    cases op with
    | altSvcUpdate o update =>
      by_cases same : o = origin
      · cases update <;> simp [altSvcAct, altSvcWritten, same, SlotAct.Spares]
      · cases update <;> simp [altSvcAct, altSvcWritten, same, SlotAct.Spares]
    | altSvcRemove o =>
      by_cases same : o = origin <;> simp [altSvcAct, altSvcWritten, same, SlotAct.Spares]
    | altSvcEntry o now =>
      by_cases same : o = origin
      · subst same
        simp [altSvcAct, altSvcWritten, SlotAct.Spares, AltSvc.fresh]
      · simp [altSvcAct, altSvcWritten, same, SlotAct.Spares]
    | _ => simp [altSvcAct, altSvcWritten, SlotAct.Spares]
  | _ => simp [altSvcAct, altSvcWritten, SlotAct.Spares]

/-- Only an update with an alternative writes an entry. -/
theorem altSvcWritten_entry {origin : Origin} {label : Label sig} {entry : AltSvc.AltSvcEntry}
    (written : altSvcWritten origin label = some (some entry)) :
    ∃ ans, label = .call (.altSvcUpdate origin (.entry entry)) ans := by
  unfold altSvcWritten at written
  split at written
  · rename_i o stored ans
    by_cases same : o = origin
    · simp only [if_pos same, Option.some.injEq] at written
      exact ⟨ans, by rw [same, written]⟩
    · simp [same] at written
  · split at written <;> cases written
  · split at written <;> cases written
  · cases written

theorem negativeAfter_iff (origin : Origin) (history : List (Entry sig)) (expiresAt : Instant) :
    negativeAfter origin history = some expiresAt ↔ NegativeHeld origin history expiresAt := by
  rw [negativeAfter, Slot.after_eq_some_iff]
  constructor
  · rintro ⟨before, e, later, split, stored, spared⟩
    have spares := fun e' mem => negativeAct_spares_iff.mp (spared e' mem)
    exact ⟨later, ⟨before, e, split, negativeAct_store_iff.mp stored,
      fun e' mem => (spares e' mem).1⟩, fun e' mem => (spares e' mem).2⟩
  · rintro ⟨later, ⟨before, e, split, stored, last⟩, unpurged⟩
    exact ⟨before, e, later, split, negativeAct_store_iff.mpr stored,
      fun e' mem => negativeAct_spares_iff.mpr ⟨last e' mem, unpurged e' mem⟩⟩

theorem altSvcAfter_iff (origin : Origin) (history : List (Entry sig))
    (entry : AltSvc.AltSvcEntry) :
    altSvcAfter origin history = some entry ↔ AltSvcHeld origin history entry := by
  rw [altSvcAfter, Slot.after_eq_some_iff]
  constructor
  · rintro ⟨before, e, later, split, stored, spared⟩
    have spares := fun e' mem => altSvcAct_spares_iff.mp (spared e' mem)
    exact ⟨later, ⟨before, e, split, altSvcAct_store_iff.mp stored,
      fun e' mem => (spares e' mem).1⟩, fun e' mem => (spares e' mem).2⟩
  · rintro ⟨later, ⟨before, e, split, stored, last⟩, unpurged⟩
    exact ⟨before, e, later, split, altSvcAct_store_iff.mpr stored,
      fun e' mem => altSvcAct_spares_iff.mpr ⟨last e' mem, unpurged e' mem⟩⟩

section Run

variable {client : Client} {pace : Pace} {clock : Nat} {w : World (sends client)}
  {before later : List (Entry sig)} {e : Entry sig} {origin : Origin} {now : Instant}

/-- `negative_cache_hit` answers from the history before it. -/
theorem negativeCacheHit_iff (reached : Reachable pace (.start clock SharedState.new) w)
    (sound : w.shared.negative.poisoned = false) (split : w.log = before ++ e :: later)
    {hit : Bool} (check : e.label = .call (.negativeCacheHit origin now) hit) :
    hit = true ↔ ∃ expiresAt, NegativeHeld origin before expiresAt ∧
      now.nanos < expiresAt.nanos := by
  obtain ⟨middle, shared', reachedMiddle, effect, rest⟩ := reached.answered split
  have soundAfter := negative_sound_before later rest sound
  have soundMiddle := (effect_negative effect soundAfter).1
  have content := negative_eq_after before reachedMiddle soundMiddle origin
  rw [check] at effect
  have responded : respond (.negativeCacheHit origin now) e.time middle hit = some shared' := effect
  simp only [respond] at responded
  have answer := (answered_eq_some responded).1
  simp only [SharedState.negativeCacheHit, lookupFresh_answer soundMiddle, content] at answer
  simp only [← answer, ← negativeAfter_iff]
  cases negativeAfter origin before with
  | none => simp
  | some expiresAt => simp [Option.filter]

/-- `alt_svc_entry` answers from the history before it. -/
theorem altSvcEntry_iff (reached : Reachable pace (.start clock SharedState.new) w)
    (split : w.log = before ++ e :: later) {found : Option AltSvc.AltSvcEntry}
    (lookup : e.label = .call (.altSvcEntry origin now) found) (entry : AltSvc.AltSvcEntry) :
    found = some entry ↔ AltSvcHeld origin before entry ∧
      now.nanos < entry.expiresAt.nanos := by
  obtain ⟨middle, shared', reachedMiddle, effect, -⟩ := reached.answered split
  have content := altSvc_eq_after before reachedMiddle
  rw [lookup] at effect
  have responded : respond (.altSvcEntry origin now) e.time middle found = some shared' := effect
  simp only [respond] at responded
  have answer := (answered_eq_some responded).1
  simp only [SharedState.altSvcEntry, lookupFresh_answer content.1, content.2] at answer
  rw [← answer, Option.filter_eq_some_iff, altSvcAfter_iff]
  simp [AltSvc.fresh]

/-- A send is given the key of its own origin. -/
theorem cacheKey_own {shared : SharedState} (reached : Reachable pace (.start clock shared) w)
    {i : Nat} {task : Task (sends client)} (found : w.tasks[i]? = some task)
    (own : e ∈ w.logOf i) (key : cacheKey e.label = some origin) :
    originOf task.job.val = some origin := by
  have listed := run_footprint reached found e own
  have tried : ∀ {o}, (∃ body, TriesHttp3 task.job.val o body) → some o = some origin →
      originOf task.job.val = some origin := by
    rintro o ⟨body, tries⟩ same
    exact tries.origin.trans same
  cases e with
  | mk j time label =>
    cases label with
    | call op ans =>
      cases op with
      | negativeCacheHit o now => exact tried (listed.2.resolve_right id) key
      | negativeInsert o now duration => exact tried (listed.2.resolve_right id).1 key
      | altSvcEntry o now => exact tried (listed.2.resolve_right id) key
      | altSvcRemove o => exact tried (listed.2.resolve_right id) key
      | altSvcUpdate o update =>
        have learned : originOf task.job.val = some o := listed.2.resolve_left id
        exact learned.trans key
      | httpsRrCached o now => exact tried (listed.2.resolve_right id) key
      | httpsRrInsert o entry => exact tried (listed.2.resolve_right id) key
      | _ => cases key
    | _ => cases key

/-- `Instant::now` reads the clock. -/
theorem instantNow_reads {shared : SharedState} (reached : Reachable pace (.start clock shared) w)
    (logged : e ∈ w.log) {now : Instant} (read : e.label = .call .instantNow now) :
    now.nanos = e.time := by
  obtain ⟨before, later, split⟩ := List.append_of_mem logged
  obtain ⟨middle, shared', -, effect, -⟩ := reached.answered split
  rw [read] at effect
  have responded : respond .instantNow e.time middle now = some shared' := effect
  simp only [respond] at responded
  split at responded
  · assumption
  · cases responded

end Run

end MechanicsHttpClient.Guarantees
