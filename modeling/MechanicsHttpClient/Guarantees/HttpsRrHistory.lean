import MechanicsHttpClient.Guarantees.CacheHistory

/-!
# The HTTPS RR cache as a function of the history

src/request.rs:431-463. The third slot of an origin: the first critical section of
`https_rr_entry` answers from it and purges what has expired, the second one
stores. `httpsRrCached_iff` reads an answer off the slot at that point of the run.
-/

namespace MechanicsHttpClient.Guarantees

open MechanicsHttpClient.Runtime
open MechanicsHttpClient.Source
open MechanicsHttpClient.Source.HttpsRr

/-- The HTTPS RR entry of `origin` under one instruction. -/
def httpsRrAct (origin : Origin) : Label sig → SlotAct HttpsRrEntry
  | .call (.httpsRrInsert o entry) _ => if o = origin then .store entry else .keep
  | .call (.httpsRrCached o now) _ =>
    if o = origin then .evict fun entry => !fresh entry now else .keep
  | _ => .keep

theorem httpsRrAct_store {origin : Origin} {label : Label sig} {entry : HttpsRrEntry}
    (stores : httpsRrAct origin label = .store entry) :
    label = .call (.httpsRrInsert origin entry) () := by
  unfold httpsRrAct at stores
  split at stores
  · split at stores
    · rename_i same
      cases stores
      rw [same]
    · cases stores
  · split at stores <;> cases stores
  · cases stores

/-- What one instruction does to the HTTPS RR cache, whose lock nothing poisons. -/
theorem effect_httpsRr {client : Client} {clock : Nat} {shared shared' : SharedState}
    {label : Label sig} (effect : (sends client).effect clock shared label = some shared')
    (sound : shared.httpsRr.poisoned = false) :
    Applied (fun origin => httpsRrAct origin label) shared.httpsRr shared'.httpsRr := by
  cases label with
  | call op ans =>
    have responded : respond op clock shared ans = some shared' := effect
    cases op with
    | httpsRrCached o now =>
      simp only [respond] at responded
      rw [← (answered_eq_some responded).2]
      exact .lookupFresh sound o _
    | httpsRrInsert o entry =>
      simp only [respond] at responded
      rw [← (answered_eq_some responded).2]
      unfold SharedState.httpsRrInsert
      rw [if_neg (by simp [sound])]
      exact .insert o entry
    | _ =>
      have same := (respond_others responded).httpsRr (by simp [cacheOf])
      exact .unchanged sound same fun _ => rfl
  | _ =>
    cases effect
    exact .unchanged sound rfl fun _ => rfl

/-- The HTTPS RR entry of an origin after a history. -/
def httpsRrAfter (origin : Origin) (history : List (Entry sig)) : Option HttpsRrEntry :=
  Slot.after (fun e => httpsRrAct origin e.label) history

theorem httpsRr_eq_after {client : Client} (history : List (Entry sig)) :
    ∀ {shared : SharedState}, replay (sends client) SharedState.new history = some shared →
      shared.httpsRr.poisoned = false ∧
      ∀ origin, shared.httpsRr.value origin = httpsRrAfter origin history :=
  cache_eq_after SharedState.httpsRr httpsRrAct rfl effect_httpsRr history

/-- The first section of `https_rr_entry` answers from the history before it. -/
theorem httpsRrCached_iff {client : Client} {pace : Pace} {clock : Nat} {w : World (sends client)}
    {before later : List (Entry sig)} {e : Entry sig} {origin : Origin} {now : Instant}
    (reached : Reachable pace (.start clock SharedState.new) w)
    (split : w.log = before ++ e :: later) {found : Option HttpsRrEntry}
    (lookup : e.label = .call (.httpsRrCached origin now) found) (entry : HttpsRrEntry) :
    found = some entry ↔ httpsRrAfter origin before = some entry ∧ fresh entry now = true := by
  obtain ⟨middle, shared', reachedMiddle, effect, -⟩ := reached.answered split
  have content := httpsRr_eq_after before reachedMiddle
  rw [lookup] at effect
  have responded : respond (.httpsRrCached origin now) e.time middle found = some shared' := effect
  simp only [respond] at responded
  have answer := (answered_eq_some responded).1
  simp only [SharedState.httpsRrCached, lookupFresh_answer content.1, content.2] at answer
  rw [← answer, Option.filter_eq_some_iff]

end MechanicsHttpClient.Guarantees
