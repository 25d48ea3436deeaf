import MechanicsHttpClient.Guarantees.HttpsRrHistory
import MechanicsHttpClient.Guarantees.RouteHistory

/-!
# The key of an origin's state

src/request.rs:253-263 and src/client.rs:68-74. The caches of a client are keyed
by `Origin`, with derived equality on the host as it was written. Two spellings
of one origin that differ in the letter case of the host are two keys, and what
is learnt through one is not known through the other.
-/

namespace MechanicsHttpClient.Guarantees

open MechanicsHttpClient.Runtime
open MechanicsHttpClient.Source
open MechanicsHttpClient.Source.HttpsRr

/-- An https URI, all of which `RequestBuilder::new` accepts: a URI with a scheme
has an authority. -/
structure HttpsUri (uri : Uri) : Prop where
  scheme : uri.schemeStr = some "https".toList
  authority : ∃ host, uri.host = some host

/-- Hosts up to the letter case, and ports with 443 for an absent one. -/
def SameOrigin (u v : Uri) : Prop :=
  (∃ host host', u.host = some host ∧ v.host = some host' ∧
    host.eqIgnoreAsciiCase host' = true) ∧
  u.portU16.getD 443 = v.portU16.getD 443

theorem HttpsUri.key {uri : Uri} (https : HttpsUri uri) :
    ∃ key, Origin.fromUri uri = some key ∧ uri.host = some key.host ∧
      uri.portU16.getD 443 = key.port := by
  obtain ⟨host, written⟩ := https.authority
  exact ⟨⟨host, uri.portU16.getD 443⟩, by simp [Origin.fromUri, https.scheme, written],
    written, rfl⟩

section Keys

variable {u v : Uri} {key key' : Origin}

theorem sameOrigin_of_key (https : HttpsUri u) (same : Origin.fromUri u = Origin.fromUri v)
    (https' : HttpsUri v) : SameOrigin u v := by
  obtain ⟨key, ofU, hostU, portU⟩ := https.key
  obtain ⟨key', ofV, hostV, portV⟩ := https'.key
  have equal : key = key' := Option.some.inj (ofU.symm.trans (same.trans ofV))
  subst equal
  exact ⟨⟨key.host, key.host, hostU, hostV, by simp [Str.eqIgnoreAsciiCase]⟩,
    portU.trans portV.symm⟩

theorem key_of_sameOrigin (https : HttpsUri u) (https' : HttpsUri v) (same : SameOrigin u v)
    (spelled : u.host = v.host) : Origin.fromUri u = Origin.fromUri v := by
  obtain ⟨host, written⟩ := https.authority
  have written' : v.host = some host := spelled.symm.trans written
  simp [Origin.fromUri, https.scheme, https'.scheme, written, written', same.2]

/-- The keys agree on which URLs are of one origin exactly where such URLs spell
the host alike. -/
theorem fromUri_eq_iff (https : HttpsUri u) (https' : HttpsUri v) :
    (Origin.fromUri u = Origin.fromUri v ↔ SameOrigin u v) ↔
      (SameOrigin u v → u.host = v.host) := by
  constructor
  · intro identifies same
    have equal := identifies.mpr same
    obtain ⟨key, ofU, hostU, -⟩ := https.key
    obtain ⟨key', ofV, hostV, -⟩ := https'.key
    rw [ofU, ofV, Option.some.injEq] at equal
    rw [hostU, hostV, equal]
  · intro spelled
    constructor
    · exact fun equal => sameOrigin_of_key https equal https'
    · exact fun same => key_of_sameOrigin https https' same (spelled same)

end Keys

/-- What an instruction does to the three entries of a key. -/
def actsOn (key : Origin) (label : Label sig) :
    SlotAct Instant × SlotAct AltSvc.AltSvcEntry × SlotAct HttpsRrEntry :=
  (negativeAct key label, altSvcAct key label, httpsRrAct key label)

def untouched : SlotAct Instant × SlotAct AltSvc.AltSvcEntry × SlotAct HttpsRrEntry :=
  (.keep, .keep, .keep)

theorem actsOn_other {key : Origin} {label : Label sig} (other : cacheKey label ≠ some key) :
    actsOn key label = untouched := by
  have both := cacheKey_other other
  have third : httpsRrAct key label = .keep := by
    unfold httpsRrAct
    split
    · rename_i o entry _
      have differ : o ≠ key := fun same => other (by simp [cacheKey, same])
      rw [if_neg differ]
    · rename_i o now _
      have differ : o ≠ key := fun same => other (by simp [cacheKey, same])
      rw [if_neg differ]
    · rfl
  rw [actsOn, both.1, both.2, third, untouched]

/-- What a send through `u` does to the state of its origin, it does to the state
that a send through `v` finds if the two have one origin, and not otherwise. -/
def GovernsAlike (u v : Uri) (label : Label sig) : Prop :=
  ∀ key key', Origin.fromUri u = some key → Origin.fromUri v = some key' →
    (SameOrigin u v → actsOn key' label = actsOn key label) ∧
    (¬ SameOrigin u v → actsOn key' label = untouched)

/-- Every lookup of the task asks for this key, and its answer is read off what
was done to the key before. -/
def LooksUp {client : Client} (w : World (sends client)) (i : Nat) (key : Origin) : Prop :=
  ∀ before e later, w.log = before ++ e :: later → e.task = i →
    (∀ origin now found, e.label = .call (.altSvcEntry origin now) found → origin = key ∧
      ∀ entry, found = some entry ↔
        altSvcAfter key before = some entry ∧ now.nanos < entry.expiresAt.nanos) ∧
    (∀ origin now found, e.label = .call (.httpsRrCached origin now) found → origin = key ∧
      ∀ entry, found = some entry ↔ httpsRrAfter key before = some entry ∧ fresh entry now = true) ∧
    ∀ origin now hit, e.label = .call (.negativeCacheHit origin now) hit → origin = key ∧
      (w.shared.negative.poisoned = false → (hit = true ↔
        ∃ expiresAt, negativeAfter key before = some expiresAt ∧ now.nanos < expiresAt.nanos))

section Run

variable {client : Client} {pace : Pace} {clock : Nat} {w : World (sends client)} {i : Nat}
  {task : Task (sends client)}

theorem looksUp_own (reached : Reachable pace (.start clock SharedState.new) w)
    (found : w.tasks[i]? = some task) {key : Origin} (https : originOf task.job.val = some key) :
    LooksUp w i key := by
  intro before e later split mine
  have own : e ∈ w.logOf i := by
    rw [World.logOf_split split mine]
    simp
  have asks : ∀ origin, cacheKey e.label = some origin → origin = key := by
    intro origin asked
    exact Option.some.inj ((cacheKey_own reached found own asked).symm.trans https)
  refine ⟨?_, ?_, ?_⟩
  · intro origin now answer lookup
    have same : origin = key := asks origin (by rw [lookup]; rfl)
    subst same
    refine ⟨rfl, fun entry => ?_⟩
    rw [altSvcAfter_iff]
    exact altSvcEntry_iff reached split lookup entry
  · intro origin now answer lookup
    have same : origin = key := asks origin (by rw [lookup]; rfl)
    subst same
    exact ⟨rfl, fun entry => httpsRrCached_iff reached split lookup entry⟩
  · intro origin now hit check
    have same : origin = key := asks origin (by rw [check]; rfl)
    subst same
    refine ⟨rfl, fun sound => ?_⟩
    simp only [negativeAfter_iff]
    exact negativeCacheHit_iff reached sound split check

/-- An instruction that touches the state of its origin. -/
theorem governsAlike_iff (reached : Reachable pace (.start clock SharedState.new) w)
    (found : w.tasks[i]? = some task) {u v : Uri} (https : HttpsUri u) (https' : HttpsUri v)
    (parsed : task.job.val.uri = .ok u) {key : Origin} (ofU : Origin.fromUri u = some key)
    {e : Entry sig} (own : e ∈ w.logOf i) (touches : actsOn key e.label ≠ untouched) :
    GovernsAlike u v e.label ↔ (SameOrigin u v → u.host = v.host) := by
  have mine : originOf task.job.val = some key := by simp [originOf, parsed, ofU]
  have elsewhere : ∀ other, other ≠ key → actsOn other e.label = untouched := by
    intro other differs
    apply actsOn_other
    intro asked
    have same := (cacheKey_own reached found own asked).symm.trans mine
    exact differs (Option.some.inj same)
  rw [← fromUri_eq_iff https https']
  constructor
  · intro governs
    refine ⟨fun equal => sameOrigin_of_key https equal https', fun same => ?_⟩
    obtain ⟨key', ofV, -⟩ := https'.key
    by_contra differs
    have other : key' ≠ key := by
      intro equal
      exact differs (by rw [ofU, ofV, equal])
    have alike := (governs key key' ofU ofV).1 same
    exact touches (alike.symm.trans (elsewhere key' other))
  · intro identifies first second ofU' ofV
    have sameKey : first = key := Option.some.inj (ofU'.symm.trans ofU)
    subst sameKey
    constructor
    · intro same
      have equal := identifies.mpr same
      rw [ofU, ofV, Option.some.injEq] at equal
      rw [equal]
    · intro different
      refine elsewhere second fun equal => different (identifies.mp ?_)
      rw [ofU, ofV, equal]

end Run

/-- For any two https URLs: the keys of the caches tell whether they have one
origin, and what a send through the first does to the state of its origin governs
the lookups of the sends through the second alike, if and only if they spell the
host alike when they have one origin. -/
theorem cache_keys_identify_origins_iff {u v : Uri} (https : HttpsUri u) (https' : HttpsUri v) :
    ((Origin.fromUri u = Origin.fromUri v ↔ SameOrigin u v) ↔
      (SameOrigin u v → u.host = v.host)) ∧
    ∀ (client : Client) (pace : Pace) (clock : Nat) (w : World (sends client)),
      Reachable pace (.start clock SharedState.new) w →
      ∃ key key', Origin.fromUri u = some key ∧ Origin.fromUri v = some key' ∧
        (∀ i task, w.tasks[i]? = some task → task.job.val.uri = .ok u →
          ∀ e ∈ w.logOf i, actsOn key e.label ≠ untouched →
            (GovernsAlike u v e.label ↔ (SameOrigin u v → u.host = v.host))) ∧
        ∀ j task', w.tasks[j]? = some task' → task'.job.val.uri = .ok v → LooksUp w j key' := by
  refine ⟨fromUri_eq_iff https https', ?_⟩
  intro client pace clock w reached
  obtain ⟨key, ofU, -⟩ := https.key
  obtain ⟨key', ofV, -⟩ := https'.key
  refine ⟨key, key', ofU, ofV, ?_, ?_⟩
  · intro i task found parsed e own touches
    exact governsAlike_iff reached found https https' parsed ofU own touches
  · intro j task' found parsed
    have mine : originOf task'.job.val = some key' := by simp [originOf, parsed, ofV]
    exact looksUp_own reached found mine

namespace Example

def portedUri : Uri := { uri with portU16 := some 443 }

def shoutedUri : Uri := { uri with host := some "O.EXAMPLE".toList }

def shoutedOrigin : Origin := ⟨"O.EXAMPLE".toList, 443⟩

/-- An upload, which goes over TCP at once. -/
def uploader : RequestBuilder :=
  { RequestBuilder.new client .post "https://O.EXAMPLE/".toList (.ok shoutedUri) with
    body := .streaming (.streaming 0) }

def upload : Request RequestBody := ⟨.post, shoutedUri, HeaderMap.empty, .streaming 0⟩

/-- The upload is answered with an alternative. -/
def uploads : List (Label sig) :=
  [.issue (.hyperRequest upload),
    .done (.hyperRequest upload) (.ok (⟨200, advertising ownPort⟩, 0)), .call .instantNow start]

def learnsShouted : Label sig :=
  .call (.altSvcUpdate shoutedOrigin (.entry (entryOn none))) ()

def uploading : Event (sends client) := .spawn ⟨uploader, rfl⟩

/-- The default port may be written. -/
def ported : RequestBuilder :=
  RequestBuilder.new client .get "https://o.example:443/".toList (.ok portedUri)

def asking : Event (sends client) := .spawn ⟨ported, rfl⟩

def learnThenAsk : List (Event (sends client)) :=
  spawned client :: performs 0 (learns ownPort (entryOn none)) ++
    asking :: performs 1 (consults start (some (entryOn none)))

def uploadThenAsk : List (Event (sends client)) :=
  uploading :: performs 0 (uploads ++ [learnsShouted]) ++
    spawned client :: performs 1 (consults start none)

end Example

/-- The default port may be left out: what is learnt without it is found with it. -/
theorem cache_keys_identify_origins_iff_ported :
    Origin.fromUri Example.uri = Origin.fromUri Example.portedUri ∧
    ∃ (w : World (sends Example.client)) (learnt asked : Entry sig),
      learnt ∈ w.logOf 0 ∧ asked ∈ w.logOf 1 ∧
      GovernsAlike Example.uri Example.portedUri learnt.label ∧ LooksUp w 1 Example.origin ∧
      actsOn Example.origin learnt.label ≠ untouched ∧
      asked.label =
        .call (.altSvcEntry Example.origin Example.start) (some (Example.entryOn none)) := by
  obtain ⟨keys, runs⟩ := cache_keys_identify_origins_iff (u := Example.uri)
    (v := Example.portedUri) ⟨rfl, _, rfl⟩ ⟨rfl, _, rfl⟩
  refine ⟨(keys.mpr fun _ => rfl).mpr ⟨⟨_, _, rfl, rfl, by decide⟩, rfl⟩, ?_⟩
  have ran : ((World.start 0 SharedState.new).run .strict Example.learnThenAsk).map (fun w =>
        (w.tasks[0]?.map fun task => task.job.val.uri,
          w.tasks[1]?.map fun task => task.job.val.uri, w.log)) =
      some (some (.ok Example.uri), some (.ok Example.portedUri),
        Example.logged 0 0 (Example.learns Example.ownPort (Example.entryOn none)) ++
        Example.logged 1 0 (Example.consults Example.start (some (Example.entryOn none)))) := rfl
  obtain ⟨w, reached, seen⟩ := Option.map_eq_some_iff.mp ran
  simp only [Prod.mk.injEq] at seen
  obtain ⟨first, second, log⟩ := seen
  obtain ⟨task, found, parsed⟩ := Option.map_eq_some_iff.mp first
  obtain ⟨task', found', parsed'⟩ := Option.map_eq_some_iff.mp second
  obtain ⟨key, key', ofU, ofV, governs, looksUp⟩ :=
    runs Example.client .strict 0 w (.of_run _ .refl reached)
  cases ofU
  cases ofV
  have learnt : ⟨0, 0, .call (.altSvcUpdate Example.origin (.entry (Example.entryOn none))) ()⟩ ∈
      w.logOf 0 := by
    rw [World.logOf, log]
    simp [Example.logged, Example.learns, Example.overTcp]
  have asked : ⟨1, 0, .call (.altSvcEntry Example.origin Example.start)
      (some (Example.entryOn none))⟩ ∈ w.logOf 1 := by
    rw [World.logOf, log]
    simp [Example.logged, Example.consults]
  have stores : actsOn Example.origin
      (.call (.altSvcUpdate Example.origin (.entry (Example.entryOn none))) ()) ≠ untouched := by
    simp [actsOn, untouched, altSvcAct]
  exact ⟨w, _, _, learnt, asked, (governs 0 task found parsed _ learnt stores).mpr fun _ => rfl,
    looksUp 1 task' found' parsed', stores, rfl⟩

/-- An alternative that was learnt for `https://O.EXAMPLE/` is not found by the
next send to `https://o.example/`. -/
theorem cache_keys_split_origin :
    HttpsUri Example.shoutedUri ∧ HttpsUri Example.uri ∧
    SameOrigin Example.shoutedUri Example.uri ∧
    Origin.fromUri Example.shoutedUri ≠ Origin.fromUri Example.uri ∧
    ∃ (w : World (sends Example.client)) (task task' : Task (sends Example.client))
      (before between : List (Entry sig)) (learnt asked : Entry sig),
      Reachable .strict (.start 0 SharedState.new) w ∧
      w.tasks[0]? = some task ∧ task.job.val.uri = .ok Example.shoutedUri ∧
      w.tasks[1]? = some task' ∧ task'.job.val.uri = .ok Example.uri ∧
      w.log = before ++ learnt :: between ++ [asked] ∧ learnt.task = 0 ∧ asked.task = 1 ∧
      learnt.label =
        .call (.altSvcUpdate Example.shoutedOrigin (.entry (Example.entryOn none))) () ∧
      asked.label = .call (.altSvcEntry Example.origin Example.start) none ∧
      Example.start.nanos < (Example.entryOn none).expiresAt.nanos := by
  refine ⟨⟨rfl, _, rfl⟩, ⟨rfl, _, rfl⟩, ⟨⟨_, _, rfl, rfl, by decide⟩, rfl⟩, by decide, ?_⟩
  have ran : ((World.start 0 SharedState.new).run .strict Example.uploadThenAsk).map (fun w =>
        (w.tasks[0]?.map fun task => task.job.val.uri,
          w.tasks[1]?.map fun task => task.job.val.uri, w.log)) =
      some (some (.ok Example.shoutedUri), some (.ok Example.uri),
        Example.logged 0 0 Example.uploads ++ ⟨0, 0, Example.learnsShouted⟩ ::
        Example.logged 1 0 ((Example.consults Example.start none).take 3) ++
        [⟨1, 0, .call (.altSvcEntry Example.origin Example.start) none⟩]) := rfl
  obtain ⟨w, reached, seen⟩ := Option.map_eq_some_iff.mp ran
  simp only [Prod.mk.injEq] at seen
  obtain ⟨first, second, log⟩ := seen
  obtain ⟨task, found, parsed⟩ := Option.map_eq_some_iff.mp first
  obtain ⟨task', found', parsed'⟩ := Option.map_eq_some_iff.mp second
  exact ⟨w, task, task', _, _, _, _, Reachable.of_run _ .refl reached, found, parsed, found',
    parsed', log, rfl, rfl, rfl, rfl, by decide⟩

end MechanicsHttpClient.Guarantees
