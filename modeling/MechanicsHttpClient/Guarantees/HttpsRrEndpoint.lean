import MechanicsHttpClient.Guarantees.HttpsRrHistory
import MechanicsHttpClient.Guarantees.HttpsRrSelection
import MechanicsHttpClient.Guarantees.Phases

/-!
# The endpoint that the HTTPS RR route dials

src/request.rs:308-335, src/https_rr.rs:50-57 and src/http3.rs:92-103, 236-257.
An HTTPS record advertises a port and addresses: its hints, or else those of its
target name. The entry made of a record keeps the port and the hints but drops
the name, so without hints the origin's own host is resolved in its place.
-/

namespace MechanicsHttpClient.Guarantees

open MechanicsHttpClient.Runtime
open MechanicsHttpClient.Source
open MechanicsHttpClient.Source.HttpsRr

/-- A DNS name without the final dot and with its letters in lower case. -/
def dnsName (name : Str) : Str := ((Str.stripSuffix '.' name).getD name).map toAsciiLowercase

def SameName (first second : Str) : Prop := dnsName first = dnsName second

instance (first second : Str) : Decidable (SameName first second) :=
  inferInstanceAs (Decidable (dnsName first = dnsName second))

/-- The target name; a dot stands for the name the record was found under. -/
def servedName (origin : Origin) (record : HttpsRecord) : Str :=
  if record.targetName = ".".toList then origin.host else record.targetName

/-- An answer of `lookup_socket_addrs`, with the question. -/
structure Resolved where
  host : Str
  port : UInt16
  addrs : List SocketAddr

/-- The address is the one the record advertises: the first hint, or one that the
resolver has given for the name the record serves. -/
def DialsAdvertised (origin : Origin) (record : HttpsRecord) (resolved : Option Resolved)
    (addr : SocketAddr) : Prop :=
  addr.port = record.port.getD origin.port ∧
    match record.addressHints with
    | hint :: _ => addr.ip = hint
    | [] => ∃ answer, resolved = some answer ∧ SameName answer.host (servedName origin record) ∧
        addr ∈ answer.addrs

/-- What `https_rr_entry` found in the cache. -/
def lookedUp : Label sig → Option (Option HttpsRrEntry)
  | .call (.httpsRrCached _ _) found => some found
  | _ => none

/-- The records of a host that the resolver answered. -/
def httpsAnswer : Label sig → Option (Str × List HttpsRecord)
  | .done (.lookupHttps host) (.ok records) => some (host, records)
  | _ => none

def resolvedOf : Label sig → Option Resolved
  | .done (.lookupSocketAddrs host port) (.ok addrs) => some ⟨host, port, addrs⟩
  | _ => none

/-- The last answers a send has had from the cache and from the resolver. -/
structure Dialling where
  looked : Option (Option HttpsRrEntry)
  answer : Option (Str × List HttpsRecord)
  resolved : Option Resolved

namespace Dialling

def start : Dialling := ⟨none, none, none⟩

def next (dialling : Dialling) (label : Label sig) : Dialling where
  looked := (lookedUp label).or dialling.looked
  answer := (httpsAnswer label).or dialling.answer
  resolved := (resolvedOf label).or dialling.resolved

/-- The entry of the route: from the cache, or else made of the answer. -/
def entry (dialling : Dialling) (origin : Origin) : Option HttpsRrEntry :=
  dialling.looked.bind fun found =>
    found.or (dialling.answer.bind fun answer => selectRecord origin.port none answer.2)

/-- On the route, with this entry. -/
structure Using (dialling : Dialling) (origin : Origin) (entry : HttpsRrEntry) : Prop where
  looked : dialling.looked.isSome = true
  entry : dialling.entry origin = some entry

/-- The address is the entry's first hint, or the first the resolver has given
for the origin's host. -/
structure Dials (dialling : Dialling) (origin : Origin) (entry : HttpsRrEntry)
    (addr : SocketAddr) : Prop where
  hinted : ∀ hint hints, entry.addresses = hint :: hints → addr = ⟨hint, entry.port⟩
  unhinted : entry.addresses = [] →
    ∃ rest, dialling.resolved = some ⟨origin.host, entry.port, addr :: rest⟩

end Dialling

/-- Objects to an entry stored that is not the one in use, and on the route to a
connection elsewhere than to this entry. -/
def diallingMonitor (origin : Origin) : Monitor sig Dialling where
  next dialling _ label := dialling.next label
  assume _ _ _ := True
  check dialling _ label :=
    match label with
    | .call (.httpsRrInsert _ entry) _ => dialling.looked = some none ∧ dialling.Using origin entry
    | .call (.connect addr serverName) _ => dialling.looked.isSome = true →
        ∃ entry, dialling.Using origin entry ∧ entry.hasH3 = true ∧ serverName = origin.host ∧
          dialling.Dials origin entry addr
    | _ => True
  rest _ _ := True

/-- Operations that leave the entry in use alone. -/
def besideEntry : Alphabet sig where
  op
    | .httpsRrCached _ _ | .httpsRrInsert _ _ | .lookupHttps _ | .connect _ _ => False
    | _ => True
  timer _ := True
  unwinds := True

theorem besideEntry_keeps (origin : Origin) (entry : HttpsRrEntry) :
    (diallingMonitor origin).Keeps besideEntry fun dialling => dialling.Using origin entry := by
  intro dialling t label has used
  have passes : (diallingMonitor origin).check dialling t label := by
    cases label with
    | call op ans =>
      cases op with
      | httpsRrInsert o stored => exact has.elim
      | connect addr serverName => exact has.elim
      | _ => exact True.intro
    | _ => exact True.intro
  have looks : lookedUp label = none := by
    unfold lookedUp
    split
    · exact has.elim
    · rfl
  have answers : httpsAnswer label = none := by
    unfold httpsAnswer
    split
    · exact has.elim
    · rfl
  have looked : (dialling.next label).looked = dialling.looked := by simp [Dialling.next, looks]
  have answer : (dialling.next label).answer = dialling.answer := by simp [Dialling.next, answers]
  refine ⟨passes, ?_, ?_⟩
  · exact looked ▸ used.looked
  · have same : (dialling.next label).entry origin = dialling.entry origin := by
      simp only [Dialling.entry, looked, answer]
    exact same.trans used.entry

/-- Before the route, the cache has not been asked. -/
def beforeHttpsRr : Alphabet sig where
  op
    | .httpsRrCached _ _ | .httpsRrInsert _ _ => False
    | _ => True
  timer _ := True
  unwinds := True

theorem beforeHttpsRr_keeps (origin : Origin) :
    (diallingMonitor origin).Keeps beforeHttpsRr fun dialling => dialling.looked = none := by
  intro dialling t label has notYet
  have looks : lookedUp label = none := by
    unfold lookedUp
    split
    · exact has.elim
    · rfl
  refine ⟨?_, by simp [diallingMonitor, Dialling.next, looks, notYet]⟩
  cases label with
  | call op ans =>
    cases op with
    | httpsRrInsert o stored => exact has.elim
    | connect addr serverName =>
      intro looked
      simp [notYet] at looked
    | _ => exact True.intro
  | _ => exact True.intro

section Walk

variable {pace : Pace} {client : Client} {origin : Origin} {entry : HttpsRrEntry}
  {dialling : Dialling} {request : Request Unit} {body : Option Bytes} {now : Instant}

theorem keepsUsing {α : Type} (p : Prog sig α) (uses : p.Uses besideEntry) (t : Nat)
    (used : dialling.Using origin entry) : p.Sat (diallingMonitor origin) pace
      (Post.settled fun dialling => dialling.Using origin entry) t dialling :=
  Prog.Sat.of_uses_keeping (besideEntry_keeps origin entry) p uses used
    (fun _ _ _ _ => True.intro) (fun _ _ _ _ => id) (fun _ _ _ _ => id) fun _ _ _ => id

/-- The address picker returns what the entry says, or an address for the host. -/
theorem firstSocketAddr_dials {P : Post Dialling (Except Str SocketAddr)}
    (used : dialling.Using origin entry) (t : Nat)
    (found : ∀ addr t dialling, dialling.Using origin entry → dialling.Dials origin entry addr →
      P.returned (.ok addr) t dialling)
    (failed : ∀ err t dialling, dialling.Using origin entry → P.returned (.error err) t dialling)
    (dropped : ∀ t dialling, dialling.Using origin entry → P.dropped t dialling) :
    (firstSocketAddr origin.host entry.port entry.addresses).Sat (diallingMonitor origin) pace P t
      dialling := by
  cases addresses : entry.addresses with
  | cons hint hints =>
    refine found ⟨hint, entry.port⟩ t dialling used ⟨?_, ?_⟩
    · intro first rest same
      rw [addresses] at same
      cases same
      rfl
    · intro none
      rw [addresses] at none
      cases none
  | nil =>
    refine Prog.Sat.andThen _ (Prog.Sat.timed_cut ?_)
    intro t₁ _ _
    refine ⟨True.intro, fun _ _ _ => ⟨rfl, True.intro⟩, Prog.Sat.suspend ?_⟩
    intro t₂ _ _
    refine ⟨True.intro, ?_⟩
    intro t₃ _
    refine ⟨True.intro, ?_, failed _ _ _ used, dropped _ _ used⟩
    intro ans _
    refine ⟨True.intro, ?_⟩
    have still : ∀ resolved, Dialling.Using ⟨dialling.looked, dialling.answer, resolved⟩ origin
        entry := fun _ => ⟨used.looked, used.entry⟩
    rcases ans with err | _ | ⟨addr, addrs⟩
    · exact failed _ _ _ (still _)
    · exact failed _ _ _ (still _)
    · refine found addr t₃ _ (still _) ⟨?_, ?_⟩
      · intro hint hints same
        rw [addresses] at same
        cases same
      · exact fun _ => ⟨addrs, rfl⟩

theorem connection_dials (used : dialling.Using origin entry) (h3 : entry.hasH3 = true) (t : Nat) :
    (connection origin.host entry.port entry.addresses).Sat (diallingMonitor origin) pace
      (Post.settled fun dialling => dialling.Using origin entry) t dialling := by
  have created : (perform .endpoint).Uses besideEntry := Prog.Uses.perform True.intro
  refine Prog.Sat.andThen _ ((keepsUsing _ created t used).mono ?_ (fun _ _ => id) fun _ _ => id)
  intro created t₁ dialling used
  cases created with
  | error err => exact used
  | ok _ =>
    refine Prog.Sat.andThen _ (firstSocketAddr_dials used t₁ ?_ (fun _ _ _ => id) fun _ _ => id)
    intro addr t₂ dialling used dials
    refine Prog.Sat.andThen _ (Prog.Sat.perform_bind (k := .ret) ?_)
    intro t₃ ans _ _
    refine ⟨fun _ => ⟨entry, used, h3, rfl, dials⟩, ?_⟩
    cases ans with
    | error err => exact used
    | ok _ =>
      have rest : ((timed .connect h3ConnectTimeout "HTTP/3 connect timed out after 500ms".toList id
          (suspend .connecting)).andThen fun _ => timed .setup h3ConnectTimeout
            "HTTP/3 setup timed out after 500ms".toList id (suspend .h3Build)).Uses besideEntry := by
        refine Prog.Uses.andThen ?_ _ (Prog.Uses.timed True.intro _ (Prog.Uses.suspend True.intro))
        intro _
        exact Prog.Uses.timed True.intro _ (Prog.Uses.suspend True.intro)
      exact keepsUsing _ rest t₃ used

/-- A round of the loop, and what its end leads to. -/
theorem guardedAttempt_dials (used : dialling.Using origin entry) (h3 : entry.hasH3 = true)
    (attempt : Nat) (t : Nat) :
    (guardedAttempt client (httpsRrTarget origin entry) request body attempt).Sat
      (diallingMonitor origin) pace (Post.settled fun dialling => dialling.Using origin entry) t
      dialling := by
  have keeps := besideEntry_keeps origin entry
  have guard : (cancellationGuardDrop client origin).Uses besideEntry :=
    ⟨True.intro, fun _ => ⟨True.intro, fun _ =>
      insertNegative_uses True.intro True.intro True.intro⟩⟩
  have cleaned : ∀ {Q : Post Dialling Unit} t dialling,
      (∀ a t dialling, Dialling.Using dialling origin entry → Q.returned a t dialling) →
      (∀ t dialling, Dialling.Using dialling origin entry → Q.panicked t dialling) →
      dialling.Using origin entry → (cancellationGuardDrop client origin).Sat
        (diallingMonitor origin) pace Q t dialling := by
    intro Q t dialling returned panicked used
    exact Sync.Sat.of_uses_keeping keeps _ guard used (fun a t' s' _ => returned a t' s')
      fun _ t' s' _ => panicked t' s'
  have onStream : (requestOnStream request body).Uses besideEntry :=
    requestOnStream_uses True.intro True.intro True.intro (fun _ _ => True.intro) True.intro
      True.intro
  refine Prog.Sat.perform_bind ?_
  intro t₁ _ _ _
  refine ⟨True.intro, Prog.Sat.bind _ (Prog.Sat.guarded _ (Prog.Sat.bind _
    ((connection_dials used h3 t₁).mono ?_ ?_ ?_)))⟩
  · intro connected t₂ dialling used
    cases connected with
    | error err => exact fun t₃ _ _ _ => ⟨True.intro, used⟩
    | ok _ =>
      refine Prog.Sat.of_uses_keeping keeps _ onStream used (fun _ _ _ _ => True.intro) ?_ ?_ ?_
      · intro result t₃ dialling _ used t₄ _ _ _
        exact ⟨True.intro, used⟩
      · exact fun _ t₃ dialling _ => cleaned t₃ dialling (fun _ _ _ => id) fun _ _ => id
      · exact fun t₃ dialling _ => cleaned t₃ dialling (fun _ _ _ => id) fun _ _ => id
  · exact fun t₂ dialling => cleaned t₂ dialling (fun _ _ _ => id) fun _ _ => id
  · exact fun t₂ dialling => cleaned t₂ dialling (fun _ _ _ => id) fun _ _ => id

/-- Every attempt of the loop dials the entry. -/
theorem retryLoop_dials (h3 : entry.hasH3 = true) (attempts : List Nat) :
    ∀ {t dialling}, Dialling.Using dialling origin entry →
      (retryLoop client (httpsRrTarget origin entry) request body now attempts).Sat
        (diallingMonitor origin) pace (Post.settled fun _ => True) t dialling := by
  have stops : ∀ {t dialling}, Dialling.Using dialling origin entry →
      (giveUp client origin now).Sat (diallingMonitor origin) pace
        (Post.settled fun _ => True) t dialling := by
    intro t dialling used
    have uses : (giveUp client origin now).Uses besideEntry := Prog.Uses.map _ _
      (Prog.Uses.ofSync _ (insertNegative_uses True.intro True.intro True.intro))
    exact (keepsUsing _ uses t used).mono (fun _ _ _ _ => True.intro) (fun _ _ _ => True.intro)
      fun _ _ _ => True.intro
  induction attempts with
  | nil => exact stops
  | cons attempt attempts ih =>
    intro t dialling used
    refine retryLoop_sat ((guardedAttempt_dials used h3 attempt t).mono ?_
      (fun _ _ _ => True.intro) fun _ _ _ => True.intro)
    intro result t₁ dialling used
    rcases result with (message | retryWithoutH3) | response
    · exact stops used
    · simp only [AfterAttempt]
      cases h3StreamFailureAction retryWithoutH3 attempt with
      | retryFreshH3 => exact ih used
      | useTcp => exact stops used
    · exact True.intro

/-- The entry is found in the cache, or made of the answer and stored. -/
theorem httpsRrEntry_dials {P : Post Dialling (Option HttpsRrEntry)} (t : Nat)
    (found : ∀ entry t dialling, dialling.Using origin entry → P.returned (some entry) t dialling)
    (nothing : ∀ t dialling, P.returned none t dialling)
    (dropped : ∀ t dialling, P.dropped t dialling) :
    (httpsRrEntry origin now).Sat (diallingMonitor origin) pace P t dialling := by
  refine Prog.Sat.perform_bind ?_
  intro t₁ cached _ _
  refine ⟨True.intro, ?_⟩
  cases cached with
  | some entry => exact found entry t₁ _ ⟨rfl, rfl⟩
  | none =>
    refine Prog.Sat.bind _ (Prog.Sat.timeout_cut ?_)
    intro t₂ _ _
    refine ⟨True.intro, fun _ _ _ => ⟨rfl, True.intro⟩, Prog.Sat.bind _ (Prog.Sat.suspend ?_)⟩
    intro t₃ _ _
    refine ⟨True.intro, ?_⟩
    intro t₄ _
    refine ⟨True.intro, ?_, nothing _ _, dropped _ _⟩
    intro ans _
    refine ⟨True.intro, ?_⟩
    rcases ans with err | records
    · exact nothing _ _
    · dsimp only
      cases selected : selectRecord origin.port none records with
      | none => exact nothing _ _
      | some entry =>
        refine Prog.Sat.perform_bind ?_
        intro t₅ _ _ _
        have used : Dialling.Using ⟨some none, some (origin.host, records), dialling.resolved⟩
            origin entry := ⟨rfl, selected⟩
        exact ⟨⟨rfl, used⟩, found entry t₅ _ used⟩

theorem tryHttpsRrRoute_dials (t : Nat) :
    (tryHttpsRrRoute client origin request body now).Sat (diallingMonitor origin) pace
      (Post.settled fun _ => True) t dialling := by
  refine tryHttpsRrRoute_sat (httpsRrEntry_dials t ?_ ?_ fun _ _ => True.intro)
  · intro entry t₁ dialling used
    refine ⟨?_, fun _ => True.intro⟩
    intro other same h3
    cases same
    exact retryLoop_dials h3 [0, 1] used
  · intro t₁ dialling
    exact ⟨fun entry impossible => (by cases impossible), fun _ => True.intro⟩

theorem beforeHttpsRr_admitsRetry (client : Client) (target : Http3RequestTarget)
    (request : Request Unit) (body : Option Bytes) :
    AdmitsRetry beforeHttpsRr client target request body where
  attempt :=
    { op := by
        intro op used
        cases op with
        | httpsRrCached origin now => exact used.elim
        | httpsRrInsert origin entry => exact used.elim
        | _ => exact True.intro
      timer := fun _ _ => True.intro
      unwinds := fun _ => True.intro }
  instantNow := True.intro
  negativeInsert _ := True.intro
  altSvcRemove := True.intro
  started := True.intro
  ended _ _ := True.intro
  dropped := True.intro
  unwinds := True.intro

/-- The Alt-Svc route is left to itself. -/
theorem tryHttp3_dials (notYet : dialling.looked = none) (t : Nat) :
    (tryHttp3 client origin request body).Sat (diallingMonitor origin) pace
      (Post.settled fun _ => True) t dialling := by
  refine tryHttp3_sat fun t₁ _ => ⟨True.intro, fun s₁ same₁ t₂ now _ _ => ⟨True.intro,
    fun s₂ same₂ t₃ hit _ _ => ⟨True.intro, fun s₃ same₃ => ⟨fun _ => True.intro, fun _ => ?_⟩⟩⟩⟩
  subst same₁ same₂ same₃
  refine tryAltSvcRoute_sat fun t₄ found _ _ => ⟨True.intro, fun s₄ same₄ => ⟨?_, ?_⟩⟩
  · intro _
    exact tryHttpsRrRoute_dials t₄
  · intro entry _ t₅ _
    subst same₄
    refine ⟨True.intro, Prog.Sat.of_uses_keeping (beforeHttpsRr_keeps origin) _
      (retryLoop_uses (beforeHttpsRr_admitsRetry client _ request body) now [0, 1]) notYet
      (fun _ _ _ _ => True.intro) ?_ (fun _ _ _ _ _ => True.intro) fun _ _ _ _ => True.intro⟩
    intro result t₆ dialling _ _
    rcases result with err | _ | response
    · exact True.intro
    · exact tryHttpsRrRoute_dials t₆
    · exact True.intro

end Walk

/-- The monitor of a send, if its request is for https. -/
def sendDialling (builder : RequestBuilder) : Monitor sig Dialling :=
  diallingMonitor ((originOf builder).getD ⟨[], 443⟩)

theorem send_dials {pace : Pace} (builder : RequestBuilder) (t : Nat) :
    (send builder).Sat (sendDialling builder) pace (Post.settled fun _ => True) t
      Dialling.start := by
  have ignores : (sendDialling builder).IgnoresAll besideTryHttp3 := by
    intro dialling t label has
    cases label with
    | call op ans =>
      cases op with
      | httpsRrCached origin now => exact has.elim
      | httpsRrInsert origin entry => exact has.elim
      | connect addr serverName => exact has.elim
      | _ => exact ⟨rfl, True.intro⟩
    | done op ans =>
      cases op with
      | lookupHttps host => exact has.elim
      | lookupSocketAddrs host port => exact has.elim
      | _ => exact ⟨rfl, True.intro⟩
    | _ => exact ⟨rfl, True.intro⟩
  refine send_settled ignores (fun _ _ _ => True.intro) True.intro ?_
  intro uri origin body _ tries t
  have same : sendDialling builder = diallingMonitor origin := by
    simp [sendDialling, tries.origin]
  rw [same]
  exact tryHttp3_dials rfl t

/-- What the monitor knows after a log. -/
def diallingAfter (log : List (Entry sig)) : Dialling :=
  ⟨latestOf lookedUp log, latestOf httpsAnswer log, latestOf resolvedOf log⟩

theorem diallingMonitor_run (origin : Origin) (log : List (Entry sig)) :
    (diallingMonitor origin).run Dialling.start log = diallingAfter log := by
  have looked := Monitor.run_latest (m := diallingMonitor origin) Dialling.looked lookedUp
    (fun _ _ _ => rfl) Dialling.start log
  have answer := Monitor.run_latest (m := diallingMonitor origin) Dialling.answer httpsAnswer
    (fun _ _ _ => rfl) Dialling.start log
  have resolved := Monitor.run_latest (m := diallingMonitor origin) Dialling.resolved resolvedOf
    (fun _ _ _ => rfl) Dialling.start log
  cases after : (diallingMonitor origin).run Dialling.start log with
  | mk looked' answer' resolved' =>
    rw [after] at looked answer resolved
    simp only [Dialling.start, Option.or_none] at looked answer resolved
    rw [looked, answer, resolved, diallingAfter]

section Run

variable {client : Client} {pace : Pace} {clock : Nat} {w : World (sends client)} {i : Nat}
  {task : Task (sends client)} {before later : List (Entry sig)} {e : Entry sig} {origin : Origin}

theorem dialling_checked (reached : Reachable pace (.start clock SharedState.new) w)
    (found : w.tasks[i]? = some task) (https : originOf task.job.val = some origin)
    (split : w.logOf i = before ++ e :: later) :
    (diallingMonitor origin).check (diallingAfter before) e.time e.label := by
  have verified : ∀ (job : (sends client).Job) t, ((sends client).program job).Sat
      (sendDialling job.val) pace (Post.settled fun _ => True) t Dialling.start :=
    fun job t => send_dials job.val t
  have admits := Monitor.admits_of_trivial (sendDialling task.job.val) (fun _ _ _ => True.intro)
    Dialling.start (w.logOf i)
  have passes := (reached.sat verified found admits).1
  have same : sendDialling task.job.val = diallingMonitor origin := by simp [sendDialling, https]
  rw [same] at passes
  have checked := Monitor.Passes.at _ passes split
  rwa [diallingMonitor_run] at checked

/-- A send asks the resolver for the records of its own host only. -/
theorem httpsAnswer_host (reached : Reachable pace (.start clock SharedState.new) w)
    (found : w.tasks[i]? = some task) (https : originOf task.job.val = some origin)
    (own : ∀ e ∈ before, e ∈ w.logOf i) {host : Str} {records : List HttpsRecord}
    (answered : latestOf httpsAnswer before = some (host, records)) : host = origin.host := by
  obtain ⟨source, earlier, answers⟩ := latestOf_source answered
  have listed := run_footprint reached found source (own source earlier)
  unfold httpsAnswer at answers
  split at answers
  · rename_i label _ _ same
    cases answers
    rw [same] at listed
    obtain ⟨other, body, tries, sameHost⟩ := listed.2.resolve_right id
    have sameOrigin := Option.some.inj (tries.origin.symm.trans https)
    rw [sameHost, sameOrigin]
  · cases answers

/-- An entry is stored by a send of its origin, which has made it of the records
that the resolver has answered for the origin's host. -/
theorem httpsRrInsert_answered (reached : Reachable pace (.start clock SharedState.new) w)
    {history rest : List (Entry sig)} {stored : Entry sig} {entry : HttpsRrEntry}
    (split : w.log = history ++ stored :: rest)
    (stores : stored.label = .call (.httpsRrInsert origin entry) ()) :
    ∃ records, latestOf httpsAnswer (history.filter fun e => e.task == stored.task) =
        some (origin.host, records) ∧ selectRecord origin.port none records = some entry := by
  obtain ⟨task, found, own⟩ := reached.task_of_entry (e := stored) (by simp [split])
  have listed := run_footprint reached found stored own
  rw [stores] at listed
  obtain ⟨body, tries⟩ := listed.2.resolve_right id
  have ownSplit := World.logOf_split split rfl
  have checked := dialling_checked reached found tries.origin ownSplit
  rw [stores] at checked
  obtain ⟨missed, used⟩ := checked
  have made := used.entry
  simp only [Dialling.entry, missed, Option.bind_some, Option.none_or] at made
  obtain ⟨⟨host, records⟩, answered, selected⟩ := Option.bind_eq_some_iff.mp made
  have earlier : ∀ e ∈ history.filter (fun e => e.task == stored.task), e ∈ w.logOf stored.task := by
    intro e mem
    rw [ownSplit]
    exact List.mem_append_left _ mem
  have sameHost := httpsAnswer_host reached found tries.origin earlier answered
  subst sameHost
  exact ⟨records, answered, selected⟩

/-- The record behind the entry in use at the end of `before`: the first with h3
in the resolver's answer, either to this send, which has found nothing in the
cache, or to the send that stored what this one has found there. -/
inductive Chosen (w : World (sends client)) (origin : Origin) (before : List (Entry sig))
    (record : HttpsRecord) : Prop
  | asked {records : List HttpsRecord} (missed : latestOf lookedUp before = some none)
      (answered : latestOf httpsAnswer before = some (origin.host, records))
      (first : records.find? advertisesH3 = some record)
  | cached {entry : HttpsRrEntry} {now : Instant} {records : List HttpsRecord}
      {history between rest : List (Entry sig)} {stored read : Entry sig}
      (hit : latestOf lookedUp before = some (some entry))
      (split : w.log = (history ++ stored :: between) ++ read :: rest)
      (earlier : read ∈ before)
      (reads : read.label = .call (.httpsRrCached origin now) (some entry))
      (stores : stored.label = .call (.httpsRrInsert origin entry) ())
      (kept : ∀ e ∈ between, (httpsRrAct origin e.label).Spares entry)
      (answered : latestOf httpsAnswer (history.filter fun e => e.task == stored.task) =
        some (origin.host, records))
      (first : records.find? advertisesH3 = some record)

theorem Chosen.entry (reached : Reachable pace (.start clock SharedState.new) w)
    {record : HttpsRecord} (chosen : Chosen w origin before record) :
    (diallingAfter before).entry origin = some (parseHttpsRecord record origin.port) := by
  cases chosen with
  | asked missed answered first =>
    simp [Dialling.entry, diallingAfter, missed, answered, selectRecord_first first]
  | cached hit split earlier reads stores kept answered first =>
    rw [List.append_assoc, List.cons_append] at split
    obtain ⟨records, answered', selected⟩ := httpsRrInsert_answered reached split stores
    rw [answered] at answered'
    cases answered'
    rw [selectRecord_first first] at selected
    simp [Dialling.entry, diallingAfter, hit, selected]

/-- Every entry in use with h3 has its record. -/
theorem chosen_exists (reached : Reachable pace (.start clock SharedState.new) w)
    (found : w.tasks[i]? = some task) (https : originOf task.job.val = some origin)
    (own : ∀ e ∈ before, e ∈ w.logOf i) {entry : HttpsRrEntry}
    (used : (diallingAfter before).Using origin entry) (h3 : entry.hasH3 = true) :
    ∃ record, Chosen w origin before record := by
  have made := used.entry
  simp only [Dialling.entry, diallingAfter] at made
  obtain ⟨inCache, looked, made⟩ := Option.bind_eq_some_iff.mp made
  cases inCache with
  | none =>
    rw [Option.none_or] at made
    obtain ⟨⟨host, records⟩, answered, selected⟩ := Option.bind_eq_some_iff.mp made
    have sameHost := httpsAnswer_host reached found https own answered
    subst sameHost
    obtain ⟨record, first, -⟩ := selectRecord_made selected h3
    exact ⟨record, .asked looked answered first⟩
  | some cached =>
    cases made
    obtain ⟨read, earlier, reads⟩ := latestOf_source looked
    unfold lookedUp at reads
    split at reads
    · rename_i other now inCache label
      cases reads
      have listed := run_footprint reached found read (own read earlier)
      rw [label] at listed
      obtain ⟨body, tries⟩ := listed.2.resolve_right id
      have sameOrigin := Option.some.inj (tries.origin.symm.trans https)
      subst sameOrigin
      obtain ⟨history', rest, split⟩ :=
        List.append_of_mem (World.mem_log_of_logOf (own read earlier))
      have held := ((httpsRrCached_iff reached split label entry).mp rfl).1
      obtain ⟨history, stored, between, parts, stores, kept⟩ :=
        (Slot.after_eq_some_iff _ _ _).mp held
      have storedSplit : w.log = history ++ stored :: (between ++ read :: rest) := by
        simp [split, parts]
      obtain ⟨records, answered, selected⟩ :=
        httpsRrInsert_answered reached storedSplit (httpsRrAct_store stores)
      obtain ⟨record, first, -⟩ := selectRecord_made selected h3
      exact ⟨record, .cached looked (parts ▸ split) earlier label (httpsRrAct_store stores) kept
        answered first⟩
    · cases reads

/-- `lookup_socket_addrs` returns addresses with the port it was asked for. -/
def ResolverKeepsPort (w : World (sends client)) : Prop :=
  ∀ e ∈ w.log, ∀ answer, resolvedOf e.label = some answer →
    ∀ addr ∈ answer.addrs, addr.port = answer.port

end Run

/-- What the entry of a record leads to is what the record advertises, unless the
record has no hints and serves another name. -/
theorem dials_advertised_iff {dialling : Dialling} {origin : Origin} {record : HttpsRecord}
    {addr : SocketAddr}
    (dials : dialling.Dials origin (parseHttpsRecord record origin.port) addr)
    (keepsPort : ∀ answer, dialling.resolved = some answer →
      ∀ addr ∈ answer.addrs, addr.port = answer.port) :
    DialsAdvertised origin record dialling.resolved addr ↔
      record.addressHints ≠ [] ∨ SameName origin.host (servedName origin record) := by
  unfold DialsAdvertised
  cases hints : record.addressHints with
  | cons hint rest =>
    have same := dials.hinted hint rest hints
    subst same
    simp [parseHttpsRecord]
  | nil =>
    obtain ⟨rest, resolved⟩ := dials.unhinted hints
    have port := keepsPort _ resolved addr (by simp)
    simp only [ne_eq, not_true_eq_false, false_or, resolved, Option.some.injEq, exists_eq_left',
      List.mem_cons, true_or, and_true]
    constructor
    · exact fun advertised => advertised.2
    · exact fun named => ⟨port, named⟩

/-- Every connection on the HTTPS RR route names the origin and carries requests
to it; it goes where the chosen record advertises if and only if the record has
address hints or serves the origin's own host. -/
theorem httpsRrRoute_dials_iff {client : Client} {pace : Pace} {clock : Nat}
    {w : World (sends client)} (reached : Reachable pace (.start clock SharedState.new) w)
    (keepsPort : ResolverKeepsPort w) {i : Nat} {task : Task (sends client)}
    (found : w.tasks[i]? = some task) {origin : Origin}
    (https : originOf task.job.val = some origin) {before later : List (Entry sig)}
    {e : Entry sig} (split : w.logOf i = before ++ e :: later) {addr : SocketAddr}
    {serverName : Str} {ans : Except Str Unit}
    (connects : e.label = .call (.connect addr serverName) ans)
    (onRoute : ∃ e' ∈ before, ∃ now answer, e'.label = .call (.httpsRrCached origin now) answer) :
    serverName = origin.host ∧
    (∀ e' ∈ w.logOf i, ∀ request, e'.label = .issue (.sendRequest request) →
      Origin.fromUri request.uri = some origin) ∧
    (∃ record, Chosen w origin before record) ∧
    ∀ record, Chosen w origin before record →
      (DialsAdvertised origin record (latestOf resolvedOf before) addr ↔
        record.addressHints ≠ [] ∨ SameName origin.host (servedName origin record)) := by
  have own : ∀ e' ∈ before, e' ∈ w.logOf i := by
    intro e' mem
    rw [split]
    exact List.mem_append_left _ mem
  have checked := dialling_checked reached found https split
  rw [connects] at checked
  obtain ⟨e', earlier, now, answer, looks⟩ := onRoute
  have isLooked : lookedUp e'.label = some answer := by rw [looks]; rfl
  obtain ⟨last, looked⟩ := latestOf_isSome earlier isLooked
  obtain ⟨entry, used, h3, named, dials⟩ := checked (by simp [diallingAfter, looked])
  refine ⟨named, ?_, chosen_exists reached found https own used h3, ?_⟩
  · intro sent mem request sends
    have listed := run_footprint reached found sent mem
    rw [sends] at listed
    have carried := (listed.2.resolve_right id).2.1
    simpa [originOf, carried] using https
  · intro record chosen
    have same := Option.some.inj (used.entry.symm.trans (chosen.entry reached))
    subst same
    refine dials_advertised_iff dials ?_
    intro answer resolved
    obtain ⟨source, mem, answers⟩ := latestOf_source resolved
    exact keepsPort source (World.mem_log_of_logOf (own source mem)) answer answers

namespace Example

def hintedRecord : HttpsRecord := { h3Record with addressHints := [.v4 2] }

/-- Served under another name, with no hints. -/
def pooledRecord : HttpsRecord := { h3Record with targetName := "pool.example".toList }

/-- Takes the HTTPS RR route with this record up to `Http3State::request`. -/
def takesHttpsRr (record : HttpsRecord) : List (Label sig) :=
  consults start none ++ resolves start 0 [record] ++
    [.call (.httpsRrInsert origin (parseHttpsRecord record 443)) (),
      .call (.trace (.http3Request origin
        (call (httpsRrTarget origin (parseHttpsRecord record 443))))) ()]

def hintedDial : List (Label sig) := takesHttpsRr hintedRecord ++ [.call .endpoint (.ok ())]

def pooledDial : List (Label sig) :=
  takesHttpsRr pooledRecord ++ looksUp 0 origin.host ++
    [.done (.lookupSocketAddrs origin.host 443) (.ok [addr])]

end Example

/-- A hint is dialled. -/
theorem httpsRrRoute_dials_iff_hinted :
    ∃ (w : World (sends Example.client)) (before : List (Entry sig)) (serverName : Str),
      serverName = Example.origin.host ∧
      DialsAdvertised Example.origin Example.hintedRecord (latestOf resolvedOf before)
        ⟨.v4 2, 443⟩ ∧ before <+: w.log := by
  obtain ⟨w, task, reached, found, -, -, log, job, -⟩ := Example.reaches .strict
    (Example.spawned Example.client :: Example.performs 0 (Example.hintedDial ++
      [.call (.connect ⟨.v4 2, 443⟩ Example.origin.host) (.ok ())])) 0 0 false _
    ⟨Example.builder Example.client, rfl⟩ 0 false true rfl
  have https : originOf task.job.val = some Example.origin := by
    rw [job]
    rfl
  have own : w.logOf 0 = Example.logged 0 0 Example.hintedDial ++
      ⟨0, 0, .call (.connect ⟨.v4 2, 443⟩ Example.origin.host) (.ok ())⟩ :: [] := by
    rw [World.logOf, log]
    rfl
  have keepsPort : ResolverKeepsPort w := by
    intro e mem answer answers
    have recorded : answer ∈ recordOf resolvedOf w.log := mem_recordOf.mpr ⟨e, mem, answers⟩
    rw [log] at recorded
    cases recorded
  have dials := httpsRrRoute_dials_iff reached keepsPort found https own rfl
    ⟨⟨0, 0, .call (.httpsRrCached Example.origin Example.start) none⟩,
      by simp [Example.hintedDial, Example.takesHttpsRr, Example.resolves, Example.logged],
      _, _, rfl⟩
  have chosen : Chosen w Example.origin (Example.logged 0 0 Example.hintedDial)
      Example.hintedRecord :=
    @Chosen.asked _ _ _ _ _ [Example.hintedRecord] rfl rfl rfl
  refine ⟨w, _, _, dials.1, (dials.2.2.2 _ chosen).mpr (.inl ?_), ?_⟩
  · intro none
    cases none
  · rw [log]
    exact ⟨_, rfl⟩

/-- For a record with h3 that serves `pool.example` without hints, the resolver
is asked for the origin's own host and the connection goes there. -/
theorem httpsRrRoute_dials_own_host :
    ∃ (w : World (sends Example.client)) (task : Task (sends Example.client))
      (before later : List (Entry sig)) (e : Entry sig),
      Reachable .strict (.start 0 SharedState.new) w ∧ ResolverKeepsPort w ∧
      w.tasks[0]? = some task ∧ originOf task.job.val = some Example.origin ∧
      w.logOf 0 = before ++ e :: later ∧
      e.label = .call (.connect Example.addr Example.origin.host) (.ok ()) ∧
      Chosen w Example.origin before Example.pooledRecord ∧
      latestOf resolvedOf before = some ⟨Example.origin.host, 443, [Example.addr]⟩ ∧
      ¬ DialsAdvertised Example.origin Example.pooledRecord (latestOf resolvedOf before)
        Example.addr := by
  obtain ⟨w, task, reached, found, -, -, log, job, -⟩ := Example.reaches .strict
    (Example.spawned Example.client :: Example.performs 0 (Example.pooledDial ++
      [.call (.connect Example.addr Example.origin.host) (.ok ())])) 0 0 false _
    ⟨Example.builder Example.client, rfl⟩ 0 false true rfl
  have https : originOf task.job.val = some Example.origin := by
    rw [job]
    rfl
  have own : w.logOf 0 = Example.logged 0 0 Example.pooledDial ++
      ⟨0, 0, .call (.connect Example.addr Example.origin.host) (.ok ())⟩ :: [] := by
    rw [World.logOf, log]
    rfl
  have keepsPort : ResolverKeepsPort w := by
    intro e mem answer answers
    have recorded : answer ∈ recordOf resolvedOf w.log := mem_recordOf.mpr ⟨e, mem, answers⟩
    have only : recordOf resolvedOf w.log = [⟨Example.origin.host, 443, [Example.addr]⟩] := by
      rw [log]
      rfl
    rw [only] at recorded
    cases List.mem_singleton.mp recorded
    intro addr mem
    rw [List.mem_singleton.mp mem]
    rfl
  have resolved : latestOf resolvedOf (Example.logged 0 0 Example.pooledDial) =
      some ⟨Example.origin.host, 443, [Example.addr]⟩ := rfl
  refine ⟨w, task, _, [], _, reached, keepsPort, found, https, own, rfl, ?_, resolved, ?_⟩
  · exact @Chosen.asked _ _ _ _ _ [Example.pooledRecord] rfl rfl rfl
  · rw [resolved]
    rintro ⟨-, answer, same, named, -⟩
    cases same
    exact absurd named (by decide)

end MechanicsHttpClient.Guarantees
