import MechanicsHttpClient.Guarantees.CacheHistory
import MechanicsHttpClient.Guarantees.Phases

/-!
# Where a cached alternative comes from

src/request.rs:506-526. Every update of the Alt-Svc cache in a run was parsed
from the header of a response that a send of that origin got from hyper.
-/

namespace MechanicsHttpClient.Guarantees

open MechanicsHttpClient.Runtime
open MechanicsHttpClient.Source

/-- A response of hyper, with the request it answers. -/
def responseOf : Label sig → Option (Request RequestBody × ResponseParts)
  | .done (.hyperRequest request) (.ok (parts, _)) => some (request, parts)
  | _ => none

/-- Follows a send from hyper's response to the cache update made of it. -/
def learningMonitor : Monitor sig (Option ResponseParts) where
  next arrived _ label := ((responseOf label).map Prod.snd).or arrived
  assume _ _ _ := True
  check arrived _ label :=
    match label with
    | .call (.altSvcUpdate origin update) _ => ∃ parts value now, arrived = some parts ∧
        parts.headers.get HeaderName.altSvc = some value ∧
        AltSvc.parseHeader value now origin.port = .ok update
    | _ => True
  rest _ _ := True

theorem learningMonitor_ignores (builder : RequestBuilder) :
    learningMonitor.IgnoresAll (http3Footprint builder) := by
  intro s t label has
  cases label with
  | call op ans =>
    cases op with
    | altSvcUpdate origin update => exact has.2.elim
    | _ => exact ⟨rfl, True.intro⟩
  | done op ans =>
    cases op with
    | hyperRequest request => exact has.2.elim
    | _ => exact ⟨rfl, True.intro⟩
  | issue op => exact ⟨rfl, True.intro⟩
  | arm timer deadline => exact ⟨rfl, True.intro⟩
  | fire index timer deadline => exact ⟨rfl, True.intro⟩

theorem maybeUpdateAltSvc_learns {pace : Pace} {P : Post (Option ResponseParts) Unit}
    (uri : Uri) (parts : ResponseParts) (incoming : BodyHandle) (t : Nat)
    (anyway : ∀ t s, P.returned () t s ∧ P.panicked t s) :
    (maybeUpdateAltSvc uri (Response.new parts incoming)).Sat learningMonitor pace P t
      (some parts) := by
  unfold maybeUpdateAltSvc
  split
  · exact (anyway _ _).1
  · rename_i origin https
    split
    · exact (anyway _ _).1
    · rename_i value advertised
      refine Prog.Sat.perform_bind ?_
      intro t' now _ _
      refine ⟨True.intro, ?_⟩
      split
      · exact (anyway _ _).2
      · rename_i update parsed
        intro t'' ans _ _
        exact ⟨⟨parts, value, now, rfl, advertised, parsed⟩, (anyway _ _).1⟩

theorem send_learns {pace : Pace} (builder : RequestBuilder) (t : Nat) :
    (send builder).Sat learningMonitor pace Post.any t none := by
  refine send_sat (fun _ _ => True.intro) ?_
  intro uri fine parsed
  refine Prog.Sat.of_uses (learningMonitor_ignores builder) _ (http3Phase_uses fine parsed)
    (fun _ _ => True.intro) ?_ (fun _ _ _ => True.intro) (fun _ _ => True.intro)
  intro result t' _
  rcases result with err | _ | response
  · exact True.intro
  · refine tcpPhase_sat (fun _ _ _ => ⟨rfl, True.intro, fun _ _ _ => ⟨rfl, True.intro⟩⟩) ?_
    intro t₁ _
    refine Prog.Sat.suspend ?_
    intro t₂ _ _
    refine ⟨True.intro, fun t₃ _ => ⟨True.intro, ?_, True.intro, True.intro⟩⟩
    intro ans _
    refine ⟨True.intro, ?_⟩
    rcases ans with err | ⟨parts, incoming⟩
    · exact True.intro
    · exact maybeUpdateAltSvc_learns uri parts incoming t₃ fun _ _ => ⟨True.intro, True.intro⟩
  · exact True.intro

theorem learningMonitor_run {log : List (Entry sig)} {parts : ResponseParts}
    (arrived : learningMonitor.run none log = some parts) :
    ∃ e ∈ log, ∃ request, responseOf e.label = some (request, parts) := by
  have latest := Monitor.run_latest (m := learningMonitor) id
    (fun label => (responseOf label).map Prod.snd) (fun _ _ _ => rfl) none log
  rw [id_eq, id_eq, arrived, Option.or_none] at latest
  obtain ⟨e, logged, response⟩ := latestOf_source latest.symm
  obtain ⟨⟨request, parts'⟩, answers, same⟩ := Option.map_eq_some_iff.mp response
  subst same
  exact ⟨e, logged, request, answers⟩

theorem responseOf_uri {builder : RequestBuilder} {label : Label sig}
    {request : Request RequestBody} {parts : ResponseParts}
    (listed : (sendFootprint builder).Has label)
    (response : responseOf label = some (request, parts)) : builder.uri = .ok request.uri := by
  unfold responseOf at response
  split at response
  · cases response
    exact (listed.2.resolve_left id).1
  · cases response

section Run

variable {client : Client} {pace : Pace} {clock : Nat} {w : World (sends client)}

/-- Every Alt-Svc update in a run was parsed from a response of that origin. -/
theorem altSvcUpdate_learned {shared : SharedState}
    (reached : Reachable pace (.start clock shared) w)
    {e : Entry sig} (logged : e ∈ w.log) {origin : Origin} {update : AltSvc.AltSvcUpdate}
    {ans : Unit} (updates : e.label = .call (.altSvcUpdate origin update) ans) :
    ∃ arrived ∈ w.log, ∃ request parts value now,
      responseOf arrived.label = some (request, parts) ∧
      Origin.fromUri request.uri = some origin ∧
      parts.headers.get HeaderName.altSvc = some value ∧
      AltSvc.parseHeader value now origin.port = .ok update := by
  obtain ⟨task, found, own⟩ := reached.task_of_entry logged
  obtain ⟨before, after, split⟩ := List.append_of_mem own
  have verified : ∀ (job : (sends client).Job) t, ((sends client).program job).Sat learningMonitor
      pace Post.any t none := fun job t => send_learns job.val t
  have admits := Monitor.admits_of_trivial learningMonitor (fun _ _ _ => True.intro) none
    (w.logOf e.task)
  have passes := (reached.sat verified found admits).1
  have checked := Monitor.Passes.at _ passes split
  simp only [updates, learningMonitor] at checked
  obtain ⟨parts, value, now, arrived, advertised, parsed⟩ := checked
  obtain ⟨source, earlier, request, response⟩ := learningMonitor_run arrived
  have sourceOwn : source ∈ w.logOf e.task := by
    rw [split]
    exact List.mem_append_left _ earlier
  have listedUpdate := run_footprint reached found e own
  rw [updates] at listedUpdate
  have sameOrigin : originOf task.job.val = some origin := listedUpdate.2.resolve_left id
  have uri : task.job.val.uri = .ok request.uri :=
    responseOf_uri (run_footprint reached found source sourceOwn) response
  refine ⟨source, World.mem_log_of_logOf sourceOwn, request, parts, value, now, response, ?_,
    advertised, parsed⟩
  simpa [originOf, uri] using sameOrigin

end Run

end MechanicsHttpClient.Guarantees
