import MechanicsHttpClient.Guarantees.AltSvcOverflow
import MechanicsHttpClient.Guarantees.NegativeCause

/-!
# The course of a send

src/request.rs:43-66, 174-250 and 265-382. The course of a send is what it has
handed to hyper, what hyper has answered, and whether a response over HTTP/3, a
negative entry or an alternative without a representable expiry has come in
between. `send_course` says which courses lead to which ends; `course_spoiled`
and its neighbours read a course off the log.
-/

namespace MechanicsHttpClient.Guarantees

open MechanicsHttpClient.Runtime
open MechanicsHttpClient.Source

/-- What hyper answers. -/
abbrev HyperAnswer : Type := Except LegacyError (ResponseParts × BodyHandle)

/-- The result of a send for an answer of hyper. -/
def resultOf : HyperAnswer → Except Error Response
  | .error err => .error (mapLegacyError err)
  | .ok (parts, incoming) => .ok (Response.new parts incoming)

/-- The request for hyper. -/
def hyperRequestOf (builder : RequestBuilder) (uri : Uri) : Request RequestBody :=
  ⟨builder.method, uri, sentHeaders builder, builder.body.intoBody⟩

/-- The request of an HTTP/3 attempt; its body goes apart from it. -/
def h3RequestOf (builder : RequestBuilder) (uri : Uri) : Request Unit :=
  ⟨builder.method, uri, sentHeaders builder, ()⟩

def sentToHyper : Label sig → Option (Request RequestBody)
  | .issue (.hyperRequest request) => some request
  | _ => none

def hyperAnswered : Label sig → Option HyperAnswer
  | .done (.hyperRequest _) answer => some answer
  | _ => none

/-- A negative entry is not written, for want of a representable expiry. -/
def insertPanics : Label sig → Bool
  | .call (.negativeInsert _ _ _) (.error _) => true
  | _ => false

/-- The Alt-Svc header of the answer cannot be read at this instant. -/
def losesExpiry (origin : Option Origin) (now : Instant) : HyperAnswer → Bool
  | .error _ => false
  | .ok (parts, _) =>
    match origin, parts.headers.get HeaderName.altSvc with
    | some origin, some value =>
      match AltSvc.parseHeader value now origin.port with
      | .error _ => true
      | .ok _ => false
    | _, _ => false

/-- The course of a send so far. -/
structure Course where
  handed : List (Request RequestBody)
  answers : List HyperAnswer
  responded : Bool
  overflowed : Bool
  spoiled : Bool

def Course.start : Course := ⟨[], [], false, false, false⟩

/-- `patient` says that the request's timer does not expire. -/
def courseMonitor (origin : Option Origin) (patient : Bool) : Monitor sig Course where
  next course _ label :=
    match label with
    | .issue (.hyperRequest request) => { course with handed := course.handed ++ [request] }
    | .done (.hyperRequest _) answer => { course with answers := course.answers ++ [answer] }
    | .call (.trace (.http3Outcome _ _ .responded)) _ => { course with responded := true }
    | .call (.negativeInsert _ _ _) (.error _) => { course with overflowed := true }
    | .call .instantNow now =>
      { course with spoiled := course.spoiled || course.answers.any (losesExpiry origin now) }
    | _ => course
  assume _ _ label :=
    match label with
    | .fire _ .request _ => patient = false
    | _ => True
  check course _ label :=
    match label with
    | .issue (.hyperRequest _) => course.responded = false
    | .call (.trace (.http3Outcome _ _ .responded)) _ => course.handed = []
    | _ => True
  rest _ _ := True

/-- What the monitor takes no notice of. -/
def courseQuiet : Alphabet sig where
  op
    | .trace (.http3Outcome _ _ .responded) | .hyperRequest _ => False
    | .negativeInsert _ _ _ | .instantNow => False
    | _ => True
  timer _ := True
  unwinds := False

theorem courseMonitor_ignores (origin : Option Origin) (patient : Bool) :
    (courseMonitor origin patient).IgnoresAll courseQuiet := by
  intro course t label has
  cases label with
  | call op ans =>
    cases op with
    | trace point =>
      cases point with
      | http3Outcome o attempt outcome =>
        cases outcome with
        | responded => exact has.elim
        | failed err => exact ⟨rfl, True.intro⟩
      | _ => exact ⟨rfl, True.intro⟩
    | negativeInsert o now duration => exact has.elim
    | instantNow => exact has.elim
    | _ => exact ⟨rfl, True.intro⟩
  | issue op =>
    cases op with
    | hyperRequest request => exact has.elim
    | _ => exact ⟨rfl, True.intro⟩
  | done op ans =>
    cases op with
    | hyperRequest request => exact has.elim
    | _ => exact ⟨rfl, True.intro⟩
  | _ => exact ⟨rfl, True.intro⟩

theorem attemptFootprint_courseQuiet (call : Http3Call) :
    (attemptFootprint call).Within courseQuiet where
  op := by
    intro op used
    cases op with
    | trace point => exact used.elim
    | hyperRequest request => exact used.elim
    | negativeInsert o now duration => exact used.elim
    | instantNow => exact used.elim
    | _ => exact True.intro
  timer _ _ := True.intro
  unwinds := id

/-- The first phase leaves the course as it was, unless it brings a response or
panics. -/
def courseStages : Stages Course where
  idle _ course := course = Course.start
  failed _ _ _ course := course = Course.start
  answered _ _ course := course = { Course.start with responded := true }
  broken _ course := course = { Course.start with overflowed := true }
  gone _ course := course = Course.start

section Http3

variable {client : Client} {source : Option Origin} {patient : Bool} {pace : Pace} {t : Nat}

theorem insertNegative_course {origin : Origin} {now : Instant} {P : Post Course Unit}
    (returned : ∀ t', P.returned () t' Course.start)
    (panicked : ∀ t', P.panicked t' { Course.start with overflowed := true }) :
    (insertNegative client origin now).Sat (courseMonitor source patient) pace P t
      Course.start := by
  apply insertNegative_sat
  intro t₁ ans _ _
  refine ⟨True.intro, ?_⟩
  intro course same
  subst same
  constructor
  · rintro panic rfl
    exact panicked t₁
  · rintro rfl t₂ _
    exact ⟨True.intro, returned t₂⟩

/-- A failed attempt leaves no trace in the course of the send. -/
theorem courseStages_kept (client : Client) (source : Option Origin) (patient : Bool)
    (now : Instant) : courseStages.Kept (courseMonitor source patient) pace client now where
  attempt := by
    intro target request body attempt t course same
    subst same
    have ignores := (courseMonitor_ignores source patient).within
      (attemptFootprint_courseQuiet (callOf target request body))
    refine guardedAttempt_sat ignores fun t₁ _ => ⟨True.intro, ?_⟩
    intro course same t₂ _
    subst same
    refine ⟨True.intro, ?_, ?_⟩
    · intro t₃ _ _ _
      refine ⟨True.intro, ?_⟩
      intro t₄ now _ _
      exact ⟨True.intro, insertNegative_course (fun _ => rfl) fun _ => rfl⟩
    · intro result t₃ _
      cases result with
      | error err => exact ⟨True.intro, rfl⟩
      | ok response => exact ⟨rfl, rfl⟩
  written := by
    intro origin attempt err t course _ same
    subst same
    exact insertNegative_course (fun _ => rfl) fun _ => rfl
  again _ _ _ _ _ same := same
  looked := by
    intro origin t course same
    have uses : (httpsRrEntry origin now).Uses courseQuiet :=
      httpsRrEntry_uses True.intro True.intro True.intro fun _ => True.intro
    exact Prog.Sat.of_uses (courseMonitor_ignores source patient) _ uses (fun _ _ => True.intro)
      (fun _ _ _ => same) (fun no => no.elim) fun _ _ => same
  routed _ _ _ _ _ same _ _ := ⟨True.intro, same⟩

theorem tryHttp3_course {origin : Origin} {request : Request Unit} {body : Option Bytes} :
    (tryHttp3 client origin request body).Sat (courseMonitor source patient) pace
      courseStages.after t Course.start := by
  apply Stages.tryHttp3
  intro t₁ _
  refine ⟨True.intro, ?_⟩
  intro course₁ same₁ t₂ now _ _
  refine ⟨True.intro, courseStages_kept client source patient now, ?_⟩
  intro course₂ same₂ t₃ hit _
  refine ⟨True.intro, ?_⟩
  intro course₃ same₃
  subst same₁ same₂ same₃
  exact ⟨rfl, fun _ _ _ => ⟨True.intro, rfl⟩⟩

end Http3

/-- The builder carries an error, and nothing is sent. -/
def Rejected (builder : RequestBuilder) : Prop :=
  builder.deferredError ≠ none ∨ ∀ uri, builder.uri ≠ .ok uri

/-- The ends of a send whose builder carries no error: with a response over
HTTP/3, with what hyper has answered, by the request's timer, or in a panic. -/
def courseEnds (builder : RequestBuilder) (patient : Bool) : Post Course (Except Error Response) where
  returned result _ course := Rejected builder ∨ course.responded = true ∨
    (patient = false ∧ result = .error .timeout) ∨
    ∃ uri answer, builder.uri = .ok uri ∧ result = resultOf answer ∧
      course = ⟨[hyperRequestOf builder uri], [answer], false, false, false⟩
  panicked _ course := course.overflowed = true ∨
    (course.spoiled = true ∧ ∃ uri, builder.uri = .ok uri ∧
      course.handed = [hyperRequestOf builder uri])
  dropped _ _ := True

section Send

variable {patient : Bool} {pace : Pace} {t : Nat} {builder : RequestBuilder} {uri : Uri}

theorem maybeUpdateAltSvc_course {parts : ResponseParts} {incoming : BodyHandle}
    (parsed : builder.uri = .ok uri) :
    (maybeUpdateAltSvc uri (Response.new parts incoming)).Sat
      (courseMonitor (originOf builder) patient) pace
      ⟨fun _ => (courseEnds builder patient).returned (.ok (Response.new parts incoming)),
        (courseEnds builder patient).panicked, (courseEnds builder patient).dropped⟩ t
      ⟨[hyperRequestOf builder uri], [.ok (parts, incoming)], false, false, false⟩ := by
  have isOver : ∀ course : Course,
      course = ⟨[hyperRequestOf builder uri], [.ok (parts, incoming)], false, false, false⟩ →
      ∀ t, (courseEnds builder patient).returned (.ok (Response.new parts incoming)) t course :=
    fun course same _ => .inr (.inr (.inr ⟨uri, .ok (parts, incoming), parsed, rfl, same⟩))
  have about : originOf builder = Origin.fromUri uri := by simp only [originOf, parsed]
  unfold maybeUpdateAltSvc
  split
  · exact isOver _ rfl t
  · rename_i origin https
    have headers : (Response.new parts incoming).headers = parts.headers := rfl
    rw [headers]
    split
    · exact isOver _ rfl t
    · rename_i value first
      apply Prog.Sat.perform_bind
      intro t₁ now _ _
      refine ⟨True.intro, ?_⟩
      cases read : AltSvc.parseHeader value now origin.port with
      | error panic =>
        have lost : losesExpiry (originOf builder) now (.ok (parts, incoming)) = true := by
          simp [losesExpiry, about, https, first, read]
        refine .inr ⟨?_, uri, parsed, rfl⟩
        simp [courseMonitor, lost]
      | ok update =>
        have kept : losesExpiry (originOf builder) now (.ok (parts, incoming)) = false := by
          simp [losesExpiry, about, https, first, read]
        intro t₂ _ _ _
        refine ⟨True.intro, isOver _ ?_ t₂⟩
        simp [courseMonitor, kept]

theorem tcpPhase_course (parsed : builder.uri = .ok uri) :
    (tcpPhase builder uri (sentHeaders builder)).Sat (courseMonitor (originOf builder) patient) pace
      (courseEnds builder patient) t Course.start := by
  refine tcpPhase_admitted (fun _ _ _ => ⟨rfl, True.intro, fun _ _ _ => ⟨rfl, True.intro⟩⟩)
    (fun _ _ _ _ admitted => admitted) (fun _ _ _ cut => cut) ?_
  intro t₁ _
  apply Prog.Sat.suspend
  intro t₂ _ _
  refine ⟨rfl, ?_⟩
  intro t₃ _
  refine ⟨True.intro, ?_, fun cut => .inr (.inr (.inl ⟨cut, rfl⟩)), True.intro⟩
  intro answer _
  refine ⟨True.intro, ?_⟩
  rcases answer with err | ⟨parts, incoming⟩
  · exact .inr (.inr (.inr ⟨uri, .error err, parsed, rfl, rfl⟩))
  · exact maybeUpdateAltSvc_course parsed

theorem send_course (builder : RequestBuilder) (patient : Bool) (t : Nat) :
    (send builder).Sat (courseMonitor (originOf builder) patient) pace (courseEnds builder patient) t
      Course.start := by
  refine send_sat (fun err failed => .inl (failed.imp ?_ ?_)) ?_
  · rintro deferred none
    simp [deferred] at none
  · rintro unparsed uri parsed
    simp [unparsed] at parsed
  · intro uri _ parsed
    refine http3Phase_sat parsed (fun _ => tcpPhase_course parsed) ?_
    intro origin body _
    refine courseStages.h3Result (fun _ _ _ => ⟨rfl, True.intro, fun _ _ _ => ⟨rfl, True.intro⟩⟩)
      (fun _ _ _ _ admitted => admitted) (fun _ _ _ cut => cut) (fun _ _ => ⟨rfl, True.intro⟩)
      (fun _ _ => tryHttp3_course) ?_ ?_ ?_ ?_
    · intro t course t' same _
      subst same
      exact tcpPhase_course parsed
    · exact fun _ _ course _ same _ => .inr (.inl (congrArg Course.responded same))
    · exact fun _ course same => .inl (congrArg Course.overflowed same)
    · intro t₁ course same
      subst same
      refine ⟨?_, True.intro⟩
      intro cut
      apply Prog.Sat.perform_bind
      intro t₂ now _ _
      refine ⟨True.intro, Prog.Sat.bind _ (Prog.Sat.ofSync _ (insertNegative_course ?_ ?_))⟩
      · exact fun _ => .inr (.inr (.inl ⟨cut, rfl⟩))
      · exact fun _ => .inl rfl

end Send

/-- The clock is read. -/
def readsClock : Label sig → Option Instant
  | .call .instantNow now => some now
  | _ => none

theorem Course.unchanged (course : Course) :
    course = ⟨course.handed ++ [], course.answers ++ [], course.responded || false,
      course.overflowed || false, course.spoiled || false⟩ := by
  simp only [List.append_nil, Bool.or_false]

theorem courseMonitor_next (origin : Option Origin) (patient : Bool) (course : Course) (t : Nat)
    (label : Label sig) :
    (courseMonitor origin patient).next course t label =
      ⟨course.handed ++ (sentToHyper label).toList, course.answers ++ (hyperAnswered label).toList,
        course.responded || attemptResponds label, course.overflowed || insertPanics label,
        course.spoiled || (readsClock label).any fun now =>
          course.answers.any (losesExpiry origin now)⟩ := by
  cases label with
  | call op ans =>
    cases op with
    | trace point =>
      cases point with
      | http3Outcome o attempt outcome =>
        cases outcome with
        | responded =>
          simp [courseMonitor, sentToHyper, hyperAnswered, attemptResponds, insertPanics, readsClock]
        | failed err => exact course.unchanged
      | _ => exact course.unchanged
    | negativeInsert o now duration =>
      cases ans with
      | error panic =>
        simp [courseMonitor, sentToHyper, hyperAnswered, attemptResponds, insertPanics, readsClock]
      | ok _ => exact course.unchanged
    | instantNow =>
      simp [courseMonitor, sentToHyper, hyperAnswered, attemptResponds, insertPanics, readsClock]
    | _ => exact course.unchanged
  | issue op =>
    cases op with
    | hyperRequest request =>
      simp [courseMonitor, sentToHyper, hyperAnswered, attemptResponds, insertPanics, readsClock]
    | _ => exact course.unchanged
  | done op ans =>
    cases op with
    | hyperRequest request =>
      simp [courseMonitor, sentToHyper, hyperAnswered, attemptResponds, insertPanics, readsClock]
    | _ => exact course.unchanged
  | _ => exact course.unchanged

section Log

variable (origin : Option Origin) (patient : Bool) (log : List (Entry sig))

theorem course_handed :
    ((courseMonitor origin patient).run Course.start log).handed = recordOf sentToHyper log :=
  Monitor.run_collected (fun s t l => congrArg Course.handed (courseMonitor_next _ _ s t l)) _ _

theorem course_answers :
    ((courseMonitor origin patient).run Course.start log).answers = recordOf hyperAnswered log :=
  Monitor.run_collected (fun s t l => congrArg Course.answers (courseMonitor_next _ _ s t l)) _ _

theorem course_responded :
    ((courseMonitor origin patient).run Course.start log).responded =
      log.any fun e => attemptResponds e.label :=
  Monitor.run_flag _ (fun s t l => congrArg Course.responded (courseMonitor_next _ _ s t l)) _ _

theorem course_overflowed :
    ((courseMonitor origin patient).run Course.start log).overflowed =
      log.any fun e => insertPanics e.label :=
  Monitor.run_flag _ (fun s t l => congrArg Course.overflowed (courseMonitor_next _ _ s t l)) _ _

end Log

/-- Whenever the clock is read after hyper has answered, the Alt-Svc header of the
answer asks for a representable expiry. -/
def AnswerFits (origin : Option Origin) (log : List (Entry sig)) : Prop :=
  ∀ before e later now, log = before ++ e :: later → e.label = .call .instantNow now →
    ∀ e' ∈ before, ∀ request parts incoming,
      e'.label = .done (.hyperRequest request) (.ok (parts, incoming)) →
      ∀ o value raw, origin = some o → parts.headers.get HeaderName.altSvc = some value →
        value.toStr = some raw → ExpiryRepresentable raw o.port now

theorem losesExpiry_iff (origin : Option Origin) (now : Instant) (parts : ResponseParts)
    (incoming : BodyHandle) :
    losesExpiry origin now (.ok (parts, incoming)) = false ↔
      ∀ o value raw, origin = some o → parts.headers.get HeaderName.altSvc = some value →
        value.toStr = some raw → ExpiryRepresentable raw o.port now := by
  simp only [losesExpiry]
  cases origin with
  | none => simp
  | some o =>
    cases first : parts.headers.get HeaderName.altSvc with
    | none => simp
    | some value =>
      have named : (∀ o' value' raw, some o = some o' → some value = some value' →
          value'.toStr = some raw → ExpiryRepresentable raw o'.port now) ↔
          ∀ raw, value.toStr = some raw → ExpiryRepresentable raw o.port now := by
        constructor
        · intro all raw
          exact all o value raw rfl rfl
        · intro all o' value' raw sameOrigin sameValue
          cases sameOrigin
          cases sameValue
          exact all raw
      rw [named]
      simp only [AltSvc.parseHeader]
      cases text : value.toStr with
      | none => simp
      | some raw =>
        have returns := parseStr_returns_iff raw now o.port
        cases parsed : AltSvc.parseStr raw now o.port with
        | error panic =>
          simp only [parsed, reduceCtorEq, exists_false, false_iff] at returns
          simp [parsed, returns]
        | ok update =>
          simp only [parsed, Except.ok.injEq, exists_eq', true_iff] at returns
          simp [parsed, returns]

theorem course_spoiled (origin : Option Origin) (patient : Bool) (log : List (Entry sig)) :
    ((courseMonitor origin patient).run Course.start log).spoiled = false ↔
      AnswerFits origin log := by
  induction log using List.reverseRecOn with
  | nil => exact ⟨fun _ before e later now split => by simp at split, fun _ => rfl⟩
  | append_singleton log e ih =>
    rw [Monitor.run_append, Monitor.run, Monitor.run, courseMonitor_next, course_answers]
    simp only [Bool.or_eq_false_iff, ih]
    constructor
    · rintro ⟨fits, last⟩ before e' later now split reads e'' earlier request parts incoming answered
      rcases List.eq_nil_or_concat later with rfl | ⟨later, last', rfl⟩
      · obtain ⟨rfl, same⟩ := List.append_inj' split rfl
        cases same
        simp only [reads, readsClock, Option.any_some, List.any_eq_false, Bool.not_eq_true] at last
        have answer : (.ok (parts, incoming) : HyperAnswer) ∈ recordOf hyperAnswered log :=
          mem_recordOf.mpr ⟨e'', earlier, by simp [answered, hyperAnswered]⟩
        exact (losesExpiry_iff origin now parts incoming).mp (last _ answer)
      · rw [List.concat_eq_append, ← List.cons_append, ← List.append_assoc] at split
        obtain ⟨rest, -⟩ := List.append_inj' split rfl
        exact fits before e' later now rest reads e'' earlier request parts incoming answered
    · intro fits
      constructor
      · intro before e' later now split
        exact fits before e' (later ++ [e]) now (by simp [split])
      · cases reads : readsClock e.label with
        | none => rfl
        | some now =>
          have label : e.label = .call .instantNow now := by
            unfold readsClock at reads
            split at reads
            · rename_i here
              cases reads
              exact here
            · cases reads
          simp only [Option.any_some, List.any_eq_false, Bool.not_eq_true]
          intro answer recorded
          obtain ⟨e', mem, answered⟩ := mem_recordOf.mp recorded
          unfold hyperAnswered at answered
          split at answered
          · rename_i request answer' here
            cases answered
            rcases answer with err | ⟨parts, incoming⟩
            · rfl
            · exact (losesExpiry_iff origin now parts incoming).mpr
                (fits log e [] now rfl label e' mem request parts incoming here)
          · cases answered

end MechanicsHttpClient.Guarantees
