import MechanicsHttpClient.Source.Response
import Mathlib.Tactic.Common

/-!
# Collecting a body under a cap

What both collecting loops return is fixed by the first frame that stops them:
a data frame that takes the total over the cap, an error of the body, or a data
frame that the buffer cannot take. `Reaches` speaks about that frame and the
total before it; `collectWithCap_capped` gives for every outcome the bodies that
have it.

The buffer's own limit of `isize::MAX` bytes is part of that picture: a larger cap
does not make a larger body collectable. `collect_capped` is about all the bodies
and caps that this limit does not meddle with.
-/

namespace MechanicsHttpClient.Guarantees

open MechanicsHttpClient.Source

section Bodies

variable {ε : Type}

def dataOf : Except ε Frame → Bytes
  | .ok frame => frame.intoData.getD []
  | .error _ => []

/-- All data frames, concatenated. -/
def content (body : List (Except ε Frame)) : Bytes := body.flatMap dataOf

def ErrorFree (body : List (Except ε Frame)) : Prop := ∀ item ∈ body, ∃ frame, item = .ok frame

/-- Some item satisfies `stops`, together with the total of the data before it;
up to there nothing is an error and the total, which starts at `total`, stays
within `limit`. -/
def Reaches (limit total : Nat) (body : List (Except ε Frame))
    (stops : Nat → Except ε Frame → Prop) : Prop :=
  ∃ before item later, body = before ++ item :: later ∧ ErrorFree before ∧
    total + (content before).length ≤ limit ∧ stops (total + (content before).length) item

@[simp] theorem content_nil : content ([] : List (Except ε Frame)) = [] := rfl

@[simp] theorem content_cons (item : Except ε Frame) (rest : List (Except ε Frame)) :
    content (item :: rest) = dataOf item ++ content rest := rfl

@[simp] theorem content_append (before later : List (Except ε Frame)) :
    content (before ++ later) = content before ++ content later := List.flatMap_append

theorem errorFree_nil : ErrorFree ([] : List (Except ε Frame)) := nofun

@[simp] theorem errorFree_cons (item : Except ε Frame) (rest : List (Except ε Frame)) :
    ErrorFree (item :: rest) ↔ (∃ frame, item = .ok frame) ∧ ErrorFree rest := by
  simp [ErrorFree]

theorem not_reaches_nil {limit total : Nat} {stops : Nat → Except ε Frame → Prop} :
    ¬ Reaches limit total [] stops := by
  rintro ⟨before, item, later, split, -⟩
  simp at split

/-- The first item stops, or it is a frame that fits and some later item stops. -/
theorem reaches_cons {limit total : Nat} {item : Except ε Frame} {rest : List (Except ε Frame)}
    {stops : Nat → Except ε Frame → Prop} (within : total ≤ limit) :
    Reaches limit total (item :: rest) stops ↔
      stops total item ∨ (∃ frame, item = .ok frame) ∧
        Reaches limit (total + (dataOf item).length) rest stops := by
  constructor
  · rintro ⟨before, stopper, later, split, sound, bound, here⟩
    cases before with
    | nil =>
      simp only [List.nil_append, List.cons.injEq] at split
      obtain ⟨rfl, rfl⟩ := split
      exact .inl (by simpa using here)
    | cons first before =>
      simp only [List.cons_append, List.cons.injEq] at split
      obtain ⟨rfl, rfl⟩ := split
      obtain ⟨isFrame, sound⟩ := (errorFree_cons _ _).mp sound
      simp only [content_cons, List.length_append, ← Nat.add_assoc] at bound here
      exact .inr ⟨isFrame, before, stopper, later, rfl, sound, bound, here⟩
  · rintro (here | ⟨isFrame, before, stopper, later, rfl, sound, bound, here⟩)
    · exact ⟨[], item, rest, rfl, errorFree_nil, by simpa using within, by simpa using here⟩
    · refine ⟨item :: before, stopper, later, rfl, (errorFree_cons _ _).mpr ⟨isFrame, sound⟩, ?_, ?_⟩
      · simpa [Nat.add_assoc] using bound
      · simpa [Nat.add_assoc] using here

/-- Once the total has passed the limit nothing is reached any more. -/
theorem not_reaches_of_over {limit total : Nat} {body : List (Except ε Frame)}
    {stops : Nat → Except ε Frame → Prop} (exceeds : limit < total) :
    ¬ Reaches limit total body stops := by
  rintro ⟨before, item, later, -, -, bound, -⟩
  omega

end Bodies

section Collecting

variable {ε : Type} (mapError : ε → Error) (cap : Usize)

/-- What the buffer can reach. -/
def roomFor (cap : Usize) : Nat := min cap.toNat isizeMax

/-- The frame takes the total over the cap; `usize::MAX` is never passed. -/
def PassesCap (seen : Nat) (item : Except ε Frame) : Prop :=
  ∃ data, item = .ok (.data data) ∧ cap.toNat < seen + data.length ∧ cap.toNat ≠ usizeMax

/-- The frame passes the check against the cap, but not into the buffer. -/
def PassesBuffer (seen : Nat) (item : Except ε Frame) : Prop :=
  ∃ data, item = .ok (.data data) ∧ isizeMax < seen + data.length ∧ ¬ PassesCap cap seen item

/-- The item makes the loop return `err`. -/
def EndsWith (err : Error) (seen : Nat) (item : Except ε Frame) : Prop :=
  (PassesCap cap seen item ∧ err = .bodyTooLarge cap.toNat seen) ∨
    ∃ e, item = .error e ∧ err = mapError e

variable {mapError cap}

theorem lt_saturatingAdd_iff {seen size : Nat} :
    cap.toNat < saturatingAdd seen size ↔ cap.toNat < seen + size ∧ cap.toNat ≠ usizeMax := by
  have bounded : cap.toNat ≤ usizeMax := by
    have below := cap.toNat_lt
    unfold usizeMax
    omega
  unfold saturatingAdd
  omega

variable (mapError cap) in
/-- The three things a turn can do, each with the items that make it do so. -/
theorem collectTurn_cases (buf : BytesMut) (item : Except ε Frame) :
    (∃ buf', collectTurn mapError cap buf item = .next buf' ∧ (∃ frame, item = .ok frame) ∧
        buf'.bytes = buf.bytes ++ dataOf item ∧
        (buf.len ≤ cap.toNat → buf'.len ≤ cap.toNat) ∧ ¬ PassesBuffer cap buf.len item ∧
        ∀ err, ¬ EndsWith mapError cap err buf.len item) ∨
      (∃ err, collectTurn mapError cap buf item = .leave (.error err) ∧
        (∀ err', EndsWith mapError cap err' buf.len item ↔ err' = err) ∧
        ¬ PassesBuffer cap buf.len item ∧
        ((∃ frame, item = .ok frame) → roomFor cap < buf.len + (dataOf item).length)) ∨
      (collectTurn mapError cap buf item = .panic ∧ PassesBuffer cap buf.len item ∧
        (∀ err, ¬ EndsWith mapError cap err buf.len item) ∧
        roomFor cap < buf.len + (dataOf item).length) := by
  cases item with
  | error e =>
    refine .inr (.inl ⟨mapError e, rfl, ?_, ?_, ?_⟩)
    · simp [EndsWith, PassesCap]
    · simp [PassesBuffer]
    · nofun
  | ok frame =>
    cases frame with
    | trailers headers =>
      refine .inl ⟨buf, rfl, ⟨_, rfl⟩, ?_, id, ?_, ?_⟩
      · simp [dataOf, Frame.intoData]
      · simp [PassesBuffer]
      · simp [EndsWith, PassesCap]
    | data data =>
      have passes : (PassesCap cap buf.len (.ok (.data data) : Except ε Frame)) ↔
          cap.toNat < saturatingAdd buf.len data.length := by
        rw [lt_saturatingAdd_iff]
        simp [PassesCap]
      have size : dataOf (.ok (.data data) : Except ε Frame) = data := rfl
      have grown : (buf.bytes ++ data).length = buf.len + data.length := List.length_append
      by_cases exceeds : cap.toNat < saturatingAdd buf.len data.length
      · refine .inr (.inl ⟨.bodyTooLarge cap.toNat buf.len, ?_, ?_, ?_, ?_⟩)
        · simp only [collectTurn, Frame.intoData, gt_iff_lt, if_pos exceeds]
        · simp [EndsWith, passes, exceeds]
        · simp [PassesBuffer, passes, exceeds]
        · have beyond := (lt_saturatingAdd_iff.mp exceeds).1
          rw [size]
          unfold roomFor
          omega
      · by_cases fits : (buf.bytes ++ data).length ≤ isizeMax
        · refine .inl ⟨⟨buf.bytes ++ data, fits⟩, ?_, ⟨_, rfl⟩, ?_, ?_, ?_, ?_⟩
          · simp only [collectTurn, Frame.intoData, gt_iff_lt, if_neg exceeds,
              BytesMut.extendFromSlice, dif_pos fits]
          · rw [size]
          · -- below `isize::MAX` the addition cannot have saturated
            intro _
            rw [lt_saturatingAdd_iff] at exceeds
            unfold isizeMax at fits
            unfold usizeMax at exceeds
            simp only [BytesMut.len] at exceeds grown ⊢
            omega
          · simp only [PassesBuffer, passes]
            rintro ⟨data', same, beyond, -⟩
            simp only [Except.ok.injEq, Frame.data.injEq] at same
            subst same
            omega
          · simp [EndsWith, passes, exceeds]
        · refine .inr (.inr ⟨?_, ?_, ?_, ?_⟩)
          · simp only [collectTurn, Frame.intoData, gt_iff_lt, if_neg exceeds,
              BytesMut.extendFromSlice, dif_neg fits]
          · exact ⟨data, rfl, by omega, by rw [passes]; exact exceeds⟩
          · simp [EndsWith, passes, exceeds]
          · rw [size]
            unfold roomFor
            omega

theorem collectLoop_ok (body : List (Except ε Frame)) :
    ∀ (buf : BytesMut) (out : Bytes), buf.len ≤ cap.toNat →
      (collectLoop mapError cap buf body = some (.ok out) ↔
        ErrorFree body ∧ buf.len + (content body).length ≤ roomFor cap ∧
          out = buf.bytes ++ content body) := by
  induction body with
  | nil =>
    intro buf out within
    have room : buf.len ≤ roomFor cap := Nat.le_min.mpr ⟨within, buf.fits⟩
    simp [collectLoop, BytesMut.freeze, errorFree_nil, room, eq_comm]
  | cons item rest ih =>
    intro buf out within
    simp only [errorFree_cons, content_cons, List.length_append]
    rcases collectTurn_cases mapError cap buf item with
      ⟨buf', turn, isFrame, grown, kept, -, -⟩ | ⟨err, turn, -, -, exceeds⟩ | ⟨turn, -, -, exceeds⟩
    · have size : buf'.len = buf.len + (dataOf item).length := by
        simp only [BytesMut.len, grown, List.length_append]
      simp only [collectLoop, turn, ih buf' out (kept within), size, grown, isFrame, true_and,
        Nat.add_assoc, List.append_assoc]
    · simp only [collectLoop, turn, Option.some.injEq, reduceCtorEq, false_iff]
      rintro ⟨⟨isFrame, -⟩, room, -⟩
      have beyond := exceeds isFrame
      omega
    · simp only [collectLoop, turn, reduceCtorEq, false_iff]
      rintro ⟨-, room, -⟩
      omega

theorem collectLoop_error (body : List (Except ε Frame)) :
    ∀ (buf : BytesMut) (err : Error), buf.len ≤ cap.toNat →
      (collectLoop mapError cap buf body = some (.error err) ↔
        Reaches (roomFor cap) buf.len body (EndsWith mapError cap err)) := by
  induction body with
  | nil =>
    intro buf err within
    simp [collectLoop, not_reaches_nil]
  | cons item rest ih =>
    intro buf err within
    have room : buf.len ≤ roomFor cap := Nat.le_min.mpr ⟨within, buf.fits⟩
    rw [reaches_cons room]
    rcases collectTurn_cases mapError cap buf item with
      ⟨buf', turn, isFrame, grown, kept, -, silent⟩ | ⟨err', turn, ends, -, exceeds⟩ |
      ⟨turn, -, silent, exceeds⟩
    · have size : buf'.len = buf.len + (dataOf item).length := by
        simp only [BytesMut.len, grown, List.length_append]
      simp only [collectLoop, turn, ih buf' err (kept within), size, isFrame, true_and,
        silent err, false_or]
    · simp only [collectLoop, turn, Option.some.injEq, Except.error.injEq, ends]
      constructor
      · exact fun same => .inl same.symm
      · rintro (same | ⟨isFrame, reached⟩)
        · exact same.symm
        · exact absurd reached (not_reaches_of_over (exceeds isFrame))
    · simp [collectLoop, turn, silent err, not_reaches_of_over exceeds]

theorem collectLoop_panics (body : List (Except ε Frame)) :
    ∀ buf : BytesMut, buf.len ≤ cap.toNat →
      (collectLoop mapError cap buf body = none ↔
        Reaches (roomFor cap) buf.len body (PassesBuffer cap)) := by
  induction body with
  | nil =>
    intro buf within
    simp [collectLoop, not_reaches_nil]
  | cons item rest ih =>
    intro buf within
    have room : buf.len ≤ roomFor cap := Nat.le_min.mpr ⟨within, buf.fits⟩
    rw [reaches_cons room]
    rcases collectTurn_cases mapError cap buf item with
      ⟨buf', turn, isFrame, grown, kept, calm, -⟩ | ⟨err, turn, -, calm, exceeds⟩ |
      ⟨turn, overflows, -, -⟩
    · have size : buf'.len = buf.len + (dataOf item).length := by
        simp only [BytesMut.len, grown, List.length_append]
      simp only [collectLoop, turn, ih buf' (kept within), size, isFrame, true_and, calm, false_or]
    · simp only [collectLoop, turn, reduceCtorEq, calm, false_or, false_iff]
      rintro ⟨isFrame, reached⟩
      exact not_reaches_of_over (exceeds isFrame) reached
    · simp [collectLoop, turn, overflows]

variable (mapError cap) in
/-- The buffers at the head of every turn of the loop. -/
def heldBuffers : BytesMut → List (Except ε Frame) → List BytesMut
  | buf, [] => [buf]
  | buf, item :: rest =>
    match collectTurn mapError cap buf item with
    | .next buf' => buf :: heldBuffers buf' rest
    | _ => [buf]

theorem heldBuffers_le (body : List (Except ε Frame)) :
    ∀ buf : BytesMut, buf.len ≤ cap.toNat →
      ∀ held ∈ heldBuffers mapError cap buf body, held.len ≤ cap.toNat := by
  induction body with
  | nil =>
    intro buf within held mem
    rw [List.mem_singleton.mp mem]
    exact within
  | cons item rest ih =>
    intro buf within held mem
    rcases collectTurn_cases mapError cap buf item with
      ⟨buf', turn, -, -, kept, -, -⟩ | ⟨err, turn, -, -, -⟩ | ⟨turn, -, -, -⟩
    · simp only [heldBuffers, turn, List.mem_cons] at mem
      rcases mem with rfl | mem
      · exact within
      · exact ih buf' (kept within) held mem
    · simp only [heldBuffers, turn, List.mem_singleton] at mem
      exact mem ▸ within
    · simp only [heldBuffers, turn, List.mem_singleton] at mem
      exact mem ▸ within

end Collecting

/-- The outcome of collecting `body` under `cap`. -/
structure Capped {ε : Type} (mapError : ε → Error) (cap : Usize) (body : List (Except ε Frame))
    (outcome : Option (Except Error Bytes)) : Prop where
  ok : ∀ out, outcome = some (.ok out) ↔
    ErrorFree body ∧ (content body).length ≤ cap.toNat ∧ (content body).length ≤ isizeMax ∧
      out = content body
  error : ∀ err, outcome = some (.error err) ↔
    Reaches (roomFor cap) 0 body (EndsWith mapError cap err)
  panics : outcome = none ↔ Reaches (roomFor cap) 0 body (PassesBuffer cap)
  buffer : ∀ held ∈ heldBuffers mapError cap .new body, held.len ≤ cap.toNat

theorem collectWithCap_capped {ε : Type} (mapError : ε → Error) (cap : Usize)
    (body : List (Except ε Frame)) :
    Capped mapError cap body (collectWithCap mapError body cap) := by
  have empty : BytesMut.new.len ≤ cap.toNat := Nat.zero_le _
  constructor
  case ok =>
    intro out
    have spec : collectLoop mapError cap .new body = some (.ok out) ↔ _ :=
      collectLoop_ok body .new out empty
    simpa [collectWithCap, BytesMut.new, BytesMut.len, roomFor, Nat.le_min, and_assoc] using spec
  case error => exact fun err => collectLoop_error body .new err empty
  case panics => exact collectLoop_panics body .new empty
  case buffer => exact heldBuffers_le body .new empty

/-- What the loop buffers stays within `isize::MAX`: up to the first error, whatever data
passes the check against the cap fits. -/
def FitsBuffer {ε : Type} (cap : Usize) (body : List (Except ε Frame)) : Prop :=
  ∀ before data later, body = before ++ .ok (.data data) :: later → ErrorFree before →
    saturatingAdd (content before).length data.length ≤ cap.toNat →
    (content before).length + data.length ≤ isizeMax

/-- So it does where the cap or the content does. -/
theorem fitsBuffer_of_small {ε : Type} {cap : Usize} {body : List (Except ε Frame)}
    (small : cap.toNat ≤ isizeMax ∨ (content body).length ≤ isizeMax) : FitsBuffer cap body := by
  rintro before data later rfl - accepted
  have room : isizeMax < usizeMax := by decide
  have size : (content before).length + data.length ≤
      (content (before ++ .ok (.data data) :: later)).length := by
    simp only [content_append, content_cons, List.length_append, dataOf, Frame.intoData,
      Option.getD_some]
    omega
  rcases small with small | small
  · unfold saturatingAdd at accepted
    omega
  · omega

theorem not_passesBuffer {ε : Type} {cap : Usize} {body : List (Except ε Frame)}
    (fits : FitsBuffer cap body) : ¬ Reaches (roomFor cap) 0 body (PassesBuffer cap) := by
  rintro ⟨before, item, later, split, sound, -, data, rfl, exceeds, accepted⟩
  rw [Nat.zero_add] at exceeds accepted
  have checked : saturatingAdd (content before).length data.length ≤ cap.toNat := by
    refine Nat.le_of_not_lt fun refused => accepted ?_
    exact ⟨data, rfl, lt_saturatingAdd_iff.mp refused⟩
  have bound := fits before data later split sound checked
  omega

/-- An error-free body that fits is refused exactly when it is too large. -/
theorem Capped.refused_iff {ε : Type} {mapError : ε → Error} {cap : Usize}
    {body : List (Except ε Frame)} {outcome : Option (Except Error Bytes)}
    (h : Capped mapError cap body outcome) (sound : ErrorFree body) (fits : FitsBuffer cap body) :
    (∃ seen, outcome = some (.error (.bodyTooLarge cap.toNat seen))) ↔
      cap.toNat < (content body).length := by
  constructor
  · rintro ⟨seen, refused⟩
    obtain ⟨before, item, later, split, -, -, stopped⟩ := (h.error _).mp refused
    rcases stopped with ⟨⟨data, rfl, exceeds, -⟩, -⟩ | ⟨e, rfl, -⟩
    · rw [split]
      simp only [content_append, content_cons, List.length_append, dataOf, Frame.intoData,
        Option.getD_some]
      omega
    · obtain ⟨frame, isFrame⟩ := sound (.error e) (by simp [split])
      cases isFrame
  · intro exceeds
    cases result : outcome with
    | none => exact absurd (h.panics.mp result) (not_passesBuffer fits)
    | some returned =>
      cases returned with
      | ok out =>
        have bound := ((h.ok out).mp result).2.1
        omega
      | error err =>
        obtain ⟨before, item, later, split, -, -, stopped⟩ := (h.error err).mp result
        rcases stopped with ⟨-, rfl⟩ | ⟨e, rfl, -⟩
        · exact ⟨_, rfl⟩
        · obtain ⟨frame, isFrame⟩ := sound (.error e) (by simp [split])
          cases isFrame

/-- The verdict and the bytes of an error-free body are those of its content. -/
structure SameVerdict (cap : Usize) (outcome outcome' : Option (Except Error Bytes)) : Prop where
  ok : ∀ out, outcome = some (.ok out) ↔ outcome' = some (.ok out)
  refused : (∃ seen, outcome = some (.error (.bodyTooLarge cap.toNat seen))) ↔
    ∃ seen, outcome' = some (.error (.bodyTooLarge cap.toNat seen))

def CutIndependent (cap : Usize) : Prop :=
  ∀ (ε ε' : Type) (mapError : ε → Error) (mapError' : ε' → Error)
    (body : List (Except ε Frame)) (body' : List (Except ε' Frame)),
    ErrorFree body → ErrorFree body' → content body = content body' →
    FitsBuffer cap body → FitsBuffer cap body' →
    SameVerdict cap (collectWithCap mapError body cap) (collectWithCap mapError' body' cap)

theorem cutIndependent (cap : Usize) : CutIndependent cap := by
  intro ε ε' mapError mapError' body body' sound sound' same fits fits'
  have capped := collectWithCap_capped mapError cap body
  have capped' := collectWithCap_capped mapError' cap body'
  constructor
  case ok =>
    intro out
    rw [capped.ok, capped'.ok, same]
    simp only [sound, sound', true_and]
  case refused => rw [capped.refused_iff sound fits, capped'.refused_iff sound' fits', same]

/-- The error of the body itself is no `BodyTooLarge`. -/
def ForeignErrors {ε : Type} (mapError : ε → Error) (body : List (Except ε Frame)) : Prop :=
  ∀ e, .error e ∈ body → ∀ limit seen, mapError e ≠ .bodyTooLarge limit seen

theorem mapHyperBodyError_foreign (body : List (Except HyperError Frame)) :
    ForeignErrors mapHyperBodyError body := by
  intro e _ limit seen
  unfold mapHyperBodyError
  dsimp only
  split
  · nofun
  · nofun

/-- `usize::MAX` is no cap. -/
def Uncapped (cap : Usize) : Prop :=
  cap.toNat = usizeMax → ∀ (ε : Type) (mapError : ε → Error) (body : List (Except ε Frame)),
    ForeignErrors mapError body →
    ∀ limit seen, collectWithCap mapError body cap ≠ some (.error (.bodyTooLarge limit seen))

theorem uncapped (cap : Usize) : Uncapped cap := by
  intro top ε mapError body foreign limit seen refused
  obtain ⟨before, item, later, split, -, -, stopped⟩ :=
    ((collectWithCap_capped mapError cap body).error _).mp refused
  rcases stopped with ⟨⟨data, -, -, notTop⟩, -⟩ | ⟨e, rfl, same⟩
  · exact notTop top
  · exact foreign e (by simp [split]) limit seen same.symm

/-- Both loops meet the one specification, which depends on the content alone,
and `usize::MAX` never refuses a body. -/
theorem collect_under_cap (cap : Usize) :
    (∀ body, Capped mapHyperBodyError cap body (collectBodyWithCap body cap)) ∧
      (∀ body, Capped id cap body (collectMhcBodyWithCap body cap)) ∧
      CutIndependent cap ∧ Uncapped cap :=
  ⟨fun body => collectWithCap_capped _ cap body, fun body => collectWithCap_capped _ cap body,
    cutIndependent cap, uncapped cap⟩

/-- A data frame before any error takes the total over the cap; `seen` is the total
before the first one that does. -/
def TakesOver {ε : Type} (cap : Usize) (body : List (Except ε Frame)) (seen : Nat) : Prop :=
  ∃ before data later, body = before ++ .ok (.data data) :: later ∧ ErrorFree before ∧
    (content before).length = seen ∧ seen ≤ cap.toNat ∧ cap.toNat < seen + data.length

/-- The error ends the body, and no frame before it takes the total over the cap. -/
def FailsWithin {ε : Type} (cap : Usize) (body : List (Except ε Frame)) (e : ε) : Prop :=
  ∃ before later, body = before ++ .error e :: later ∧ ErrorFree before ∧
    (content before).length ≤ cap.toNat

/-- The outcome of collecting a body that the buffer can hold as far as the cap goes. -/
structure Collects {ε : Type} (mapError : ε → Error) (cap : Usize) (body : List (Except ε Frame))
    (outcome : Option (Except Error Bytes)) : Prop where
  ok : ∀ out, outcome = some (.ok out) ↔
    ErrorFree body ∧ (content body).length ≤ cap.toNat ∧ out = content body
  error : ∀ err, outcome = some (.error err) ↔
    (∃ seen, TakesOver cap body seen ∧ err = .bodyTooLarge cap.toNat seen) ∨
      ∃ e, FailsWithin cap body e ∧ err = mapError e
  tooLarge : ForeignErrors mapError body → ∀ seen,
    outcome = some (.error (.bodyTooLarge cap.toNat seen)) ↔ TakesOver cap body seen
  returns : outcome ≠ none
  buffer : ∀ held ∈ heldBuffers mapError cap .new body, held.len ≤ cap.toNat

section Collects

variable {ε : Type} {mapError : ε → Error} {cap : Usize} {body : List (Except ε Frame)}
  {outcome : Option (Except Error Bytes)}

/-- What has passed the checks is in the buffer. -/
theorem FitsBuffer.passed (fits : FitsBuffer cap body) (before : List (Except ε Frame)) :
    ∀ later, body = before ++ later → ErrorFree before → (content before).length ≤ cap.toNat →
      (content before).length ≤ isizeMax := by
  induction before using List.reverseRecOn with
  | nil => exact fun _ _ _ _ => Nat.zero_le _
  | append_singleton before item ih =>
    intro later split sound within
    rw [List.append_assoc] at split
    have sound' : ErrorFree before := fun item mem => sound item (List.mem_append_left _ mem)
    obtain ⟨frame, rfl⟩ := sound item (List.mem_append_right _ List.mem_cons_self)
    simp only [content_append, content_cons, content_nil, List.append_nil,
      List.length_append] at within ⊢
    cases frame with
    | data data =>
      refine fits before data later split sound' ?_
      exact (Nat.min_le_left _ _).trans within
    | trailers headers => exact ih _ split sound' within

/-- A frame that passes the cap, where what is buffered stays within the buffer. -/
theorem passesCap_iff (fits : FitsBuffer cap body) {before later : List (Except ε Frame)}
    {data : Bytes} (split : body = before ++ .ok (.data data) :: later) (sound : ErrorFree before) :
    PassesCap cap (content before).length (.ok (.data data) : Except ε Frame) ↔
      cap.toNat < (content before).length + data.length := by
  constructor
  · rintro ⟨data', same, exceeds, -⟩
    cases same
    exact exceeds
  · intro exceeds
    refine ⟨data, rfl, exceeds, ?_⟩
    intro top
    have room : isizeMax < usizeMax := by decide
    have checked : saturatingAdd (content before).length data.length ≤ cap.toNat := by
      rw [top]
      exact Nat.min_le_right _ _
    have bound := fits before data later split sound checked
    omega

theorem takesOver_iff (fits : FitsBuffer cap body) (seen : Nat) :
    TakesOver cap body seen ↔
      Reaches (roomFor cap) 0 body fun total item => PassesCap cap total item ∧ seen = total := by
  constructor
  · rintro ⟨before, data, later, split, sound, rfl, bound, exceeds⟩
    have room : (content before).length ≤ roomFor cap :=
      Nat.le_min.mpr ⟨bound, fits.passed before _ split sound bound⟩
    refine ⟨before, _, later, split, sound, by omega, ?_⟩
    rw [Nat.zero_add]
    exact ⟨(passesCap_iff fits split sound).mpr exceeds, rfl⟩
  · rintro ⟨before, item, later, split, sound, bound, passes, seen_eq⟩
    rw [Nat.zero_add] at bound passes seen_eq
    obtain ⟨data, rfl, exceeds, -⟩ := passes
    have capped : roomFor cap ≤ cap.toNat := Nat.min_le_left _ _
    exact ⟨before, data, later, split, sound, seen_eq.symm, by omega, by omega⟩

theorem failsWithin_iff (fits : FitsBuffer cap body) (e : ε) :
    FailsWithin cap body e ↔ Reaches (roomFor cap) 0 body fun _ item => item = .error e := by
  constructor
  · rintro ⟨before, later, split, sound, bound⟩
    refine ⟨before, _, later, split, sound, ?_, rfl⟩
    rw [Nat.zero_add]
    exact Nat.le_min.mpr ⟨bound, fits.passed before _ split sound bound⟩
  · rintro ⟨before, item, later, split, sound, bound, rfl⟩
    rw [Nat.zero_add] at bound
    exact ⟨before, later, split, sound, bound.trans (Nat.min_le_left _ _)⟩

theorem Capped.error_iff (h : Capped mapError cap body outcome) (fits : FitsBuffer cap body)
    (err : Error) : outcome = some (.error err) ↔
      (∃ seen, TakesOver cap body seen ∧ err = .bodyTooLarge cap.toNat seen) ∨
        ∃ e, FailsWithin cap body e ∧ err = mapError e := by
  simp only [h.error, takesOver_iff fits, failsWithin_iff fits]
  constructor
  · rintro ⟨before, item, later, split, sound, bound, ⟨passes, same⟩ | ⟨e, isError, same⟩⟩
    · exact .inl ⟨_, ⟨before, item, later, split, sound, bound, passes, rfl⟩, same⟩
    · exact .inr ⟨e, ⟨before, item, later, split, sound, bound, isError⟩, same⟩
  · rintro (⟨seen, ⟨before, item, later, split, sound, bound, passes, rfl⟩, same⟩ |
      ⟨e, ⟨before, item, later, split, sound, bound, isError⟩, same⟩)
    · exact ⟨before, item, later, split, sound, bound, .inl ⟨passes, same⟩⟩
    · exact ⟨before, item, later, split, sound, bound, .inr ⟨e, isError, same⟩⟩

theorem Capped.collects (h : Capped mapError cap body outcome) (fits : FitsBuffer cap body) :
    Collects mapError cap body outcome := by
  constructor
  case ok =>
    intro out
    rw [h.ok]
    constructor
    · rintro ⟨sound, bound, -, same⟩
      exact ⟨sound, bound, same⟩
    · rintro ⟨sound, bound, same⟩
      exact ⟨sound, bound, fits.passed body [] (List.append_nil body).symm sound bound, same⟩
  case error => exact h.error_iff fits
  case tooLarge =>
    intro foreign seen
    rw [h.error_iff fits]
    constructor
    · rintro (⟨seen', taken, same⟩ | ⟨e, ⟨before, later, split, -⟩, same⟩)
      · cases same
        exact taken
      · exact absurd same.symm (foreign e (by simp [split]) _ _)
    · exact fun taken => .inl ⟨seen, taken, rfl⟩
  case returns => exact fun panics => not_passesBuffer fits (h.panics.mp panics)
  case buffer => exact h.buffer

end Collects

/-- `bytes()` has no cap. The errors of hyper's bodies are never `BodyTooLarge`. -/
def NeverTooLarge (cap : Usize) : Prop :=
  cap.toNat = usizeMax →
    (∀ body limit seen,
      collectBodyWithCap body cap ≠ some (.error (.bodyTooLarge limit seen))) ∧
    ∀ body, ForeignErrors id body → ∀ limit seen,
      collectMhcBodyWithCap body cap ≠ some (.error (.bodyTooLarge limit seen))

/-- While what is buffered stays within `isize::MAX`, both loops return the data of an
error-free body within the cap, refuse a body at the first frame that takes it over the
cap, and pass on the body's error otherwise, which hyper's never is a refusal; they never
hold more than the cap, and of an error-free body only the content matters. -/
theorem collect_capped (cap : Usize) :
    (∀ body, FitsBuffer cap body →
        Collects mapHyperBodyError cap body (collectBodyWithCap body cap) ∧
          ForeignErrors mapHyperBodyError body) ∧
      (∀ body, FitsBuffer cap body → Collects id cap body (collectMhcBodyWithCap body cap)) ∧
      CutIndependent cap ∧ NeverTooLarge cap := by
  obtain ⟨hyper, mhc, cut, never⟩ := collect_under_cap cap
  refine ⟨fun body fits => ⟨(hyper body).collects fits, mapHyperBodyError_foreign body⟩,
    fun body fits => (mhc body).collects fits, cut, fun top => ⟨?_, ?_⟩⟩
  · exact fun body => never top _ _ body (mapHyperBodyError_foreign body)
  · exact fun body foreign => never top _ _ body foreign

/-- Two bytes, trailers and a third byte under a cap of two. -/
theorem collect_capped_third_byte :
    collectBodyWithCap [.ok (.data [1, 2]), .ok (.trailers .empty), .ok (.data [3])] 2 =
      some (.error (.bodyTooLarge 2 2)) := by
  obtain ⟨collects, foreign⟩ := (collect_capped 2).1 _ (fitsBuffer_of_small (.inl (by decide)))
  exact (collects.tooLarge foreign 2).mpr ⟨[.ok (.data [1, 2]), .ok (.trailers .empty)], [3], [],
    rfl, by simp [errorFree_nil], rfl, by decide, by decide⟩

end MechanicsHttpClient.Guarantees
