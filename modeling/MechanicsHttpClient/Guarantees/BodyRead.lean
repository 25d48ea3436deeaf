import MechanicsHttpClient.Guarantees.BodyCap
import MechanicsHttpClient.Guarantees.BodyDelivery

/-!
# Reading an HTTP/3 body to its end

`bytes_with_cap` drives the collecting loop with the body of http3 itself, one
`poll_frame` after the other. The future has a closed form (`turns_eq`): it is where
the loop is after the frames that the stream has sent so far. So it returns what the
loop returns on all of them, never holds more than the cap, and gives the stream up
exactly when it stops early. Giving it up may panic in the library (`givenUp`), and
then the future panics in place of returning. Of the futures that are dropped only one
that has never been polled gives its stream up: any other is suspended in the middle of
a read.
-/

namespace MechanicsHttpClient.Guarantees

open MechanicsHttpClient.Source

section Loop

variable {ε : Type} (mapError : ε → Error) (cap : Usize)

/-- Where the loop is after these frames. -/
def collected : BytesMut → List (Except ε Frame) → Turn
  | buf, [] => .next buf
  | buf, item :: rest =>
    match collectTurn mapError cap buf item with
    | .next buf => collected buf rest
    | .leave result => .leave result
    | .panic => .panic

/-- What the loop returns when there are no more frames. -/
def returnedBy : Turn → Option (Except Error Bytes)
  | .next buf => some (.ok buf.freeze)
  | .leave result => some result
  | .panic => none

theorem collectLoop_eq (body : List (Except ε Frame)) :
    ∀ buf : BytesMut,
      collectLoop mapError cap buf body = returnedBy (collected mapError cap buf body) := by
  induction body with
  | nil => exact fun buf => rfl
  | cons item rest ih =>
    intro buf
    simp only [collectLoop, collected]
    cases collectTurn mapError cap buf item with
    | next buf => exact ih buf
    | leave result => rfl
    | panic => rfl

variable {mapError cap}

theorem collected_append (before later : List (Except ε Frame)) {buf held : BytesMut}
    (going : collected mapError cap buf before = .next held) :
    collected mapError cap buf (before ++ later) = collected mapError cap held later := by
  induction before generalizing buf with
  | nil =>
    cases going
    rfl
  | cons item rest ih =>
    simp only [List.cons_append, collected] at going ⊢
    cases turn : collectTurn mapError cap buf item with
    | next grown =>
      rw [turn] at going
      exact ih going
    | leave result => simp [turn] at going
    | panic => simp [turn] at going

/-- A loop that has been left stays so. -/
theorem collected_stopped (before later : List (Except ε Frame)) {buf : BytesMut}
    (stopped : ∀ held, collected mapError cap buf before ≠ .next held) :
    collected mapError cap buf (before ++ later) = collected mapError cap buf before := by
  induction before generalizing buf with
  | nil => exact absurd rfl (stopped buf)
  | cons item rest ih =>
    simp only [List.cons_append, collected] at stopped ⊢
    cases turn : collectTurn mapError cap buf item with
    | next grown =>
      simp only [turn] at stopped
      exact ih stopped
    | leave result => rfl
    | panic => rfl

/-- A loop that goes on holds all the data, and less than the cap. -/
theorem collected_next (body : List (Except ε Frame)) {buf held : BytesMut}
    (within : buf.len ≤ cap.toNat) (going : collected mapError cap buf body = .next held) :
    held.bytes = buf.bytes ++ content body ∧ ErrorFree body ∧ held.len ≤ cap.toNat := by
  induction body generalizing buf with
  | nil =>
    cases going
    exact ⟨by simp, errorFree_nil, within⟩
  | cons item rest ih =>
    simp only [collected] at going
    rcases collectTurn_cases mapError cap buf item with
      ⟨grown, turn, isFrame, extended, kept, -, -⟩ | ⟨err, turn, -, -, -⟩ | ⟨turn, -, -, -⟩
    · rw [turn] at going
      obtain ⟨all, sound, bound⟩ := ih (kept within) going
      refine ⟨?_, (errorFree_cons item rest).mpr ⟨isFrame, sound⟩, bound⟩
      rw [all, extended, List.append_assoc, content_cons]
    · simp [turn] at going
    · simp [turn] at going

end Loop

/-- The frame that a chunk makes. -/
def chunkItem (data : Bytes) : Except Error Frame := .ok (.data data)

/-- The frame or the error that an answer makes. -/
def itemOf : RecvData → List (Except Error Frame)
  | .pending => []
  | .chunk buf => [chunkItem buf]
  | .endOfData => []
  | .failed message => [.error (.cancelled message)]

/-- What the first `n` answers of a stream make, up to its end. -/
def framesBefore (answers : StreamAnswers) (n : Nat) : List (Except Error Frame) :=
  (List.range n).flatMap fun k => if endedBefore answers k then [] else itemOf (answers.recvData k)

/-- The data that the stream has sent would not fit. -/
def Exceeds (cap : Usize) (answers : StreamAnswers) (n : Nat) : Prop :=
  roomFor cap < (content (framesBefore answers n)).length

instance (cap : Usize) (answers : StreamAnswers) (n : Nat) : Decidable (Exceeds cap answers n) :=
  inferInstanceAs (Decidable (_ < _))

/-- The stream has ended, or its data was too much. -/
def Settled (cap : Usize) (answers : StreamAnswers) (n : Nat) : Prop :=
  endedBefore answers n ∨ Exceeds cap answers n

instance (cap : Usize) (answers : StreamAnswers) (n : Nat) : Decidable (Settled cap answers n) :=
  inferInstanceAs (Decidable (_ ∨ _))

/-- How the stream has been given up in the first `n` turns: at the chunk that was too
much, if there was one. -/
def givenUp (cap : Usize) (answers : StreamAnswers) : Nat → List StreamEvent × CallEnd
  | 0 => ([], .returned)
  | n + 1 =>
    if Exceeds cap answers n then givenUp cap answers n
    else if Exceeds cap answers (n + 1) then cancelRequestStream ⟨answers, n + 1⟩
    else ([], .returned)

/-- A result, unless dropping the body has panicked. -/
def resultAfter : CallEnd → Option (Except Error Bytes) → Option (Except Error Bytes)
  | .returned, result => result
  | .panicked, _ => none

theorem leaving_eq (body : H3ResponseBody) (result : Option (Except Error Bytes)) :
    CollectMhcBody.leaving body result =
      (body.drop.1, .returned (resultAfter body.drop.2 result)) := by
  unfold CollectMhcBody.leaving
  split
  · rename_i events dropped
    rw [dropped]
    rfl
  · rename_i events dropped
    rw [dropped]
    rfl

section Frames

variable {answers : StreamAnswers}

theorem framesBefore_succ (n : Nat) :
    framesBefore answers (n + 1) =
      framesBefore answers n ++
        if endedBefore answers n then [] else itemOf (answers.recvData n) := by
  simp [framesBefore, List.range_succ]

theorem framesBefore_ended {n : Nat} (ended : endedBefore answers n) :
    framesBefore answers (n + 1) = framesBefore answers n := by
  rw [framesBefore_succ, if_pos ended, List.append_nil]

theorem framesBefore_going {n : Nat} (going : ¬ endedBefore answers n) :
    framesBefore answers (n + 1) = framesBefore answers n ++ itemOf (answers.recvData n) := by
  rw [framesBefore_succ, if_neg going]

theorem exceeds_mono {cap : Usize} {j k : Nat} (le : j ≤ k) (exceeds : Exceeds cap answers j) :
    Exceeds cap answers k := by
  induction le with
  | refl => exact exceeds
  | step le ih =>
    unfold Exceeds at ih ⊢
    rw [framesBefore_succ, content_append, List.length_append]
    omega

theorem settled_mono {cap : Usize} {j k : Nat} (le : j ≤ k) (settled : Settled cap answers j) :
    Settled cap answers k := by
  rcases settled with ended | exceeds
  · exact .inl (endedBefore_mono le ended)
  · exact .inr (exceeds_mono le exceeds)

theorem exceeds_settled {cap : Usize} {n : Nat} (settled : Settled cap answers n) :
    Exceeds cap answers (n + 1) ↔ Exceeds cap answers n := by
  constructor
  · intro exceeds
    rcases settled with ended | before
    · unfold Exceeds at exceeds ⊢
      rwa [framesBefore_ended ended] at exceeds
    · exact before
  · exact exceeds_mono (Nat.le_succ n)

/-- A stream whose data fits is not given up. -/
theorem givenUp_fits {cap : Usize} {n : Nat} (fits : ¬ Exceeds cap answers n) :
    givenUp cap answers n = ([], .returned) := by
  cases n with
  | zero => rfl
  | succ n =>
    have before : ¬ Exceeds cap answers n := mt (exceeds_mono (Nat.le_succ n)) fits
    simp only [givenUp, if_neg before, if_neg fits]

theorem givenUp_first {cap : Usize} {n : Nat} (fits : ¬ Exceeds cap answers n)
    (exceeds : Exceeds cap answers (n + 1)) :
    givenUp cap answers (n + 1) = cancelRequestStream ⟨answers, n + 1⟩ := by
  simp only [givenUp, if_neg fits, if_pos exceeds]

theorem givenUp_settled {cap : Usize} {n : Nat} (settled : Settled cap answers n) :
    givenUp cap answers (n + 1) = givenUp cap answers n := by
  by_cases exceeds : Exceeds cap answers n
  · simp only [givenUp, if_pos exceeds]
  · rw [givenUp_fits exceeds, givenUp_fits (mt (exceeds_settled settled).mp exceeds)]

end Frames

section ClosedForm

variable (cap : Usize) (answers : StreamAnswers)

/-- Where the loop is after the first `n` answers. -/
def loopAt (n : Nat) : Turn := collected id cap .new (framesBefore answers n)

/-- The future after `n` turns. -/
def futureAt (n : Nat) : CollectMhcBody :=
  match loopAt cap answers n with
  | .next buf =>
    if endedBefore answers n then .returned (some (.ok buf.freeze))
    else .reading (n = 0 ∨ awaitsAnswer answers n) ⟨stateAt answers n⟩ buf
  | .leave result => .returned (resultAfter (givenUp cap answers n).2 (some result))
  | .panic => .returned none

variable {cap answers}

theorem loopAt_next {n : Nat} {buf : BytesMut} (going : loopAt cap answers n = .next buf) :
    buf.bytes = content (framesBefore answers n) ∧ ErrorFree (framesBefore answers n) ∧
      buf.len ≤ cap.toNat ∧ ¬ Exceeds cap answers n := by
  have empty : BytesMut.new.len ≤ cap.toNat := Nat.zero_le _
  obtain ⟨all, sound, bound⟩ := collected_next _ empty going
  have holds : buf.bytes = content (framesBefore answers n) := by simpa [BytesMut.new] using all
  have fits : buf.len ≤ roomFor cap := Nat.le_min.mpr ⟨bound, buf.fits⟩
  refine ⟨holds, sound, bound, ?_⟩
  unfold Exceeds
  rw [← holds]
  exact Nat.not_lt.mpr fits

theorem turn_stops {buf : BytesMut} {data : Bytes}
    (stopped : ∀ held, collectTurn id cap buf (chunkItem data) ≠ .next held) :
    roomFor cap < buf.len + data.length := by
  rcases collectTurn_cases id cap buf (chunkItem data) with
    ⟨grown, turn, -, -, -, -, -⟩ | ⟨err, -, -, -, exceeds⟩ | ⟨-, -, -, exceeds⟩
  · exact absurd turn (stopped grown)
  · exact exceeds ⟨_, rfl⟩
  · exact exceeds

theorem loopAt_settled {n : Nat} (settled : Settled cap answers n) :
    loopAt cap answers (n + 1) = loopAt cap answers n := by
  by_cases ended : endedBefore answers n
  · unfold loopAt
    rw [framesBefore_ended ended]
  · have exceeds := settled.resolve_left ended
    unfold loopAt
    rw [framesBefore_succ]
    exact collected_stopped _ _ fun held going => (loopAt_next going).2.2.2 exceeds

theorem loopAt_succ {n : Nat} {buf : BytesMut} (going : loopAt cap answers n = .next buf)
    (unended : ¬ endedBefore answers n) :
    loopAt cap answers (n + 1) = collected id cap buf (itemOf (answers.recvData n)) := by
  unfold loopAt at going ⊢
  rw [framesBefore_going unended, collected_append _ _ going]

/-- A chunk that stops the loop is too much. -/
theorem chunk_exceeds {n : Nat} {buf : BytesMut} {data : Bytes}
    (going : loopAt cap answers n = .next buf) (unended : ¬ endedBefore answers n)
    (chunk : answers.recvData n = .chunk data)
    (stopped : ∀ held, collectTurn id cap buf (chunkItem data) ≠ .next held) :
    Exceeds cap answers (n + 1) := by
  have holds := (loopAt_next going).1
  have beyond := turn_stops stopped
  unfold Exceeds
  rw [framesBefore_going unended, chunk, content_append, ← holds, List.length_append]
  simpa [itemOf, chunkItem, dataOf, Frame.intoData, BytesMut.len] using beyond

theorem loopAt_chunk {n : Nat} {buf : BytesMut} {data : Bytes}
    (going : loopAt cap answers n = .next buf) (unended : ¬ endedBefore answers n)
    (chunk : answers.recvData n = .chunk data) :
    loopAt cap answers (n + 1) = collectTurn id cap buf (chunkItem data) := by
  rw [loopAt_succ going unended, chunk]
  simp only [itemOf, collected]
  cases collectTurn id cap buf (chunkItem data) with
  | next grown => rfl
  | leave result => rfl
  | panic => rfl

/-- The loop is only left at the end of the stream or for the size of the data. -/
theorem loopAt_going {n : Nat} (going : ¬ Settled cap answers n) :
    ∃ buf, loopAt cap answers n = .next buf := by
  induction n with
  | zero => exact ⟨.new, rfl⟩
  | succ n ih =>
    have before : ¬ Settled cap answers n := mt (settled_mono (Nat.le_succ n)) going
    obtain ⟨buf, earlier⟩ := ih before
    have unended : ¬ endedBefore answers n := fun ended => before (.inl ended)
    have last : endsStream (answers.recvData n) ≠ true := fun ends =>
      going (.inl ((endedBefore_succ n).mpr (.inr ends)))
    cases answer : answers.recvData n with
    | pending =>
      rw [loopAt_succ earlier unended, answer]
      exact ⟨buf, rfl⟩
    | chunk data =>
      rw [loopAt_chunk earlier unended answer]
      by_contra stopped
      push Not at stopped
      exact going (.inr (chunk_exceeds earlier unended answer stopped))
    | endOfData => exact absurd (by rw [answer]; rfl) last
    | failed message => exact absurd (by rw [answer]; rfl) last

theorem futureAt_settled {n : Nat} (settled : Settled cap answers n) :
    futureAt cap answers n =
      .returned (resultAfter (givenUp cap answers n).2 (returnedBy (loopAt cap answers n))) := by
  unfold futureAt
  cases loop : loopAt cap answers n with
  | next buf =>
    have fits := (loopAt_next loop).2.2.2
    simp only [if_pos (settled.resolve_right fits), givenUp_fits fits, resultAfter, returnedBy]
  | leave result => rfl
  | panic =>
    simp only [returnedBy]
    cases (givenUp cap answers n).2 with
    | returned => rfl
    | panicked => rfl

theorem futureAt_going {n : Nat} {buf : BytesMut} (unended : ¬ endedBefore answers n)
    (loop : loopAt cap answers n = .next buf) :
    futureAt cap answers n =
      .reading (n = 0 ∨ awaitsAnswer answers n) ⟨stateAt answers n⟩ buf := by
  simp only [futureAt, loop, if_neg unended]

variable (cap answers) in
/-- What happens to the stream in the turn after `n` others. -/
def eventsAt (n : Nat) : List StreamEvent :=
  if Settled cap answers n then []
  else (pollAt answers n).events ++ (givenUp cap answers (n + 1)).1

/-- A body that is dropped after a chunk gives up its stream. -/
theorem drop_after_chunk {n : Nat} {data : Bytes} (unended : ¬ endedBefore answers n)
    (chunk : answers.recvData n = .chunk data) :
    H3ResponseBody.drop ⟨stateAt answers (n + 1)⟩ = cancelRequestStream ⟨answers, n + 1⟩ := by
  rw [stateAt_succ unended, chunk]
  rfl

theorem drop_after_end {n : Nat} (ends : endsStream (answers.recvData n) = true) :
    H3ResponseBody.drop ⟨stateAt answers (n + 1)⟩ = ([], .returned) := by
  have ended : endedBefore answers (n + 1) := ⟨n, Nat.lt_succ_self n, ends⟩
  rw [drop_stateAt, if_pos (.inl ended)]

/-- Only a chunk can be too much. -/
theorem not_exceeds_succ {n : Nat} (settled : ¬ Settled cap answers n)
    (dataless : content (itemOf (answers.recvData n)) = []) : ¬ Exceeds cap answers (n + 1) := by
  have unended : ¬ endedBefore answers n := fun ended => settled (.inl ended)
  have before : ¬ Exceeds cap answers n := fun exceeds => settled (.inr exceeds)
  unfold Exceeds at before ⊢
  rw [framesBefore_going unended, content_append, dataless, List.append_nil]
  exact before

theorem turn_chunk {n : Nat} {buf : BytesMut} {data : Bytes} (unended : ¬ endedBefore answers n)
    (loop : loopAt cap answers n = .next buf) (chunk : answers.recvData n = .chunk data) :
    (futureAt cap answers n).turn cap =
      ((pollAt answers n).events ++ (givenUp cap answers (n + 1)).1,
        futureAt cap answers (n + 1)) := by
  have output := (polled_pollAt (mem_events_pollAt unended)).2.2
  have after := loopAt_chunk loop unended chunk
  have still : ¬ endedBefore answers (n + 1) := by
    simp [endedBefore_succ, unended, chunk, endsStream]
  have fits := (loopAt_next loop).2.2.2
  have dropped := drop_after_chunk unended chunk
  rw [futureAt_going unended loop]
  simp only [CollectMhcBody.turn, pollFrame_stateAt, output, chunk, frameOf, leaving_eq, dropped]
  cases turn : collectTurn id cap buf (chunkItem data) with
  | next grown =>
    have loop' : loopAt cap answers (n + 1) = .next grown := by rw [after, turn]
    have awaits : ¬ awaitsAnswer answers (n + 1) := by simp [awaitsAnswer, chunk]
    rw [futureAt_going still loop', givenUp_fits (loopAt_next loop').2.2.2, List.append_nil]
    simp only [chunkItem] at turn
    simp [turn, awaits]
  | leave result =>
    have exceeds : Exceeds cap answers (n + 1) :=
      chunk_exceeds loop unended chunk (by simp [turn])
    rw [futureAt_settled (.inr exceeds), givenUp_first fits exceeds, after, turn]
    simp only [chunkItem] at turn
    simp [turn, returnedBy]
  | panic =>
    have exceeds : Exceeds cap answers (n + 1) :=
      chunk_exceeds loop unended chunk (by simp [turn])
    rw [futureAt_settled (.inr exceeds), givenUp_first fits exceeds, after, turn]
    simp only [chunkItem] at turn
    simp [turn, returnedBy]

theorem turn_futureAt (n : Nat) :
    (futureAt cap answers n).turn cap = (eventsAt cap answers n, futureAt cap answers (n + 1)) := by
  by_cases settled : Settled cap answers n
  · have after := settled_mono (Nat.le_succ n) settled
    rw [futureAt_settled settled, futureAt_settled after, loopAt_settled settled,
      givenUp_settled settled]
    simp only [CollectMhcBody.turn, eventsAt, if_pos settled]
  · obtain ⟨buf, loop⟩ := loopAt_going settled
    have unended : ¬ endedBefore answers n := fun ended => settled (.inl ended)
    have output := (polled_pollAt (mem_events_pollAt unended)).2.2
    have next := loopAt_succ loop unended
    rw [eventsAt, if_neg settled]
    cases answer : answers.recvData n with
    | pending =>
      have dataless : content (itemOf (answers.recvData n)) = [] := by rw [answer]; rfl
      have still : ¬ endedBefore answers (n + 1) := by
        simp [endedBefore_succ, unended, answer, endsStream]
      have loop' : loopAt cap answers (n + 1) = .next buf := by rw [next, answer]; rfl
      have awaits : awaitsAnswer answers (n + 1) := answer
      rw [futureAt_going unended loop, givenUp_fits (not_exceeds_succ settled dataless),
        futureAt_going still loop', List.append_nil]
      simp [CollectMhcBody.turn, pollFrame_stateAt, output, answer, frameOf, awaits]
    | chunk data => exact turn_chunk unended loop answer
    | endOfData =>
      have dataless : content (itemOf (answers.recvData n)) = [] := by rw [answer]; rfl
      have ends : endsStream (answers.recvData n) = true := by rw [answer]; rfl
      have ended : Settled cap answers (n + 1) := .inl ⟨n, Nat.lt_succ_self n, ends⟩
      rw [futureAt_going unended loop, futureAt_settled ended,
        givenUp_fits (not_exceeds_succ settled dataless), next]
      simp [CollectMhcBody.turn, pollFrame_stateAt, output, answer, frameOf, leaving_eq,
        drop_after_end ends, resultAfter, itemOf, collected, returnedBy]
    | failed message =>
      have dataless : content (itemOf (answers.recvData n)) = [] := by rw [answer]; rfl
      have ends : endsStream (answers.recvData n) = true := by rw [answer]; rfl
      have ended : Settled cap answers (n + 1) := .inl ⟨n, Nat.lt_succ_self n, ends⟩
      rw [futureAt_going unended loop, futureAt_settled ended,
        givenUp_fits (not_exceeds_succ settled dataless), next]
      simp [CollectMhcBody.turn, pollFrame_stateAt, output, answer, frameOf, leaving_eq,
        drop_after_end ends, resultAfter, itemOf, collected, returnedBy, collectTurn]

variable (cap answers) in
/-- No turn panics but for the capacity of the buffer, and the answers determine the run. -/
theorem turns_eq (n : Nat) :
    CollectMhcBody.turns cap n (.new ⟨answers, 0⟩) =
      ((List.range n).flatMap (eventsAt cap answers), futureAt cap answers n) := by
  induction n with
  | zero => rfl
  | succ n ih =>
    simp only [CollectMhcBody.turns, ih, turn_futureAt, List.range_succ, List.flatMap_append,
      List.flatMap_cons, List.flatMap_nil, List.append_nil]

variable (cap answers) in
/-- The stream is read by one future at a time and left alone after its end, and given up
when the data is too much. -/
theorem events_run (n : Nat) :
    ∃ reads use, (List.range n).flatMap (eventsAt cap answers) =
        reads ++ (givenUp cap answers n).1 ∧
      StreamUse.idle.after reads = some use ∧
      (¬ Settled cap answers n → use = useAt answers n) := by
  induction n with
  | zero =>
    exact ⟨[], .idle, rfl, rfl, fun _ => rfl⟩
  | succ n ih =>
    obtain ⟨reads, use, events, orderly, current⟩ := ih
    simp only [List.range_succ, List.flatMap_append, List.flatMap_cons, List.flatMap_nil,
      List.append_nil, events, eventsAt]
    by_cases settled : Settled cap answers n
    · refine ⟨reads, use, ?_, orderly, fun going => ?_⟩
      · simp only [if_pos settled, givenUp_settled settled, List.append_nil]
      · exact absurd (settled_mono (Nat.le_succ n) settled) going
    · have fits : ¬ Exceeds cap answers n := fun exceeds => settled (.inr exceeds)
      refine ⟨reads ++ (pollAt answers n).events, useAt answers (n + 1), ?_, ?_, fun _ => rfl⟩
      · simp only [if_neg settled, givenUp_fits fits, List.append_nil, List.append_assoc]
      · rw [StreamUse.after_append, orderly, current settled]
        exact after_pollAt n

end ClosedForm

/-- What collecting a stream has come to after `n` of its answers. -/
structure ReadsStream (cap : Usize) (answers : StreamAnswers) (n : Nat)
    (events : List StreamEvent) (future : CollectMhcBody) : Prop where
  finished : (∃ result, future = .returned result) ↔ Settled cap answers n
  result : ∀ result, future = .returned result →
    ∀ m, n ≤ m → result = resultAfter (givenUp cap answers n).2
      (collectMhcBodyWithCap (framesBefore answers m) cap)
  buffer : ∀ suspended body buf, future = .reading suspended body buf →
    buf.bytes = content (framesBefore answers n) ∧ buf.len ≤ cap.toNat
  stream : ∃ reads use, events = reads ++ (givenUp cap answers n).1 ∧
    StreamUse.idle.after reads = some use
  dropped : ∀ body buf, future = .reading true body buf →
    future.drop = if n = 0 then cancelRequestStream ⟨answers, 0⟩ else ([], .returned)

theorem collectMhc_loopAt (cap : Usize) (answers : StreamAnswers) (n : Nat) :
    collectMhcBodyWithCap (framesBefore answers n) cap = returnedBy (loopAt cap answers n) :=
  collectLoop_eq id cap (framesBefore answers n) .new

theorem loopAt_later {cap : Usize} {answers : StreamAnswers} {n m : Nat} (le : n ≤ m)
    (settled : Settled cap answers n) : loopAt cap answers m = loopAt cap answers n := by
  induction le with
  | refl => rfl
  | step le ih => rw [loopAt_settled (settled_mono le settled), ih]

/-- However a stream answers: what its body is collected to is what the loop makes of the
frames it has sent, unless giving it up panics, and it is given up only when they are too
much, or with a future that has never been polled. -/
theorem h3_body_collected (cap : Usize) (answers : StreamAnswers) (n : Nat) :
    ReadsStream cap answers n (CollectMhcBody.turns cap n (.new ⟨answers, 0⟩)).1
      (CollectMhcBody.turns cap n (.new ⟨answers, 0⟩)).2 := by
  rw [turns_eq]
  by_cases settled : Settled cap answers n
  · have future := futureAt_settled settled
    constructor
    case finished => exact ⟨fun _ => settled, fun _ => ⟨_, future⟩⟩
    case result =>
      intro result returned m later
      cases future.symm.trans returned
      rw [collectMhc_loopAt, loopAt_later later settled]
    case buffer =>
      intro suspended body buf reading
      exact absurd (future.symm.trans reading) (by simp)
    case stream =>
      obtain ⟨reads, use, events, orderly, -⟩ := events_run cap answers n
      exact ⟨reads, use, events, orderly⟩
    case dropped =>
      intro body buf reading
      exact absurd (future.symm.trans reading) (by simp)
  · obtain ⟨buf, loop⟩ := loopAt_going settled
    have unended : ¬ endedBefore answers n := fun ended => settled (.inl ended)
    have future := futureAt_going unended loop
    constructor
    case finished =>
      constructor
      · rintro ⟨result, returned⟩
        exact absurd (future.symm.trans returned) (by simp)
      · exact fun later => absurd later settled
    case result =>
      intro result returned
      exact absurd (future.symm.trans returned) (by simp)
    case buffer =>
      intro suspended body held reading
      have same := future.symm.trans reading
      cases same
      exact ⟨(loopAt_next loop).1, (loopAt_next loop).2.2.1⟩
    case stream =>
      obtain ⟨reads, use, events, orderly, -⟩ := events_run cap answers n
      exact ⟨reads, use, events, orderly⟩
    case dropped =>
      intro body held reading
      have same := future.symm.trans reading
      simp only [CollectMhcBody.reading.injEq, decide_eq_true_eq] at same
      obtain ⟨suspended, rfl, rfl⟩ := same
      rw [reading]
      simp only [CollectMhcBody.drop, drop_stateAt]
      by_cases first : n = 0
      · subst first
        simp [endedBefore, awaitsAnswer]
      · have awaits := suspended.resolve_left first
        rw [if_pos (.inr awaits), if_neg first]

end MechanicsHttpClient.Guarantees
