import MechanicsHttpClient.Source.H3ResponseBody
import Mathlib.Data.Nat.Find
import Mathlib.Tactic.Common

/-!
# The HTTP/3 response body delivers its stream, and gives it up

A run of `poll_frame` calls has a closed form (`pollTimes_eq`): the `k`-th call
polls the stream's `k`-th answer until one of the answers ends the stream, and
leaves it alone from then on. Delivery, the single future and the cancellation
on drop are read off that form.

The drop of a body misses one state. While a read is pending the stream lives in
the boxed future, where `Drop` does not look for it: `drop_cancels_iff` says that
a dropped body calls `cancel_request_stream` as it should exactly when it is not
dropped during a read. How far that call gets is up to the library.
-/

namespace MechanicsHttpClient.Guarantees

open MechanicsHttpClient.Source

/-- End-of-data or an error. -/
def endsStream : RecvData → Bool
  | .endOfData => true
  | .failed _ => true
  | _ => false

/-- `Ready(None)` or `Ready(Some(Err(..)))`. -/
def reportsEnd : Poll (Option (Except Error Frame)) → Bool
  | .ready none => true
  | .ready (some (.error _)) => true
  | _ => false

/-- One of the first `n` answers ended the stream. -/
def endedBefore (answers : StreamAnswers) (n : Nat) : Prop :=
  ∃ k, k < n ∧ endsStream (answers.recvData k) = true

instance (answers : StreamAnswers) (n : Nat) : Decidable (endedBefore answers n) :=
  inferInstanceAs (Decidable (∃ k, k < n ∧ endsStream (answers.recvData k) = true))

def returnedData (poll : FramePoll) : List Bytes :=
  match poll.output with
  | .ready (some (.ok (.data bytes))) => [bytes]
  | _ => []

def chunkOf : RecvData → List Bytes
  | .chunk buf => [buf]
  | _ => []

def receivedAnswer : StreamEvent → List RecvData
  | .polled answer => [answer]
  | _ => []

def receivedChunk : StreamEvent → List Bytes
  | .polled answer => chunkOf answer
  | _ => []

/-- What the `k`-th poll of a body takes from its stream. -/
def answersTo (answers : StreamAnswers) (k : Nat) : List RecvData :=
  if endedBefore answers k then [] else [answers.recvData k]

def eventsOf (polls : List FramePoll) : List StreamEvent := polls.flatMap FramePoll.events

/-- Whether a `recv_data` future exists, and whether the stream has ended. -/
inductive StreamUse where
  | idle | reading | ended
  deriving DecidableEq

/-- A future is made only while there is none, it is polled only until it has
completed, and nothing happens to a stream that has ended. -/
def StreamUse.next : StreamUse → StreamEvent → Option StreamUse
  | .idle, .recvData => some .reading
  | .reading, .polled .pending => some .reading
  | .reading, .polled (.chunk _) => some .idle
  | .reading, .polled .endOfData => some .ended
  | .reading, .polled (.failed _) => some .ended
  | _, _ => none

def StreamUse.after : StreamUse → List StreamEvent → Option StreamUse
  | use, [] => some use
  | use, event :: events => (use.next event).bind fun use => use.after events

theorem StreamUse.after_append (use : StreamUse) (before later : List StreamEvent) :
    use.after (before ++ later) = (use.after before).bind fun middle => middle.after later := by
  induction before generalizing use with
  | nil => rfl
  | cons event events ih =>
    simp only [List.cons_append, StreamUse.after]
    cases use.next event with
    | none => rfl
    | some next => exact ih next

/-- After `n` polls the body has delivered what the stream has answered so far: the
`k`-th poll polls its `k`-th answer up to the one that ends it. -/
structure ExactDelivery (answers : StreamAnswers) (n : Nat) (polls : List FramePoll)
    (body : H3ResponseBody) : Prop where
  calls : polls.length = n
  received : ∀ (k : Nat) (poll : FramePoll), polls[k]? = some poll →
    poll.events.flatMap receivedAnswer = answersTo answers k
  outputs : ∀ (k : Nat) (poll : FramePoll), polls[k]? = some poll →
    poll.output = if endedBefore answers k then .ready none else frameOf (answers.recvData k)
  chunks : polls.flatMap returnedData =
    (List.range n).flatMap fun k => (answersTo answers k).flatMap chunkOf
  frames : polls.flatMap returnedData = (eventsOf polls).flatMap receivedChunk
  futures : ∃ use, StreamUse.idle.after (eventsOf polls) = some use
  reported : ∀ (k : Nat) (poll : FramePoll) (answer : RecvData), polls[k]? = some poll →
    .polled answer ∈ poll.events → endsStream answer = true → poll.output = frameOf answer ∧
      (∀ (j : Nat) (earlier : FramePoll), j < k → polls[j]? = some earlier →
        reportsEnd earlier.output = false) ∧
      ∀ (j : Nat) (later : FramePoll), k < j → polls[j]? = some later →
        later.output = .ready none ∧ later.events = []
  genuine : ∀ (k : Nat) (poll : FramePoll), polls[k]? = some poll →
    reportsEnd poll.output = true → ∃ (j : Nat) (earlier : FramePoll) (answer : RecvData), j ≤ k ∧
      polls[j]? = some earlier ∧ .polled answer ∈ earlier.events ∧ endsStream answer = true
  passes : ∀ poll ∈ polls, poll.passes ≤ 2
  state : body.state ≠ .ready none

/-- What a dropped body owes its stream: one call of `cancel_request_stream`, however
that call ends, or none. -/
def CancelsWhenAbandoned (polls : List FramePoll) (body : H3ResponseBody) : Prop :=
  ((∀ poll ∈ polls, reportsEnd poll.output = false) →
      body.drop.1.count .cancelRequestStream = 1) ∧
    ((∃ poll ∈ polls, reportsEnd poll.output = true) →
      body.drop.1.count .cancelRequestStream = 0)

section ClosedForm

variable (answers : StreamAnswers)

/-- The last of the first `n` answers was `Pending`. -/
def awaitsAnswer : Nat → Prop
  | 0 => False
  | k + 1 => answers.recvData k = .pending

instance : (n : Nat) → Decidable (awaitsAnswer answers n)
  | 0 => inferInstanceAs (Decidable False)
  | k + 1 => inferInstanceAs (Decidable (answers.recvData k = .pending))

def stateAt (n : Nat) : H3ResponseBodyState :=
  if endedBefore answers n then .done
  else if awaitsAnswer answers n then .reading (.awaiting ⟨answers, n⟩)
  else .ready (some ⟨answers, n⟩)

def pollAt (k : Nat) : FramePoll :=
  if endedBefore answers k then ⟨1, [], .ready none⟩
  else if awaitsAnswer answers k then
    ⟨1, [.polled (answers.recvData k)], frameOf (answers.recvData k)⟩
  else ⟨2, [.recvData, .polled (answers.recvData k)], frameOf (answers.recvData k)⟩

variable {answers}

theorem endedBefore_succ (n : Nat) :
    endedBefore answers (n + 1) ↔
      endedBefore answers n ∨ endsStream (answers.recvData n) = true := by
  constructor
  · rintro ⟨k, below, ends⟩
    by_cases last : k = n
    · exact .inr (last ▸ ends)
    · exact .inl ⟨k, by omega, ends⟩
  · rintro (⟨k, below, ends⟩ | ends)
    · exact ⟨k, by omega, ends⟩
    · exact ⟨n, by omega, ends⟩

theorem endedBefore_mono {j k : Nat} (le : j ≤ k) (h : endedBefore answers j) :
    endedBefore answers k := by
  obtain ⟨i, below, ends⟩ := h
  exact ⟨i, by omega, ends⟩

theorem stateAt_succ {k : Nat} (going : ¬ endedBefore answers k) :
    stateAt answers (k + 1) = stateAfter ⟨answers, k + 1⟩ (answers.recvData k) := by
  simp only [stateAt, endedBefore_succ]
  cases answer : answers.recvData k with
  | pending => simp [going, endsStream, awaitsAnswer, answer, stateAfter]
  | chunk buf => simp [going, endsStream, awaitsAnswer, answer, stateAfter]
  | endOfData => simp [endsStream, stateAfter]
  | failed message => simp [endsStream, stateAfter]

theorem pollFrame_stateAt (k : Nat) :
    H3ResponseBody.pollFrame ⟨stateAt answers k⟩ =
      some (pollAt answers k, ⟨stateAt answers (k + 1)⟩) := by
  by_cases ended : endedBefore answers k
  · have isOver : endedBefore answers (k + 1) := endedBefore_mono (Nat.le_succ k) ended
    simp only [stateAt, pollAt, if_pos ended, if_pos isOver]
    exact H3ResponseBody.pollFrame_done
  · rw [stateAt_succ ended]
    unfold stateAt pollAt
    simp only [if_neg ended]
    by_cases awaits : awaitsAnswer answers k
    · simp only [if_pos awaits]
      exact H3ResponseBody.pollFrame_reading answers k
    · simp only [if_neg awaits]
      exact H3ResponseBody.pollFrame_ready answers k

/-- No poll panics, and the run is determined by the answers. -/
theorem pollTimes_eq (n : Nat) :
    pollTimes n (.new ⟨answers, 0⟩) =
      some ((List.range n).map (pollAt answers), ⟨stateAt answers n⟩) := by
  induction n with
  | zero => simp [pollTimes, stateAt, endedBefore, awaitsAnswer, H3ResponseBody.new]
  | succ n ih =>
    simp only [pollTimes, ih, Option.bind_some, pollFrame_stateAt, Option.map_some,
      List.range_succ, List.map_append, List.map_cons, List.map_nil]

theorem pollAt_of_getElem {n k : Nat} {poll : FramePoll}
    (h : ((List.range n).map (pollAt answers))[k]? = some poll) :
    k < n ∧ poll = pollAt answers k := by
  simp only [List.getElem?_map, Option.map_eq_some_iff] at h
  obtain ⟨i, found, rfl⟩ := h
  obtain ⟨below, same⟩ := List.getElem?_eq_some_iff.mp found
  simp only [List.length_range] at below
  simp only [List.getElem_range] at same
  exact ⟨below, by rw [same]⟩

theorem getElem_pollAt {n k : Nat} (below : k < n) :
    ((List.range n).map (pollAt answers))[k]? = some (pollAt answers k) := by
  simp [List.getElem?_map, List.getElem?_range below]

theorem received_pollAt (k : Nat) :
    (pollAt answers k).events.flatMap receivedAnswer = answersTo answers k := by
  unfold pollAt answersTo
  split
  · rfl
  · split
    · rfl
    · rfl

theorem output_pollAt (k : Nat) :
    (pollAt answers k).output =
      if endedBefore answers k then .ready none else frameOf (answers.recvData k) := by
  unfold pollAt
  split
  · rfl
  · split
    · rfl
    · rfl

theorem returnedData_pollAt (k : Nat) :
    returnedData (pollAt answers k) = (answersTo answers k).flatMap chunkOf := by
  unfold returnedData
  rw [output_pollAt]
  by_cases ended : endedBefore answers k
  · simp [answersTo, ended]
  · cases answer : answers.recvData k with
    | pending => simp [answersTo, ended, answer, chunkOf, frameOf]
    | chunk buf => simp [answersTo, ended, answer, chunkOf, frameOf]
    | endOfData => simp [answersTo, ended, answer, chunkOf, frameOf]
    | failed message => simp [answersTo, ended, answer, chunkOf, frameOf]

/-- A chunk is received with its answer. -/
theorem receivedChunk_eq (event : StreamEvent) :
    receivedChunk event = (receivedAnswer event).flatMap chunkOf := by
  cases event with
  | polled answer => simp [receivedChunk, receivedAnswer]
  | recvData => rfl
  | cancelRequestStream => rfl
  | stopSending code => rfl
  | stopStream code => rfl

theorem passes_pollAt (k : Nat) : (pollAt answers k).passes ≤ 2 := by
  unfold pollAt
  split
  · exact Nat.le_succ 1
  · split
    · exact Nat.le_succ 1
    · exact Nat.le_refl 2

/-- A poll reaches the stream only while it has not ended. -/
theorem polled_pollAt {k : Nat} {answer : RecvData}
    (h : .polled answer ∈ (pollAt answers k).events) :
    ¬ endedBefore answers k ∧ answer = answers.recvData k ∧
      (pollAt answers k).output = frameOf (answers.recvData k) := by
  unfold pollAt at h ⊢
  by_cases ended : endedBefore answers k
  · simp [if_pos ended] at h
  · by_cases awaits : awaitsAnswer answers k
    · simp only [if_neg ended, if_pos awaits] at h ⊢
      have same : answer = answers.recvData k := by simpa using h
      exact ⟨ended, same, trivial⟩
    · simp only [if_neg ended, if_neg awaits] at h ⊢
      have same : answer = answers.recvData k := by simpa using h
      exact ⟨ended, same, trivial⟩

theorem mem_events_pollAt {k : Nat} (going : ¬ endedBefore answers k) :
    .polled (answers.recvData k) ∈ (pollAt answers k).events := by
  unfold pollAt
  rw [if_neg going]
  split
  · simp
  · simp

theorem reportsEnd_frameOf (answer : RecvData) :
    reportsEnd (frameOf answer) = endsStream answer := by
  cases answer with
  | pending => rfl
  | chunk buf => rfl
  | endOfData => rfl
  | failed message => rfl

theorem pollAt_ended {k : Nat} (ended : endedBefore answers k) :
    pollAt answers k = ⟨1, [], .ready none⟩ := if_pos ended

/-- A call reports the end from the answer on that ended the stream. -/
theorem reportsEnd_pollAt (k : Nat) :
    reportsEnd (pollAt answers k).output = true ↔ endedBefore answers (k + 1) := by
  rw [endedBefore_succ]
  by_cases ended : endedBefore answers k
  · rw [pollAt_ended ended]
    simp [ended, reportsEnd]
  · rw [(polled_pollAt (mem_events_pollAt ended)).2.2, reportsEnd_frameOf]
    simp [ended]

/-- How the stream is being used before the `n`-th call. -/
def useAt (answers : StreamAnswers) (n : Nat) : StreamUse :=
  if endedBefore answers n then .ended else if awaitsAnswer answers n then .reading else .idle

theorem after_pollAt (k : Nat) :
    (useAt answers k).after (pollAt answers k).events = some (useAt answers (k + 1)) := by
  by_cases ended : endedBefore answers k
  · have isOver : endedBefore answers (k + 1) := endedBefore_mono (Nat.le_succ k) ended
    simp only [useAt, if_pos ended, if_pos isOver, pollAt_ended ended, StreamUse.after]
  · have polled : StreamUse.reading.after [.polled (answers.recvData k)] =
        some (useAt answers (k + 1)) := by
      simp only [useAt, endedBefore_succ]
      cases answer : answers.recvData k with
      | pending => simp [ended, endsStream, awaitsAnswer, answer, StreamUse.after, StreamUse.next]
      | chunk buf => simp [ended, endsStream, awaitsAnswer, answer, StreamUse.after, StreamUse.next]
      | endOfData => simp [endsStream, StreamUse.after, StreamUse.next]
      | failed message => simp [endsStream, StreamUse.after, StreamUse.next]
    unfold pollAt
    by_cases awaits : awaitsAnswer answers k
    · simp only [useAt, if_neg ended, if_pos awaits]
      exact polled
    · have made : StreamUse.idle.after [.recvData, .polled (answers.recvData k)] =
          StreamUse.reading.after [.polled (answers.recvData k)] := rfl
      simp only [useAt, if_neg ended, if_neg awaits]
      rw [made]
      exact polled

theorem after_run (n : Nat) :
    StreamUse.idle.after (eventsOf ((List.range n).map (pollAt answers))) =
      some (useAt answers n) := by
  induction n with
  | zero => simp [eventsOf, StreamUse.after, useAt, endedBefore, awaitsAnswer]
  | succ n ih =>
    simp only [eventsOf] at ih
    simp only [eventsOf, List.range_succ, List.map_append, List.map_cons, List.map_nil,
      List.flatMap_append, List.flatMap_cons, List.flatMap_nil, List.append_nil,
      StreamUse.after_append, ih, Option.bind_some, after_pollAt]

theorem chunks_run (n : Nat) :
    ((List.range n).map (pollAt answers)).flatMap returnedData =
      (List.range n).flatMap fun k => (answersTo answers k).flatMap chunkOf := by
  rw [List.flatMap_map]
  exact List.flatMap_congr fun k _ => returnedData_pollAt k

theorem frames_run (n : Nat) :
    ((List.range n).map (pollAt answers)).flatMap returnedData =
      (eventsOf ((List.range n).map (pollAt answers))).flatMap receivedChunk := by
  simp only [eventsOf, List.flatMap_map, List.flatMap_assoc]
  refine List.flatMap_congr fun k _ => ?_
  rw [returnedData_pollAt, ← received_pollAt, List.flatMap_assoc]
  exact List.flatMap_congr fun event _ => (receivedChunk_eq event).symm

theorem stateAt_ne (n : Nat) : stateAt answers n ≠ .ready none := by
  unfold stateAt
  split
  · nofun
  · split
    · nofun
    · nofun

end ClosedForm

/-- Whatever the stream answers, and however often the body is polled: no poll
panics, and the body has delivered exactly what it received. -/
theorem body_delivers_exactly (answers : StreamAnswers) (n : Nat) :
    ∃ polls body, pollTimes n (.new ⟨answers, 0⟩) = some (polls, body) ∧
      ExactDelivery answers n polls body := by
  refine ⟨_, _, pollTimes_eq n, ?_⟩
  constructor
  case calls => simp
  case received =>
    intro k poll found
    obtain ⟨-, rfl⟩ := pollAt_of_getElem found
    exact received_pollAt k
  case outputs =>
    intro k poll found
    obtain ⟨-, rfl⟩ := pollAt_of_getElem found
    exact output_pollAt k
  case chunks => exact chunks_run n
  case frames => exact frames_run n
  case futures => exact ⟨_, after_run n⟩
  case reported =>
    intro k poll answer found polled ends
    obtain ⟨-, rfl⟩ := pollAt_of_getElem found
    obtain ⟨going, rfl, output⟩ := polled_pollAt polled
    refine ⟨output, ?_, ?_⟩
    · intro j earlier before foundEarlier
      obtain ⟨-, rfl⟩ := pollAt_of_getElem foundEarlier
      have silent : ¬ endedBefore answers (j + 1) := fun ended =>
        going (endedBefore_mono before ended)
      simpa using mt (reportsEnd_pollAt j).mp silent
    · intro j later after foundLater
      obtain ⟨-, rfl⟩ := pollAt_of_getElem foundLater
      have isOver : endedBefore answers j := ⟨k, after, ends⟩
      rw [pollAt_ended isOver]
      exact ⟨rfl, rfl⟩
  case genuine =>
    intro k poll found reports
    obtain ⟨below, rfl⟩ := pollAt_of_getElem found
    -- the first ending answer is the one that was polled
    have some_end : ∃ j, endsStream (answers.recvData j) = true := by
      obtain ⟨j, -, ends⟩ := (reportsEnd_pollAt k).mp reports
      exact ⟨j, ends⟩
    have ends := Nat.find_spec some_end
    have first : ¬ endedBefore answers (Nat.find some_end) := by
      rintro ⟨i, earlier, ends'⟩
      exact Nat.find_min some_end earlier ends'
    have within : Nat.find some_end ≤ k := by
      obtain ⟨j, upTo, ends'⟩ := (reportsEnd_pollAt k).mp reports
      have least : Nat.find some_end ≤ j := Nat.find_min' some_end ends'
      omega
    exact ⟨_, _, _, within, getElem_pollAt (by omega), mem_events_pollAt first, ends⟩
  case passes =>
    intro poll mem
    obtain ⟨k, -, rfl⟩ := List.mem_map.mp mem
    exact passes_pollAt k
  case state => exact stateAt_ne n

/-- The last answer was `Pending`, with the stream still open: the body is in the
middle of a read. -/
def MidRead (answers : StreamAnswers) (n : Nat) : Prop :=
  awaitsAnswer answers n ∧ ¬ endedBefore answers n

theorem drop_stateAt (answers : StreamAnswers) (n : Nat) :
    H3ResponseBody.drop ⟨stateAt answers n⟩ =
      if endedBefore answers n ∨ awaitsAnswer answers n then ([], .returned)
      else cancelRequestStream ⟨answers, n⟩ := by
  unfold stateAt
  by_cases ended : endedBefore answers n
  · simp [ended, H3ResponseBody.drop]
  · by_cases awaits : awaitsAnswer answers n
    · simp [ended, awaits, H3ResponseBody.drop]
    · simp [ended, awaits, H3ResponseBody.drop]

theorem reportsEnd_run (answers : StreamAnswers) (n : Nat) :
    (∃ poll ∈ (List.range n).map (pollAt answers), reportsEnd poll.output = true) ↔
      endedBefore answers n := by
  constructor
  · rintro ⟨poll, mem, reports⟩
    obtain ⟨k, below, rfl⟩ := List.mem_map.mp mem
    exact endedBefore_mono (List.mem_range.mp below) ((reportsEnd_pollAt k).mp reports)
  · rintro ⟨k, below, ends⟩
    have reports : reportsEnd (pollAt answers k).output = true :=
      (reportsEnd_pollAt k).mpr ⟨k, Nat.lt_succ_self k, ends⟩
    exact ⟨_, List.mem_map.mpr ⟨k, List.mem_range.mpr below, rfl⟩, reports⟩

theorem cancelsWhenAbandoned_iff (answers : StreamAnswers) (n : Nat) :
    CancelsWhenAbandoned ((List.range n).map (pollAt answers)) ⟨stateAt answers n⟩ ↔
      ¬ MidRead answers n := by
  have reported := reportsEnd_run answers n
  have silent : (∀ poll ∈ (List.range n).map (pollAt answers), reportsEnd poll.output = false) ↔
      ¬ endedBefore answers n := by
    rw [← reported]
    push Not
    simp only [Bool.not_eq_true]
  unfold CancelsWhenAbandoned MidRead
  rw [silent, reported, drop_stateAt]
  by_cases ended : endedBefore answers n
  · simp [ended]
  · by_cases awaits : awaitsAnswer answers n
    · simp [ended, awaits]
    · simp [ended, awaits, cancelRequestStream_once]

/-- A body cancels its stream as it should exactly when it is not dropped during a
read. -/
theorem drop_cancels_iff (answers : StreamAnswers) (n : Nat) :
    ∃ polls body, pollTimes n (.new ⟨answers, 0⟩) = some (polls, body) ∧
      (CancelsWhenAbandoned polls body ↔ ¬ MidRead answers n) :=
  ⟨_, _, pollTimes_eq n, cancelsWhenAbandoned_iff answers n⟩

/-- One poll that finds nothing, then the drop: the stream is not cancelled. -/
theorem drop_misses_pending_read :
    ∃ polls body, pollTimes 1 (.new ⟨⟨fun _ => .pending, fun _ => .returned,
        fun _ => .returned⟩, 0⟩) = some (polls, body) ∧
      body.drop = ([], .returned) ∧ ¬ CancelsWhenAbandoned polls body := by
  refine ⟨_, _, pollTimes_eq 1, ?_, ?_⟩
  · rfl
  · rw [cancelsWhenAbandoned_iff, not_not]
    exact ⟨rfl, by simp [endedBefore, endsStream]⟩

end MechanicsHttpClient.Guarantees
