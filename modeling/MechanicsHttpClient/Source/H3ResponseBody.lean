import MechanicsHttpClient.Source.Http3

/-!
# http3: the streaming response body

src/http3.rs:143-234. The h3 stream is its answers: those to successive polls of
`recv_data`, in any order and for ever, and how the two calls that give it up end.
What the body does to the stream is logged, because the state of a body forgets
it. The `_sender` field is only held and is left out.
-/

namespace MechanicsHttpClient.Source

inductive Poll (α : Type) where
  | pending
  | ready (value : α)
  deriving DecidableEq

/-- `http_body::Frame`. -/
inductive Frame where
  | data (bytes : Bytes)
  | trailers (headers : HeaderMap)
  deriving DecidableEq

/-- What one poll of `stream.recv_data()` returns: a chunk with the contents of
its buffer, an error with its display. -/
inductive RecvData where
  | pending
  | chunk (buf : Bytes)
  | endOfData
  | failed (message : Str)
  deriving DecidableEq

/-- `h3::error::Code`. -/
abbrev Code := UInt64

def h3RequestCancelled : Code := 0x10c

/-- A `recv_data` future is made or polled, `cancel_request_stream` is called, or one
direction of the stream is given up. -/
inductive StreamEvent where
  | recvData
  | polled (answer : RecvData)
  | cancelRequestStream
  | stopSending (code : Code)
  | stopStream (code : Code)
  deriving DecidableEq

/-- How a call of the library ends. -/
inductive CallEnd where
  | returned
  | panicked
  deriving DecidableEq

/-- `recvData k` is what the poll after `k` others returns; `stopSending k` and
`stopStream k` are how these calls end after `k` polls. The first one panics when a
read that was started ahead holds the receiving half. -/
structure StreamAnswers where
  recvData : Nat → RecvData
  stopSending : Nat → CallEnd
  stopStream : Nat → CallEnd

structure H3RequestStream where
  answers : StreamAnswers
  polled : Nat

/-- The boxed `async move` block: the stream it owns, or nothing any more once it
has returned. -/
inductive RecvDataFuture where
  | awaiting (stream : H3RequestStream)
  | returned

inductive H3ResponseBodyState where
  | ready (stream : Option H3RequestStream)
  | reading (future : RecvDataFuture)
  | done

structure H3ResponseBody where
  state : H3ResponseBodyState

/-- The `map_err` and `map` of the `async` block. -/
def received : RecvData → Poll (Except Error (Option Bytes))
  | .pending => .pending
  | .chunk buf =>
    let remaining := buf.length
    .ready (.ok (some (buf.take remaining)))
  | .endOfData => .ready (.ok none)
  | .failed message => .ready (.error (.cancelled message))

/-- `Future::poll` of the `async` block; `none` is the panic of a block that is
polled after it has returned. -/
def RecvDataFuture.poll : RecvDataFuture →
    Option (StreamEvent × RecvDataFuture ×
      Poll (H3RequestStream × Except Error (Option Bytes)))
  | .returned => none
  | .awaiting stream =>
    let answer := stream.answers.recvData stream.polled
    let stream := { stream with polled := stream.polled + 1 }
    match received answer with
    | .pending => some (.polled answer, .awaiting stream, .pending)
    | .ready result => some (.polled answer, .returned, .ready (stream, result))

/-- One pass through the `loop`: it goes round again or returns. -/
inductive Pass where
  | again (body : H3ResponseBody)
  | leave (output : Poll (Option (Except Error Frame))) (body : H3ResponseBody)

/-- What a call of `poll_frame` did. -/
structure FramePoll where
  passes : Nat
  events : List StreamEvent
  output : Poll (Option (Except Error Frame))

/-- What is left to do in the same call. -/
def H3ResponseBodyState.remaining : H3ResponseBodyState → Nat
  | .ready _ => 1
  | .reading _ => 0
  | .done => 0

namespace H3ResponseBody

def new (stream : H3RequestStream) : H3ResponseBody := ⟨.ready (some stream)⟩

/-- The body of the `loop`. -/
def pass (this : H3ResponseBody) : Option (List StreamEvent × Pass) :=
  match this.state with
  | .ready none => some ([], .again ⟨.done⟩)
  | .ready (some stream) => some ([.recvData], .again ⟨.reading (.awaiting stream)⟩)
  | .reading future =>
    match future.poll with
    | none => none
    | some (event, future, .pending) => some ([event], .leave .pending ⟨.reading future⟩)
    | some (event, _, .ready (stream, result)) =>
      match result with
      | .ok (some bytes) =>
        some ([event], .leave (.ready (some (.ok (.data bytes)))) ⟨.ready (some stream)⟩)
      | .ok none => some ([event], .leave (.ready none) ⟨.done⟩)
      | .error error => some ([event], .leave (.ready (some (.error error))) ⟨.done⟩)
  | .done => some ([], .leave (.ready none) this)

theorem remaining_pass {this after : H3ResponseBody} {events : List StreamEvent}
    (h : this.pass = some (events, .again after)) :
    after.state.remaining < this.state.remaining := by
  unfold pass at h
  split at h
  · rename_i found
    cases h
    rw [found]
    decide
  · rename_i stream found
    cases h
    rw [found]
    exact Nat.zero_lt_one
  · split at h
    · cases h
    · cases h
    · split at h
      · cases h
      · cases h
      · cases h
  · cases h

/-- `Body::poll_frame`; `none` is a panic. -/
def pollFrame (this : H3ResponseBody) : Option (FramePoll × H3ResponseBody) :=
  match _ : this.pass with
  | none => none
  | some (events, .leave output after) => some (⟨1, events, output⟩, after)
  | some (events, .again next) =>
    (pollFrame next).map fun rest =>
      (⟨rest.1.passes + 1, events ++ rest.1.events, rest.1.output⟩, rest.2)
termination_by this.state.remaining
decreasing_by exact remaining_pass ‹_›

end H3ResponseBody

/-- `cancel_request_stream`; the second call is not reached when the first panics. -/
def cancelRequestStream (stream : H3RequestStream) : List StreamEvent × CallEnd :=
  match stream.answers.stopSending stream.polled with
  | .returned =>
    ([.cancelRequestStream, .stopSending h3RequestCancelled, .stopStream h3RequestCancelled],
      stream.answers.stopStream stream.polled)
  | .panicked => ([.cancelRequestStream, .stopSending h3RequestCancelled], .panicked)

/-- `Drop::drop`. The fields are dropped after it, after a panic too: what the libraries
do to a stream that is dropped is not logged. -/
def H3ResponseBody.drop (this : H3ResponseBody) : List StreamEvent × CallEnd :=
  match this.state with
  | .ready (some stream) => cancelRequestStream stream
  | _ => ([], .returned)

theorem cancelRequestStream_once (stream : H3RequestStream) :
    (cancelRequestStream stream).1.count .cancelRequestStream = 1 := by
  unfold cancelRequestStream
  split
  · simp
  · simp

/-- `n` calls of `poll_frame`, one after the other. -/
def pollTimes : Nat → H3ResponseBody → Option (List FramePoll × H3ResponseBody)
  | 0, body => some ([], body)
  | n + 1, body =>
    (pollTimes n body).bind fun before =>
    before.2.pollFrame.map fun last => (before.1 ++ [last.1], last.2)

/-- What a poll of the stream makes `poll_frame` return. -/
def frameOf : RecvData → Poll (Option (Except Error Frame))
  | .pending => .pending
  | .chunk buf => .ready (some (.ok (.data buf)))
  | .endOfData => .ready none
  | .failed message => .ready (some (.error (.cancelled message)))

/-- And the state it leaves behind. -/
def stateAfter (stream : H3RequestStream) : RecvData → H3ResponseBodyState
  | .pending => .reading (.awaiting stream)
  | .chunk _ => .ready (some stream)
  | .endOfData => .done
  | .failed _ => .done

namespace H3ResponseBody

theorem pollFrame_done : pollFrame ⟨.done⟩ = some (⟨1, [], .ready none⟩, ⟨.done⟩) := by
  rw [pollFrame]
  rfl

theorem pollFrame_reading (answers : StreamAnswers) (k : Nat) :
    pollFrame ⟨.reading (.awaiting ⟨answers, k⟩)⟩ =
      some (⟨1, [.polled (answers.recvData k)], frameOf (answers.recvData k)⟩,
        ⟨stateAfter ⟨answers, k + 1⟩ (answers.recvData k)⟩) := by
  have round : pass ⟨.reading (.awaiting ⟨answers, k⟩)⟩ =
      some ([.polled (answers.recvData k)],
        .leave (frameOf (answers.recvData k))
          ⟨stateAfter ⟨answers, k + 1⟩ (answers.recvData k)⟩) := by
    cases answer : answers.recvData k with
    | pending => simp [pass, RecvDataFuture.poll, received, answer, frameOf, stateAfter]
    | chunk buf => simp [pass, RecvDataFuture.poll, received, answer, frameOf, stateAfter]
    | endOfData => simp [pass, RecvDataFuture.poll, received, answer, frameOf, stateAfter]
    | failed message => simp [pass, RecvDataFuture.poll, received, answer, frameOf, stateAfter]
  rw [pollFrame]
  split
  · rename_i stuck
    rw [round] at stuck
    cases stuck
  · rename_i events output after left
    rw [round] at left
    cases left
    rfl
  · rename_i events next again
    rw [round] at again
    cases again

theorem pollFrame_ready (answers : StreamAnswers) (k : Nat) :
    pollFrame ⟨.ready (some ⟨answers, k⟩)⟩ =
      some (⟨2, [.recvData, .polled (answers.recvData k)], frameOf (answers.recvData k)⟩,
        ⟨stateAfter ⟨answers, k + 1⟩ (answers.recvData k)⟩) := by
  rw [pollFrame]
  simp only [pass, pollFrame_reading, Option.map_some]
  rfl

end H3ResponseBody

end MechanicsHttpClient.Source
