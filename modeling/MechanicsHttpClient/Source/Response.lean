import MechanicsHttpClient.Source.H3ResponseBody

/-!
# response: reading a body, with a cap and decompressed

src/response.rs:77-236. A body is what its successive `frame().await` return
until `None`. The two copies of the collecting loop differ only in the error of
the body, so they are one loop with the conversion of the error as a parameter.

Sizes are `usize` on a 64-bit target. `BytesMut` never holds more than
`isize::MAX` bytes: growing it past that panics, which the model makes `none`.
The decoders of flate2 and brotli are parameters; the allocation of their output
is not modelled.
-/

namespace MechanicsHttpClient.Source

abbrev Usize := UInt64

def usizeMax : Nat := 2 ^ 64 - 1

def isizeMax : Nat := 2 ^ 63 - 1

/-- `usize::saturating_add`. -/
def saturatingAdd (a b : Nat) : Nat := min (a + b) usizeMax

structure BytesMut where
  bytes : Bytes
  fits : bytes.length ≤ isizeMax

namespace BytesMut

def new : BytesMut := ⟨[], Nat.zero_le _⟩

def len (buf : BytesMut) : Nat := buf.bytes.length

/-- `extend_from_slice`; `none` is its capacity overflow. -/
def extendFromSlice (buf : BytesMut) (data : Bytes) : Option BytesMut :=
  if h : (buf.bytes ++ data).length ≤ isizeMax then some ⟨buf.bytes ++ data, h⟩ else none

def freeze (buf : BytesMut) : Bytes := buf.bytes

end BytesMut

/-- `Frame::into_data`. -/
def Frame.intoData : Frame → Option Bytes
  | .data bytes => some bytes
  | .trailers _ => none

/-- `hyper::Error`; only its display is looked at. -/
structure HyperError where
  display : Str
  deriving DecidableEq

/-- The lower case of a character beyond ASCII is none of the letters searched
for, so folding ASCII decides the same. -/
def mapHyperBodyError (error : HyperError) : Error :=
  let message := error.display
  let lower : Str := message.map toAsciiLowercase
  if Str.contains lower "canceled".toList ∨ Str.contains lower "cancelled".toList then
    .cancelled message
  else .unreachable message

/-- What one turn of the loop does: go on with a buffer, return, or panic. -/
inductive Turn where
  | next (buf : BytesMut)
  | leave (result : Except Error Bytes)
  | panic

/-- One turn on a frame or an error that `body.frame().await` returned. -/
def collectTurn {ε : Type} (mapError : ε → Error) (maxBytes : Usize) (buf : BytesMut) :
    Except ε Frame → Turn
  | .ok frame =>
    match frame.intoData with
    | none => .next buf
    | some data =>
      let newTotal := saturatingAdd buf.len data.length
      if newTotal > maxBytes.toNat then .leave (.error (.bodyTooLarge maxBytes.toNat buf.len))
      else
        match buf.extendFromSlice data with
        | none => .panic
        | some buf => .next buf
  | .error e => .leave (.error (mapError e))

/-- The `loop`; `none` is a panic. -/
def collectLoop {ε : Type} (mapError : ε → Error) (maxBytes : Usize) :
    BytesMut → List (Except ε Frame) → Option (Except Error Bytes)
  | buf, [] => some (.ok buf.freeze)
  | buf, item :: rest =>
    match collectTurn mapError maxBytes buf item with
    | .next buf => collectLoop mapError maxBytes buf rest
    | .leave result => some result
    | .panic => none

def collectWithCap {ε : Type} (mapError : ε → Error) (body : List (Except ε Frame))
    (maxBytes : Usize) : Option (Except Error Bytes) :=
  collectLoop mapError maxBytes .new body

def collectBodyWithCap (body : List (Except HyperError Frame)) (maxBytes : Usize) :
    Option (Except Error Bytes) :=
  collectWithCap mapHyperBodyError body maxBytes

def collectMhcBodyWithCap (body : List (Except Error Frame)) (maxBytes : Usize) :
    Option (Except Error Bytes) :=
  collectWithCap id body maxBytes

/-- `collect_mhc_body_with_cap(body, max_bytes)` on a body of http3, before it is polled
for the first time, in the middle of `body.frame().await`, or over. Only a suspended
future can be dropped. The result is missing after a panic (after two, one during the
other, the process is). -/
inductive CollectMhcBody where
  | reading (suspended : Bool) (body : H3ResponseBody) (buf : BytesMut)
  | returned (result : Option (Except Error Bytes))

namespace CollectMhcBody

def new (stream : H3RequestStream) : CollectMhcBody :=
  .reading true (.new stream) .new

/-- The function returns, or unwinds from a panic, and drops the body: a panic of the
drop takes the place of the result. -/
def leaving (body : H3ResponseBody) (result : Option (Except Error Bytes)) :
    List StreamEvent × CollectMhcBody :=
  match body.drop with
  | (events, .returned) => (events, .returned result)
  | (events, .panicked) => (events, .returned none)

/-- One call of `poll_frame` and what the loop makes of it, with what happens to the
stream. -/
def turn (maxBytes : Usize) : CollectMhcBody → List StreamEvent × CollectMhcBody
  | .returned result => ([], .returned result)
  | .reading _ body buf =>
    match body.pollFrame with
    | none => ([], .returned none)
    | some (poll, body) =>
      match poll.output with
      | .pending => (poll.events, .reading true body buf)
      | .ready none =>
        let left := leaving body (some (.ok buf.freeze))
        (poll.events ++ left.1, left.2)
      | .ready (some item) =>
        match collectTurn id maxBytes buf item with
        | .next buf => (poll.events, .reading false body buf)
        | .leave result =>
          let left := leaving body (some result)
          (poll.events ++ left.1, left.2)
        | .panic =>
          let left := leaving body none
          (poll.events ++ left.1, left.2)

def turns (maxBytes : Usize) : Nat → CollectMhcBody → List StreamEvent × CollectMhcBody
  | 0, future => ([], future)
  | n + 1, future =>
    let before := turns maxBytes n future
    let last := before.2.turn maxBytes
    (before.1 ++ last.1, last.2)

/-- What dropping the future does to the stream. -/
def drop : CollectMhcBody → List StreamEvent × CallEnd
  | .reading _ body _ => body.drop
  | .returned _ => ([], .returned)

end CollectMhcBody

/-- `read_to_end` on `flate2::read::GzDecoder`, `flate2::read::ZlibDecoder` and
`brotli::Decompressor`; an error with its display. -/
structure Decoders where
  gz : Bytes → Except Str Bytes
  zlib : Bytes → Except Str Bytes
  brotli : Bytes → Except Str Bytes

/-- The room that is asked for the output, four times the body, is taken to be there. -/
def decompress (decoders : Decoders) (encoding : Option Str) (body : Bytes) :
    Except Error Bytes :=
  let kind := (encoding.getD "identity".toList).trim.map toAsciiLowercase
  if kind = "".toList ∨ kind = "identity".toList then .ok body
  else if kind = "gzip".toList ∨ kind = "x-gzip".toList then
    (decoders.gz body).mapError fun e => .decode ("gzip decode: ".toList ++ e)
  else if kind = "deflate".toList then
    (decoders.zlib body).mapError fun e => .decode ("deflate decode: ".toList ++ e)
  else if kind = "br".toList then
    (decoders.brotli body).mapError fun e => .decode ("brotli decode: ".toList ++ e)
  else .error (.decode ("unsupported Content-Encoding `".toList ++ kind ++ "`".toList))

def HeaderName.contentEncoding : HeaderName := ⟨"content-encoding".toList, by decide⟩

/-- The body of a response that is being read: the frames to come. -/
inductive BodyFrames where
  | hyper (frames : List (Except HyperError Frame))
  | h3 (frames : List (Except Error Frame))

/-- The `match` that collects the wire bytes. -/
def BodyFrames.collect (body : BodyFrames) (maxWireBytes : Usize) :
    Option (Except Error Bytes) :=
  match body with
  | .hyper frames => collectBodyWithCap frames maxWireBytes
  | .h3 frames => collectMhcBodyWithCap frames maxWireBytes

/-- `Response::bytes_with_cap` on the response's headers and its body, if that
has not been taken yet. -/
def bytesWithCap (decoders : Decoders) (headers : HeaderMap) (body : Option BodyFrames)
    (maxWireBytes : Usize) : Option (Except Error Bytes) :=
  match body with
  | none => some (.error (.internal "response body already consumed".toList))
  | some body =>
    (body.collect maxWireBytes).map fun raw =>
      match raw with
      | .error e => .error e
      | .ok raw =>
        decompress decoders ((headers.get HeaderName.contentEncoding).bind HeaderValue.toStr) raw

/-- `Response::bytes`. -/
def bytes (decoders : Decoders) (headers : HeaderMap) (body : Option BodyFrames) :
    Option (Except Error Bytes) :=
  bytesWithCap decoders headers body (UInt64.ofNat usizeMax)

/-- `std::str::Utf8Error`; no length means that the bytes end inside a character. -/
structure Utf8Error where
  validUpTo : Nat
  errorLen : Option Nat
  deriving DecidableEq

def Utf8Error.display (e : Utf8Error) : Str :=
  match e.errorLen with
  | some errorLen =>
    "invalid utf-8 sequence of ".toList ++ Nat.toDigits 10 errorLen ++
      " bytes from index ".toList ++ Nat.toDigits 10 e.validUpTo
  | none => "incomplete utf-8 byte sequence from index ".toList ++ Nat.toDigits 10 e.validUpTo

/-- The bits of a character in its first byte, and the ranges of the bytes to follow;
`none` for a byte that starts no character. -/
def utf8Lead (first : Nat) : Option (Nat × List (Nat × Nat)) :=
  if first < 0x80 then some (first, [])
  else if first < 0xC2 then none
  else if first < 0xE0 then some (first - 0xC0, [(0x80, 0xBF)])
  else if first = 0xE0 then some (first - 0xE0, [(0xA0, 0xBF), (0x80, 0xBF)])
  else if first = 0xED then some (first - 0xE0, [(0x80, 0x9F), (0x80, 0xBF)])
  else if first < 0xF0 then some (first - 0xE0, [(0x80, 0xBF), (0x80, 0xBF)])
  else if first = 0xF0 then some (first - 0xF0, [(0x90, 0xBF), (0x80, 0xBF), (0x80, 0xBF)])
  else if first < 0xF4 then some (first - 0xF0, [(0x80, 0xBF), (0x80, 0xBF), (0x80, 0xBF)])
  else if first = 0xF4 then some (first - 0xF0, [(0x80, 0x8F), (0x80, 0xBF), (0x80, 0xBF)])
  else none

/-- Go through the bytes. Of the character that starts at `start`, `read` bytes have
been read and `bits` found in them, and those of the ranges are due. -/
def utf8Scan (start read bits : Nat) : List (Nat × Nat) → Bytes → Except Utf8Error Str
  | [], [] => .ok []
  | _ :: _, [] => .error ⟨start, none⟩
  | [], first :: rest =>
    match utf8Lead first.toNat with
    | none => .error ⟨start, some 1⟩
    | some (bits, []) => (utf8Scan (start + 1) 0 0 [] rest).map (Char.ofNat bits :: ·)
    | some (bits, due) => utf8Scan start 1 bits due rest
  | (low, high) :: due, byte :: rest =>
    if low ≤ byte.toNat ∧ byte.toNat ≤ high then
      let bits := bits * 64 + byte.toNat % 64
      match due with
      | [] => (utf8Scan (start + read + 1) 0 0 [] rest).map (Char.ofNat bits :: ·)
      | due => utf8Scan start (read + 1) bits due rest
    else .error ⟨start, some read⟩

/-- `String::from_utf8`. -/
def fromUtf8 (bytes : Bytes) : Except Utf8Error Str := utf8Scan 0 0 0 [] bytes

theorem utf8Scan_single {first : UInt8} {found : Nat}
    (lead : utf8Lead first.toNat = some (found, [])) (start read bits : Nat) (rest : Bytes) :
    utf8Scan start read bits [] (first :: rest) =
      (utf8Scan (start + 1) 0 0 [] rest).map (Char.ofNat found :: ·) := by
  rw [utf8Scan, lead]

theorem utf8Scan_lead {first : UInt8} {found : Nat} {range : Nat × Nat} {due : List (Nat × Nat)}
    (lead : utf8Lead first.toNat = some (found, range :: due)) (start read bits : Nat)
    (rest : Bytes) :
    utf8Scan start read bits [] (first :: rest) = utf8Scan start 1 found (range :: due) rest := by
  rw [utf8Scan, lead]

theorem toNat_continuation (v : Nat) : (UInt8.ofNat (v % 64 + 128)).toNat = v % 64 + 128 := by
  rw [UInt8.toNat_ofNat']
  omega

/-- A byte with the low bits of `v` that is due and within its range. -/
theorem utf8Scan_more {low high v : Nat} (within : low ≤ v % 64 + 128 ∧ v % 64 + 128 ≤ high)
    (start read bits : Nat) (range : Nat × Nat) (due : List (Nat × Nat)) (rest : Bytes) :
    utf8Scan start read bits ((low, high) :: range :: due) (UInt8.ofNat (v % 64 + 128) :: rest) =
      utf8Scan start (read + 1) (bits * 64 + v % 64) (range :: due) rest := by
  have low_bits : (v % 64 + 128) % 64 = v % 64 := by omega
  rw [utf8Scan, toNat_continuation, if_pos within, low_bits]

theorem utf8Scan_last {low high v : Nat} (within : low ≤ v % 64 + 128 ∧ v % 64 + 128 ≤ high)
    (start read bits : Nat) (rest : Bytes) :
    utf8Scan start read bits [(low, high)] (UInt8.ofNat (v % 64 + 128) :: rest) =
      (utf8Scan (start + read + 1) 0 0 [] rest).map (Char.ofNat (bits * 64 + v % 64) :: ·) := by
  have low_bits : (v % 64 + 128) % 64 = v % 64 := by omega
  rw [utf8Scan, toNat_continuation, if_pos within, low_bits]

theorem utf8Scan_encodeChar (ch : Char) (start read bits : Nat) (rest : Bytes) :
    utf8Scan start read bits [] (String.utf8EncodeChar ch ++ rest) =
      (utf8Scan (start + ch.utf8Size) 0 0 [] rest).map (ch :: ·) := by
  have valid : ch.val.toNat < 0xD800 ∨ 0xDFFF < ch.val.toNat ∧ ch.val.toNat < 0x110000 :=
    ch.valid
  have whole : Char.ofNat ch.val.toNat = ch := Char.ofNat_toNat ch
  have size := String.length_utf8EncodeChar ch
  rw [← size]
  unfold String.utf8EncodeChar
  generalize ch.val.toNat = v at valid whole
  dsimp only
  split
  · rename_i one
    have lead : utf8Lead (UInt8.ofNat v).toNat = some (v, []) := by
      rw [UInt8.toNat_ofNat', Nat.mod_eq_of_lt (by omega), utf8Lead, if_pos (by omega)]
    rw [List.singleton_append, utf8Scan_single lead, whole]
    rfl
  · split
    · rename_i one two
      have lead : utf8Lead (UInt8.ofNat (v / 64 % 0x20 + 0xC0)).toNat =
          some (v / 64, [(0x80, 0xBF)]) := by
        rw [UInt8.toNat_ofNat', utf8Lead]
        grind
      have value : v / 64 * 64 + v % 64 = v := by omega
      rw [List.cons_append, utf8Scan_lead lead, List.singleton_append, utf8Scan_last (by omega),
        value, whole]
      rfl
    · split
      · rename_i one two three
        obtain ⟨low, high, lead, within⟩ : ∃ low high,
            utf8Lead (UInt8.ofNat (v / 4096 % 0x10 + 0xE0)).toNat =
              some (v / 4096, [(low, high), (0x80, 0xBF)]) ∧
            low ≤ v / 64 % 64 + 128 ∧ v / 64 % 64 + 128 ≤ high := by
          rw [UInt8.toNat_ofNat', utf8Lead]
          grind
        have value : (v / 4096 * 64 + v / 64 % 64) * 64 + v % 64 = v := by omega
        rw [List.cons_append, utf8Scan_lead lead, List.cons_append, utf8Scan_more within,
          List.singleton_append, utf8Scan_last (by omega), value, whole]
        rfl
      · rename_i one two three
        obtain ⟨low, high, lead, within⟩ : ∃ low high,
            utf8Lead (UInt8.ofNat (v / 262144 % 0x08 + 0xF0)).toNat =
              some (v / 262144, [(low, high), (0x80, 0xBF), (0x80, 0xBF)]) ∧
            low ≤ v / 4096 % 64 + 128 ∧ v / 4096 % 64 + 128 ≤ high := by
          rw [UInt8.toNat_ofNat', utf8Lead]
          grind
        have value : ((v / 262144 * 64 + v / 4096 % 64) * 64 + v / 64 % 64) * 64 + v % 64 = v := by
          omega
        rw [List.cons_append, utf8Scan_lead lead, List.cons_append, utf8Scan_more within,
          List.cons_append, utf8Scan_more (by omega), List.singleton_append,
          utf8Scan_last (by omega), value, whole]
        rfl

/-- The encoding of a text is read as that text. -/
theorem fromUtf8_encoded (s : Str) : fromUtf8 (s.flatMap String.utf8EncodeChar) = .ok s := by
  have scanned : ∀ start, utf8Scan start 0 0 [] (s.flatMap String.utf8EncodeChar) = .ok s := by
    induction s with
    | nil => exact fun start => rfl
    | cons ch rest ih =>
      intro start
      rw [List.flatMap_cons, utf8Scan_encodeChar, ih]
      rfl
  exact scanned 0

/-- `Response::text`. -/
def text (decoders : Decoders) (headers : HeaderMap) (body : Option BodyFrames) :
    Option (Except Error Str) :=
  (bytes decoders headers body).map fun read =>
    match read with
    | .error e => .error e
    | .ok bytes =>
      (fromUtf8 bytes).mapError fun e =>
        .decode ("response body is not valid UTF-8: ".toList ++ e.display)

end MechanicsHttpClient.Source
