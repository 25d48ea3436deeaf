import MechanicsHttpClient.Guarantees.BodyCap
import MechanicsHttpClient.Guarantees.StreamEnd

/-!
# Responses with and without content

An answer to HEAD, and a response with status 204 or 304, ends with its header
section, but may bear the `Content-Encoding` of the full representation.
`decompress` gives the empty body to the reader of that coding all the same, and
to `GzDecoder` no bytes are a truncated stream. `readable_iff_decodes_empty` says
which responses can be read; the readers are parameters.
-/

namespace MechanicsHttpClient.Guarantees

open MechanicsHttpClient.Source

def carriesContent (method : Method) (status : UInt16) : Bool :=
  decide (method ≠ .head ∧ status ≠ 204 ∧ status ≠ 304)

/-- `wire` is `payload` in the coding. -/
def Encodes (formats : Formats) : Coding → Bytes → Bytes → Prop
  | .identity, wire, payload => wire = payload
  | .gzip, wire, payload => formats.gzip.encodes wire payload
  | .deflate, wire, payload => formats.zlib.encodes wire payload
  | .br, wire, payload => formats.brotli.encodes wire payload

/-- The one `Content-Encoding` value names the coding. -/
def NamesCoding (headers : HeaderMap) (coding : Coding) : Prop :=
  ∃ value name, headers.getAll HeaderName.contentEncoding = [value] ∧
    value.toStr = some name ∧ codingNamed name.trim = some coding

/-- A response as its server means it, with what is sent after the header section. -/
structure Legitimate (formats : Formats) (method : Method) (parts : ResponseParts)
    (coding : Coding) (wire payload : Bytes) : Prop where
  named : NamesCoding parts.headers coding
  encoded : carriesContent method parts.status = true → Encodes formats coding wire payload
  absent : carriesContent method parts.status = false → wire = []

/-- The frames carry `wire`, cut in any way, and none is an error. -/
def Delivers (wire : Bytes) : BodyFrames → Prop
  | .hyper frames => ErrorFree frames ∧ content frames = wire
  | .h3 frames => ErrorFree frames ∧ content frames = wire

/-- The payload is read, or nothing where there is none. -/
def Readable (decoders : Decoders) (method : Method) (parts : ResponseParts) (payload : Bytes)
    (body : BodyFrames) : Prop :=
  if carriesContent method parts.status = true then
    bytes decoders parts.headers (some body) = some (.ok payload)
  else
    bytes decoders parts.headers (some body) = some (.ok []) ∧
      text decoders parts.headers (some body) = some (.ok [])

/-- What is documented of the readers. -/
structure Documented (decoders : Decoders) (formats : Formats) : Prop where
  complete : ∀ coding wire payload, Encodes formats coding wire payload →
    undo decoders coding wire = .ok payload
  gzEmpty : ∃ e, decoders.gz [] = .error e

/-- The reader of the coding finds no payload in no bytes. -/
def DecodesEmpty (decoders : Decoders) : Coding → Prop
  | .identity => True
  | .gzip => False
  | .deflate => decoders.zlib [] = .ok []
  | .br => decoders.brotli [] = .ok []

theorem collect_delivered {wire : Bytes} {body : BodyFrames} (delivered : Delivers wire body)
    (cap : Usize) (raw : Bytes) :
    body.collect cap = some (.ok raw) ↔
      wire.length ≤ cap.toNat ∧ wire.length ≤ isizeMax ∧ raw = wire := by
  cases body with
  | hyper frames =>
    obtain ⟨sound, rfl⟩ := delivered
    have spec := (collectWithCap_capped mapHyperBodyError cap frames).ok raw
    simp only [sound, true_and] at spec
    exact spec
  | h3 frames =>
    obtain ⟨sound, rfl⟩ := delivered
    have spec := (collectWithCap_capped id cap frames).ok raw
    simp only [sound, true_and] at spec
    exact spec

theorem soleCoding_named {name : Str} {coding : Coding}
    (named : codingNamed name.trim = some coding) : soleCoding name = some coding := by
  unfold soleCoding
  split
  · rename_i blank
    have unnamed : codingNamed [] = none := by decide
    rw [blank, unnamed] at named
    cases named
  · exact named

theorem bytes_delivered_iff {decoders : Decoders} {headers : HeaderMap} {coding : Coding}
    {wire : Bytes} {body : BodyFrames} (named : NamesCoding headers coding)
    (delivered : Delivers wire body) (payload : Bytes) :
    bytes decoders headers (some body) = some (.ok payload) ↔
      wire.length ≤ isizeMax ∧ undo decoders coding wire = .ok payload := by
  obtain ⟨value, name, single, isText, named⟩ := named
  have found : (headers.get HeaderName.contentEncoding).bind HeaderValue.toStr = some name := by
    simp [HeaderMap.get, single, isText]
  have decoded : ∀ raw, decompress decoders (some name) raw = .ok payload ↔
      undo decoders coding raw = .ok payload := by
    intro raw
    rw [decompress_ok_iff, Option.getD_some, soleCoding_named named]
    simp
  have room : wire.length ≤ isizeMax → wire.length ≤ (UInt64.ofNat usizeMax).toNat := by
    have top : (UInt64.ofNat usizeMax).toNat = usizeMax := by decide
    rw [top]
    unfold isizeMax usizeMax
    omega
  have collected := collect_delivered delivered (UInt64.ofNat usizeMax)
  unfold bytes bytesWithCap
  rw [found]
  constructor
  · intro read
    dsimp only at read
    cases result : body.collect (UInt64.ofNat usizeMax) with
    | none => simp [result] at read
    | some outcome =>
      cases outcome with
      | error e => simp [result] at read
      | ok raw =>
        obtain ⟨-, within, rfl⟩ := (collected raw).mp result
        simp only [result, Option.map_some, Option.some.injEq] at read
        exact ⟨within, (decoded raw).mp read⟩
  · rintro ⟨within, undone⟩
    have result := (collected wire).mpr ⟨room within, within, rfl⟩
    simp only [result, Option.map_some, (decoded wire).mpr undone]

theorem text_of_bytes {decoders : Decoders} {headers : HeaderMap} {body : Option BodyFrames}
    {s : Str} (read : bytes decoders headers body = some (.ok (s.flatMap String.utf8EncodeChar))) :
    text decoders headers body = some (.ok s) := by
  unfold text
  rw [read, Option.map_some]
  dsimp only
  rw [fromUtf8_encoded]
  rfl

theorem undo_empty_iff {decoders : Decoders} {formats : Formats}
    (documented : Documented decoders formats) (coding : Coding) :
    undo decoders coding [] = .ok [] ↔ DecodesEmpty decoders coding := by
  obtain ⟨e, rejected⟩ := documented.gzEmpty
  cases coding with
  | identity => simp [undo, DecodesEmpty]
  | gzip => simp [undo, DecodesEmpty, rejected]
  | deflate => rfl
  | br => rfl

/-- A response with content can be read unless it is larger than a buffer can be,
and one without content exactly when its coding is read to nothing. -/
theorem readable_iff_decodes_empty (decoders : Decoders) (formats : Formats)
    (documented : Documented decoders formats) (method : Method) (parts : ResponseParts)
    (coding : Coding) (wire payload : Bytes)
    (legitimate : Legitimate formats method parts coding wire payload) (body : BodyFrames)
    (delivered : Delivers wire body) :
    Readable decoders method parts payload body ↔
      if carriesContent method parts.status = true then wire.length ≤ isizeMax
      else DecodesEmpty decoders coding := by
  have read : ∀ out, bytes decoders parts.headers (some body) = some (.ok out) ↔
      wire.length ≤ isizeMax ∧ undo decoders coding wire = .ok out :=
    bytes_delivered_iff legitimate.named delivered
  unfold Readable
  cases carried : carriesContent method parts.status with
  | true =>
    have undone := documented.complete _ _ _ (legitimate.encoded carried)
    simp only [if_true, read payload, undone, and_true]
  | false =>
    obtain rfl := legitimate.absent carried
    have nothing : bytes decoders parts.headers (some body) = some (.ok []) ↔
        DecodesEmpty decoders coding := by
      rw [read [], undo_empty_iff documented]
      simp
    simp only [Bool.false_eq_true, if_false]
    constructor
    · rintro ⟨empty, -⟩
      exact nothing.mp empty
    · intro decodes
      have empty := nothing.mpr decodes
      exact ⟨empty, text_of_bytes empty⟩

/-- Readers that stop at the end of a stream read one that is all there is. -/
theorem StopAtFirst.documented {decoders : Decoders} {formats : Formats}
    (stops : StopAtFirst decoders formats) (gzEmpty : ∃ e, decoders.gz [] = .error e) :
    Documented decoders formats where
  complete coding wire payload encoded := by
    cases coding with
    | identity => exact congrArg Except.ok encoded
    | gzip => exact stops.gz.stream encoded
    | deflate => exact stops.zlib.stream encoded
    | br => exact stops.brotli.stream encoded
  gzEmpty := gzEmpty

theorem tableDecoders_documented : Documented tableDecoders tableFormats :=
  tableDecoders_stopAtFirst.documented ⟨_, rfl⟩

/-- In capitals and with a blank around it. -/
def gzipValue : HeaderValue := ⟨" GZIP ".toList.flatMap String.utf8EncodeChar, by decide⟩

theorem gzipValue_names : NamesCoding (contentEncoding [gzipValue]) .gzip :=
  ⟨gzipValue, " GZIP ".toList, by decide, by decide, by decide⟩

/-- A member that comes in two frames, between them one with trailers. -/
def letterFrames : BodyFrames :=
  .h3 [.ok (.data (letterMember.take 7)), .ok (.trailers .empty), .ok (.data (letterMember.drop 7))]

theorem readable_letter :
    Readable tableDecoders .get ⟨200, contentEncoding [gzipValue]⟩ [97] letterFrames ↔
      if carriesContent .get 200 = true then letterMember.length ≤ isizeMax
      else DecodesEmpty tableDecoders .gzip :=
  readable_iff_decodes_empty tableDecoders tableFormats tableDecoders_documented .get
    ⟨200, contentEncoding [gzipValue]⟩ .gzip letterMember [97]
    ⟨gzipValue_names, fun _ => List.mem_cons_of_mem _ List.mem_cons_self, by decide⟩ letterFrames
    ⟨by simp [errorFree_nil], by decide⟩

/-- The answer to HEAD for a resource that is sent with gzip. -/
theorem head_of_gzip_unreadable :
    Documented tableDecoders tableFormats ∧
      Legitimate tableFormats .head ⟨200, contentEncoding [gzipValue]⟩ .gzip [] [97] ∧
      Delivers [] (.hyper []) ∧
      bytes tableDecoders (contentEncoding [gzipValue]) (some (.hyper [])) =
        some (.error (.decode "gzip decode: invalid gzip header".toList)) ∧
      ¬ Readable tableDecoders .head ⟨200, contentEncoding [gzipValue]⟩ [97] (.hyper []) := by
  have failed : bytes tableDecoders (contentEncoding [gzipValue]) (some (.hyper [])) =
      some (.error (.decode "gzip decode: invalid gzip header".toList)) := by decide
  have contentless : carriesContent .head 200 = false := by decide
  refine ⟨tableDecoders_documented, ⟨gzipValue_names, by simp [contentless], fun _ => rfl⟩,
    ⟨errorFree_nil, rfl⟩, failed, ?_⟩
  intro readable
  have empty := readable.1
  rw [failed] at empty
  cases empty

end MechanicsHttpClient.Guarantees
