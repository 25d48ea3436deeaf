import MechanicsHttpClient.Data.SelfDelimiting
import MechanicsHttpClient.Guarantees.ContentCoding

/-!
# Decompression and the end of the first stream

The readers of flate2 and brotli stop at the end of the first complete stream and
report what they have decoded up to there. Whatever follows is dropped: further
gzip members as well as bytes that belong to no stream. The formats are parameters,
of which only that they are self-delimiting is used.
-/

namespace MechanicsHttpClient.Guarantees

open MechanicsHttpClient.Source MechanicsHttpClient.Data

structure Formats where
  gzip : StreamFormat UInt8
  zlib : StreamFormat UInt8
  brotli : StreamFormat UInt8

/-- The documented behaviour of the three readers. -/
structure StopAtFirst (decoders : Decoders) (formats : Formats) : Prop where
  gz : formats.gzip.StopsAtFirst decoders.gz
  zlib : formats.zlib.StopsAtFirst decoders.zlib
  brotli : formats.brotli.StopsAtFirst decoders.brotli

/-- All of the body is an encoding of `content`: one stream, or a sequence of
members in gzip. -/
def EncodesWhole (formats : Formats) : Coding → Bytes → Bytes → Prop
  | .identity, body, content => content = body
  | .gzip, body, content => formats.gzip.IsSequence body content
  | .deflate, body, content => formats.zlib.encodes body content
  | .br, body, content => formats.brotli.encodes body content

/-- The result accounts for all of the body: it is the content of all of it, or an
error when the body as a whole has no content. -/
structure NothingDropped (formats : Formats) (coding : Coding) (body : Bytes)
    (result : Except Error Bytes) : Prop where
  sound : ∀ content, result = .ok content → EncodesWhole formats coding body content
  complete : ∀ content, EncodesWhole formats coding body content → result = .ok content
  rejected : (∀ content, ¬ EncodesWhole formats coding body content) →
    ∃ message, result = .error (.decode message)

/-- The body is one stream, followed by empty members only in gzip, or the reader
rejects it. -/
def EndsWithFirstStream (formats : Formats) (decoders : Decoders) (body : Bytes) :
    Coding → Prop
  | .identity => True
  | .gzip => formats.gzip.OneFilledMember body ∨ ∃ e, decoders.gz body = .error e
  | .deflate => (∃ content, formats.zlib.encodes body content) ∨ ∃ e, decoders.zlib body = .error e
  | .br => (∃ content, formats.brotli.encodes body content) ∨ ∃ e, decoders.brotli body = .error e

/-- The fact about the result, as one about the reader of the coding. -/
theorem nothingDropped_iff_undo {formats : Formats} {decoders : Decoders} {coding : Coding}
    {encoding : Option Str} (sole : soleCoding (encoding.getD "identity".toList) = some coding)
    (body : Bytes) :
    NothingDropped formats coding body (decompress decoders encoding body) ↔
      (∀ content, undo decoders coding body = .ok content →
        EncodesWhole formats coding body content) ∧
      ∀ content, EncodesWhole formats coding body content →
        undo decoders coding body = .ok content := by
  have same : ∀ content, decompress decoders encoding body = .ok content ↔
      undo decoders coding body = .ok content := by
    intro content
    rw [decompress_ok_iff, sole]
    simp
  constructor
  · rintro ⟨sound, complete, -⟩
    exact ⟨fun content undone => sound content ((same content).mpr undone),
      fun content whole => (same content).mp (complete content whole)⟩
  · rintro ⟨sound, complete⟩
    constructor
    case sound => exact fun content result => sound content ((same content).mp result)
    case complete => exact fun content whole => (same content).mpr (complete content whole)
    case rejected =>
      intro nothing
      cases result : decompress decoders encoding body with
      | ok content => exact absurd (sound content ((same content).mp result)) (nothing content)
      | error err =>
        obtain ⟨message, rfl⟩ := decompress_error result
        exact ⟨message, rfl⟩

/-- Decompression accounts for all of a body exactly when the body ends with its
first stream, up to empty gzip members, or is rejected. -/
theorem nothing_dropped_iff_one_stream (formats : Formats) (decoders : Decoders)
    (stops : StopAtFirst decoders formats) (encoding : Option Str) (coding : Coding)
    (sole : soleCoding (encoding.getD "identity".toList) = some coding) (body : Bytes) :
    NothingDropped formats coding body (decompress decoders encoding body) ↔
      EndsWithFirstStream formats decoders body coding := by
  rw [nothingDropped_iff_undo sole]
  cases coding with
  | identity =>
    simp only [EndsWithFirstStream, iff_true]
    constructor
    · intro content undone
      cases undone
      rfl
    · rintro content rfl
      rfl
  | gzip => exact StreamFormat.readsSequences_iff stops.gz body
  | deflate => exact StreamFormat.readsStream_iff stops.zlib body
  | br => exact StreamFormat.readsStream_iff stops.brotli body

/-- What gzip makes of no bytes. -/
def emptyMember : Bytes := [31, 139, 8, 0, 0, 0, 0, 0, 0, 3, 3, 0, 0, 0, 0, 0, 0, 0, 0, 0]

/-- What gzip makes of the letter `a`. -/
def letterMember : Bytes :=
  [31, 139, 8, 0, 0, 0, 0, 0, 0, 3, 75, 4, 0, 67, 190, 183, 232, 1, 0, 0, 0]

def gzipTable : List (Bytes × Bytes) := [(emptyMember, []), (letterMember, [97])]

/-- What zlib makes of the letter `a`. -/
def zlibTable : List (Bytes × Bytes) := [([120, 156, 75, 4, 0, 0, 98, 0, 98], [97])]

/-- What brotli makes of no bytes. -/
def brotliTable : List (Bytes × Bytes) := [([6], [])]

def tableFormats : Formats where
  gzip := .ofTable gzipTable (by decide)
  zlib := .ofTable zlibTable (by decide)
  brotli := .ofTable brotliTable (by decide)

/-- Readers that know the streams of the tables. -/
def tableDecoders : Decoders where
  gz := StreamFormat.readTable "invalid gzip header".toList gzipTable
  zlib := StreamFormat.readTable "corrupt deflate stream".toList zlibTable
  brotli := StreamFormat.readTable "Invalid Data".toList brotliTable

theorem tableDecoders_stopAtFirst : StopAtFirst tableDecoders tableFormats where
  gz := StreamFormat.readTable_stopsAtFirst _ gzipTable (by decide)
  zlib := StreamFormat.readTable_stopsAtFirst _ zlibTable (by decide)
  brotli := StreamFormat.readTable_stopsAtFirst _ brotliTable (by decide)

/-- A single member is decoded. -/
theorem nothing_dropped_one_member :
    NothingDropped tableFormats .gzip letterMember
        (decompress tableDecoders (some "gzip".toList) letterMember) ↔
      EndsWithFirstStream tableFormats tableDecoders letterMember .gzip :=
  nothing_dropped_iff_one_stream tableFormats tableDecoders tableDecoders_stopAtFirst
    (some "gzip".toList) .gzip (by decide) letterMember

/-- Of two members only the first is decoded. -/
theorem second_member_dropped :
    EncodesWhole tableFormats .gzip (letterMember ++ letterMember) [97, 97] ∧
      decompress tableDecoders (some "gzip".toList) (letterMember ++ letterMember) = .ok [97] ∧
      ¬ NothingDropped tableFormats .gzip (letterMember ++ letterMember)
        (decompress tableDecoders (some "gzip".toList) (letterMember ++ letterMember)) := by
  have whole : EncodesWhole tableFormats .gzip (letterMember ++ letterMember) [97, 97] := by
    refine ⟨(letterMember, [97]), [(letterMember, [97])], ?_, by decide, by decide⟩
    intro member mem
    have listed : member = (letterMember, [97]) := by simpa using mem
    rw [listed]
    exact List.mem_cons_of_mem _ List.mem_cons_self
  have result : decompress tableDecoders (some "gzip".toList) (letterMember ++ letterMember) =
      .ok [97] := by decide
  refine ⟨whole, result, ?_⟩
  rintro ⟨-, complete, -⟩
  have both := complete _ whole
  rw [result] at both
  cases both

end MechanicsHttpClient.Guarantees
