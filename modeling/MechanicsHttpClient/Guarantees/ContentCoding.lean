import MechanicsHttpClient.Source.Response
import Mathlib.Tactic.Common

/-!
# Which codings of a response are undone

The codings of a response are the list elements of its `Content-Encoding` field,
all lines taken together, and its content is what undoing the last one first
gives. `decompress` undoes one coding, named by the first line if that is visible
ASCII. `decoded_iff_first_line_suffices` says for which headers and bodies that is
the same.
-/

namespace MechanicsHttpClient.Guarantees

open MechanicsHttpClient.Source

inductive Coding where
  | identity | gzip | deflate | br
  deriving DecidableEq

/-- Names are compared without case. -/
def codingNamed (name : Str) : Option Coding :=
  let name := name.map toAsciiLowercase
  if name = "identity".toList then some .identity
  else if name = "gzip".toList ∨ name = "x-gzip".toList then some .gzip
  else if name = "deflate".toList then some .deflate
  else if name = "br".toList then some .br
  else none

/-- The elements of a comma-separated list; empty ones do not count. -/
def listElements (field : Str) : List Str :=
  ((field.splitOn ',').map Str.trim).filter fun element => !element.isEmpty

/-- The field as one line. -/
def combined : List Str → Str
  | [] => []
  | [line] => line
  | line :: lines => line ++ ',' :: ' ' :: combined lines

/-- The codings in the order they were applied; `none` when a line is not text or
an element is not a supported coding. -/
def codings (lines : List HeaderValue) : Option (List Coding) :=
  (lines.mapM HeaderValue.toStr).bind fun lines => (listElements (combined lines)).mapM codingNamed

def undo (decoders : Decoders) : Coding → Bytes → Except Str Bytes
  | .identity => .ok
  | .gzip => decoders.gz
  | .deflate => decoders.zlib
  | .br => decoders.brotli

/-- Undo codings that were applied from left to right. -/
def undoAll (decoders : Decoders) : List Coding → Bytes → Except Str Bytes
  | [], body => .ok body
  | coding :: later, body => (undoAll decoders later body).bind (undo decoders coding)

/-- `result` is the decoded content, or a decoding error for a field that lists
anything but supported codings. -/
def Decoded (decoders : Decoders) (lines : List HeaderValue) (body : Bytes)
    (result : Except Error Bytes) : Prop :=
  (∀ content, result = .ok content →
    ∃ applied, codings lines = some applied ∧ undoAll decoders applied body = .ok content) ∧
  (codings lines = none → ∃ message, result = .error (.decode message))

theorem listElements_append (line rest : Str) :
    listElements (line ++ ',' :: rest) = listElements line ++ listElements rest := by
  simp only [listElements, List.splitOn_append_cons_self, List.map_append, List.filter_append]

theorem trim_blank (s : Str) : Str.trim (' ' :: s) = Str.trim s := by
  have blank : isWhitespace ' ' = true := by decide
  simp only [Str.trim, Str.trimMatches, List.dropWhile_cons_of_pos blank]

/-- A blank in front of a list belongs to its first element, which is trimmed. -/
theorem listElements_blank (rest : Str) : listElements (' ' :: rest) = listElements rest := by
  have noComma : (' ' == ',') = false := by decide
  unfold listElements
  rw [List.splitOn_cons_eq_if_modifyHead, if_neg (by simp [noComma])]
  cases pieces : rest.splitOn ',' with
  | nil => rfl
  | cons first later => simp only [List.modifyHead_cons, List.map_cons, trim_blank]

theorem listElements_combined (line : Str) (lines : List Str) :
    listElements (combined (line :: lines)) = listElements line ++ listElements (combined lines) := by
  cases lines with
  | nil =>
    have none_left : listElements (combined []) = [] := by decide
    rw [none_left, List.append_nil]
    rfl
  | cons next later =>
    have joined : combined (line :: next :: later) =
        line ++ ',' :: ' ' :: combined (next :: later) := rfl
    rw [joined, listElements_append, listElements_blank]

theorem codings_cons {first : HeaderValue} {text : Str} (rest : List HeaderValue)
    (isText : first.toStr = some text) :
    codings (first :: rest) =
      ((listElements text).mapM codingNamed).bind fun own =>
        (codings rest).map fun later => own ++ later := by
  unfold codings
  simp only [List.mapM_cons, isText]
  cases rest.mapM HeaderValue.toStr with
  | none => simp
  | some lines =>
    simp only [Option.bind_some, Option.pure_def, Option.bind_eq_bind, listElements_combined,
      List.mapM_append, Option.map_eq_bind]
    rfl

theorem codings_not_text {first : HeaderValue} (rest : List HeaderValue)
    (noText : first.toStr = none) : codings (first :: rest) = none := by
  simp [codings, noText]

/-- The coding that `decompress` finds in a text; no text at all is `identity`. -/
def soleCoding (text : Str) : Option Coding :=
  if text.trim = [] then some .identity else codingNamed text.trim

/-- What an error of the decoder is prefixed with. -/
def decodeErrorPrefix : Coding → Str
  | .identity => []
  | .gzip => "gzip decode: ".toList
  | .deflate => "deflate decode: ".toList
  | .br => "brotli decode: ".toList

theorem decompress_eq (decoders : Decoders) (encoding : Option Str) (body : Bytes) :
    decompress decoders encoding body =
      match soleCoding (encoding.getD "identity".toList) with
      | some coding =>
        (undo decoders coding body).mapError fun e => .decode (decodeErrorPrefix coding ++ e)
      | none =>
        .error (.decode ("unsupported Content-Encoding `".toList ++
          (encoding.getD "identity".toList).trim.map toAsciiLowercase ++ "`".toList)) := by
  generalize text_eq : encoding.getD "identity".toList = text
  unfold decompress soleCoding codingNamed
  rw [text_eq]
  by_cases blank : text.trim = []
  · simp [blank, undo, Except.mapError]
  · have named : text.trim.map toAsciiLowercase ≠ "".toList := by simpa using blank
    simp only [if_neg blank, named, false_or]
    generalize text.trim.map toAsciiLowercase = kind
    split
    · rfl
    · split
      · rfl
      · split
        · rfl
        · split
          · rfl
          · rfl

theorem decompress_ok_iff (decoders : Decoders) (encoding : Option Str) (body content : Bytes) :
    decompress decoders encoding body = .ok content ↔
      ∃ coding, soleCoding (encoding.getD "identity".toList) = some coding ∧
        undo decoders coding body = .ok content := by
  rw [decompress_eq]
  cases soleCoding (encoding.getD "identity".toList) with
  | none => simp
  | some coding =>
    simp only [Option.some.injEq, exists_eq_left']
    cases undo decoders coding body with
    | error e => exact ⟨nofun, nofun⟩
    | ok decoded => simp [Except.mapError]

/-- Decompression fails with decoding errors only. -/
theorem decompress_error {decoders : Decoders} {encoding : Option Str} {body : Bytes}
    {err : Error} (failed : decompress decoders encoding body = .error err) :
    ∃ message, err = .decode message := by
  rw [decompress_eq] at failed
  split at failed
  · rename_i coding _
    cases result : undo decoders coding body with
    | error e =>
      rw [result] at failed
      cases failed
      exact ⟨_, rfl⟩
    | ok decoded =>
      rw [result] at failed
      cases failed
  · cases failed
    exact ⟨_, rfl⟩

theorem comma_of_codingNamed {name : Str} {coding : Coding} (named : codingNamed name = some coding) :
    ',' ∉ name := by
  intro comma
  have lower : ',' ∈ name.map toAsciiLowercase := List.mem_map.mpr ⟨',', comma, by decide⟩
  unfold codingNamed at named
  dsimp only at named
  generalize name.map toAsciiLowercase = kind at named lower
  split at named
  · subst kind
    simp at lower
  · split at named
    · rename_i isGzip
      rcases isGzip with rfl | rfl
      · simp at lower
      · simp at lower
    · split at named
      · subst kind
        simp at lower
      · split at named
        · subst kind
          simp at lower
        · cases named

theorem listElements_of_soleCoding {text : Str} {coding : Coding}
    (sole : soleCoding text = some coding) :
    (text.trim = [] ∧ coding = .identity ∧ listElements text = []) ∨
      (codingNamed text.trim = some coding ∧ listElements text = [text.trim]) := by
  have noComma : ',' ∉ text.trim := by
    unfold soleCoding at sole
    split at sole
    · rename_i blank
      rw [blank]
      nofun
    · exact comma_of_codingNamed sole
  have single : text.splitOn ',' = [text] :=
    List.splitOn_eq_singleton fun comma => noComma (Str.mem_trimMatches comma (by decide))
  unfold soleCoding at sole
  unfold listElements
  rw [single]
  by_cases blank : text.trim = []
  · rw [if_pos blank] at sole
    cases sole
    exact .inl ⟨blank, rfl, by simp [blank]⟩
  · rw [if_neg blank] at sole
    exact .inr ⟨sole, by simp [blank]⟩

/-- The first line is text, and it names nothing supported, or a coding whose
decoder rejects the body, or one that gives the same as undoing the supported
codings of the later lines as well. -/
def FirstLineSuffices (decoders : Decoders) (lines : List HeaderValue) (body : Bytes) : Prop :=
  match lines with
  | [] => True
  | first :: later =>
    match first.toStr with
    | none => False
    | some text =>
      ∀ coding, soleCoding text = some coding →
        (∃ e, undo decoders coding body = .error e) ∨
          ∃ applied, codings later = some applied ∧
            undoAll decoders (coding :: applied) body = undo decoders coding body

/-- A first line with one coding or none puts it in front of the others. -/
theorem undo_first_line (decoders : Decoders) {first : HeaderValue} {text : Str} {coding : Coding}
    (isText : first.toStr = some text) (sole : soleCoding text = some coding)
    (later : List HeaderValue) (body content : Bytes) :
    (∃ applied, codings (first :: later) = some applied ∧
        undoAll decoders applied body = .ok content) ↔
      ∃ applied, codings later = some applied ∧
        undoAll decoders (coding :: applied) body = .ok content := by
  rw [codings_cons later isText]
  rcases listElements_of_soleCoding sole with ⟨-, rfl, elements⟩ | ⟨named, elements⟩
  · have same : ∀ applied, undoAll decoders (.identity :: applied) body =
        undoAll decoders applied body := by
      intro applied
      rw [undoAll]
      cases undoAll decoders applied body with
      | error e => rfl
      | ok decoded => rfl
    simp [elements, same]
  · simp [elements, named]

/-- Nothing is listed, or nothing legible: the body is returned as it is. -/
theorem soleCoding_default : soleCoding "identity".toList = some .identity := by decide

theorem decoded_of_ok {decoders : Decoders} {lines : List HeaderValue} {body : Bytes}
    {encoding : Option Str}
    (sound : ∀ content, decompress decoders encoding body = .ok content →
      ∃ applied, codings lines = some applied ∧ undoAll decoders applied body = .ok content) :
    Decoded decoders lines body (decompress decoders encoding body) := by
  refine ⟨sound, ?_⟩
  intro unsupported
  cases result : decompress decoders encoding body with
  | error err =>
    obtain ⟨message, rfl⟩ := decompress_error result
    exact ⟨message, rfl⟩
  | ok content =>
    obtain ⟨applied, supported, -⟩ := sound content result
    rw [unsupported] at supported
    cases supported

theorem decompress_decoded_iff (decoders : Decoders) (lines : List HeaderValue) (body : Bytes) :
    Decoded decoders lines body (decompress decoders (lines.head?.bind HeaderValue.toStr) body) ↔
      FirstLineSuffices decoders lines body := by
  unfold FirstLineSuffices
  cases lines with
  | nil =>
    refine ⟨fun _ => trivial, fun _ => decoded_of_ok ?_⟩
    intro content result
    obtain ⟨coding, sole, undone⟩ := (decompress_ok_iff _ _ _ _).mp result
    rw [show (([] : List HeaderValue).head?.bind HeaderValue.toStr).getD "identity".toList =
      "identity".toList from rfl, soleCoding_default] at sole
    cases sole
    exact ⟨[], by decide, undone⟩
  | cons first later =>
    simp only [List.head?_cons, Option.bind_some]
    cases isText : first.toStr with
    | none =>
      simp only [iff_false]
      rintro ⟨sound, -⟩
      obtain ⟨applied, supported, -⟩ := sound body
        ((decompress_ok_iff _ _ _ _).mpr ⟨.identity, soleCoding_default, rfl⟩)
      rw [codings_not_text later isText] at supported
      cases supported
    | some text =>
      dsimp only
      constructor
      · rintro ⟨sound, -⟩ coding sole
        cases undone : undo decoders coding body with
        | error e => exact .inl ⟨e, rfl⟩
        | ok content =>
          have result := sound content ((decompress_ok_iff _ _ _ _).mpr ⟨coding, sole, undone⟩)
          exact .inr ((undo_first_line decoders isText sole later body content).mp result)
      · intro suffices_first
        refine decoded_of_ok ?_
        intro content result
        obtain ⟨coding, sole, undone⟩ := (decompress_ok_iff _ _ _ _).mp result
        rw [Option.getD_some] at sole
        rw [undo_first_line decoders isText sole later body content]
        rcases suffices_first coding sole with ⟨e, failed⟩ | ⟨applied, supported, same⟩
        · rw [failed] at undone
          cases undone
        · exact ⟨applied, supported, same.trans undone⟩

/-- The result of `bytes_with_cap` on collected bytes is the decoded content
exactly when the first `Content-Encoding` line suffices. -/
theorem decoded_iff_first_line_suffices (decoders : Decoders) (headers : HeaderMap)
    (body : BodyFrames) (cap : Usize) (raw : Bytes)
    (collected : body.collect cap = some (.ok raw)) :
    ∃ result, bytesWithCap decoders headers (some body) cap = some result ∧
      (Decoded decoders (headers.getAll HeaderName.contentEncoding) raw result ↔
        FirstLineSuffices decoders (headers.getAll HeaderName.contentEncoding) raw) := by
  refine ⟨_, ?_, decompress_decoded_iff decoders _ raw⟩
  simp only [bytesWithCap, collected, Option.map_some]
  rfl

/-- Decoders that reject everything. -/
def noDecoders : Decoders := ⟨fun _ => .error [], fun _ => .error [], fun _ => .error []⟩

def contentEncoding (values : List HeaderValue) : HeaderMap :=
  HeaderMap.empty.appendAll (values.map fun value => (HeaderName.contentEncoding, value))

def identityValue : HeaderValue := ⟨"identity".toList.flatMap String.utf8EncodeChar, by decide⟩

/-- A body sent plainly, which two lines say. -/
theorem decoded_identity_twice :
    bytesWithCap noDecoders (contentEncoding [identityValue, identityValue])
        (some (.hyper [.ok (.data [104, 105])])) 8 = some (.ok [104, 105]) ∧
      Decoded noDecoders
        ((contentEncoding [identityValue, identityValue]).getAll HeaderName.contentEncoding)
        [104, 105] (.ok [104, 105]) := by
  obtain ⟨result, returned, decoded_iff⟩ := decoded_iff_first_line_suffices noDecoders
    (contentEncoding [identityValue, identityValue]) (.hyper [.ok (.data [104, 105])]) 8 [104, 105]
    (by rfl)
  have plain : bytesWithCap noDecoders (contentEncoding [identityValue, identityValue])
      (some (.hyper [.ok (.data [104, 105])])) 8 = some (.ok [104, 105]) := by decide
  cases returned.symm.trans plain
  refine ⟨plain, decoded_iff.mpr ?_⟩
  intro coding sole
  have isIdentity : soleCoding "identity".toList = some coding := sole
  cases isIdentity.symm.trans soleCoding_default
  exact .inr ⟨[.identity], by decide, rfl⟩

def zstdValue : HeaderValue := ⟨"zstd".toList.flatMap String.utf8EncodeChar, by decide⟩

/-- The name of a coding, then a byte beyond ASCII. -/
def illegibleValue : HeaderValue := ⟨[103, 122, 105, 112, 233], by decide⟩

/-- A coding on the second line, and one that is no text, go unnoticed: the body is
returned as it came. -/
theorem still_encoded_returned :
    bytesWithCap noDecoders (contentEncoding [identityValue, zstdValue])
        (some (.hyper [.ok (.data [40, 181, 47, 253])])) 8 = some (.ok [40, 181, 47, 253]) ∧
      ¬ Decoded noDecoders
        ((contentEncoding [identityValue, zstdValue]).getAll HeaderName.contentEncoding)
        [40, 181, 47, 253] (.ok [40, 181, 47, 253]) ∧
      bytesWithCap noDecoders (contentEncoding [illegibleValue])
        (some (.hyper [.ok (.data [31, 139, 8])])) 8 = some (.ok [31, 139, 8]) ∧
      ¬ Decoded noDecoders
        ((contentEncoding [illegibleValue]).getAll HeaderName.contentEncoding)
        [31, 139, 8] (.ok [31, 139, 8]) := by
  have undecodable : ∀ values body, codings ((contentEncoding values).getAll
      HeaderName.contentEncoding) = none → ¬ Decoded noDecoders
        ((contentEncoding values).getAll HeaderName.contentEncoding) body (.ok body) := by
    rintro values body unsupported ⟨-, rejected⟩
    obtain ⟨message, same⟩ := rejected unsupported
    cases same
  refine ⟨by decide, undecodable _ _ (by decide), by decide, undecodable _ _ (by decide)⟩

end MechanicsHttpClient.Guarantees
