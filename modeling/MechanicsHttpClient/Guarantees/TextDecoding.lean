import MechanicsHttpClient.Guarantees.EmptyContent

/-!
# Text is decoded exactly

src/response.rs:126-130. `text` hands the bytes to `String::from_utf8`, modelled as a scan by
the table of first bytes. Here the scan meets the encoding of characters: at the first
byte of a character it goes past the encoding of one, or it stops there because none
is encoded so. Bytes are therefore a text followed by a rest that starts no character.
-/

namespace MechanicsHttpClient.Guarantees

open MechanicsHttpClient.Source

/-- The bytes of a text. -/
def encoded (s : Str) : Bytes := s.flatMap String.utf8EncodeChar

theorem encoded_cons (ch : Char) (s : Str) :
    encoded (ch :: s) = String.utf8EncodeChar ch ++ encoded s := List.flatMap_cons

section Encoding

variable {v : Nat} {first second third fourth : UInt8}

theorem val_ofNat (valid : v.isValidChar) : (Char.ofNat v).val.toNat = v := by
  rw [Char.ofNat, dif_pos valid]
  rfl

theorem ofNat_eq {n : Nat} {byte : UInt8} (same : byte.toNat = n) : UInt8.ofNat n = byte := by
  rw [← same, UInt8.ofNat_toNat]

theorem encode_one (small : v < 0x80) (head : first.toNat = v) :
    String.utf8EncodeChar (Char.ofNat v) = [first] := by
  have value := val_ofNat (.inl (by omega) : v.isValidChar)
  unfold String.utf8EncodeChar
  rw [value]
  dsimp only
  rw [if_pos (by omega), ofNat_eq head]

theorem encode_two (range : 0x80 ≤ v ∧ v < 0x800) (head : first.toNat = v / 64 + 0xC0)
    (tail : second.toNat = v % 64 + 0x80) :
    String.utf8EncodeChar (Char.ofNat v) = [first, second] := by
  have value := val_ofNat (.inl (by omega) : v.isValidChar)
  unfold String.utf8EncodeChar
  rw [value]
  dsimp only
  rw [if_neg (by omega), if_pos (by omega), @ofNat_eq _ first (by omega),
    @ofNat_eq _ second (by omega)]

theorem encode_three (range : 0x800 ≤ v ∧ v < 0x10000) (valid : v.isValidChar)
    (head : first.toNat = v / 4096 + 0xE0) (middle : second.toNat = v / 64 % 64 + 0x80)
    (tail : third.toNat = v % 64 + 0x80) :
    String.utf8EncodeChar (Char.ofNat v) = [first, second, third] := by
  have value := val_ofNat valid
  unfold String.utf8EncodeChar
  rw [value]
  dsimp only
  rw [if_neg (by omega), if_neg (by omega), if_pos (by omega), @ofNat_eq _ first (by omega),
    @ofNat_eq _ second (by omega), @ofNat_eq _ third (by omega)]

theorem encode_four (range : 0x10000 ≤ v ∧ v < 0x110000)
    (head : first.toNat = v / 262144 + 0xF0) (next : second.toNat = v / 4096 % 64 + 0x80)
    (middle : third.toNat = v / 64 % 64 + 0x80) (tail : fourth.toNat = v % 64 + 0x80) :
    String.utf8EncodeChar (Char.ofNat v) = [first, second, third, fourth] := by
  have value := val_ofNat (.inr (by omega) : v.isValidChar)
  unfold String.utf8EncodeChar
  rw [value]
  dsimp only
  rw [if_neg (by omega), if_neg (by omega), if_neg (by omega), @ofNat_eq _ first (by omega),
    @ofNat_eq _ second (by omega), @ofNat_eq _ third (by omega), @ofNat_eq _ fourth (by omega)]

end Encoding

def InRange (range : Nat × Nat) (byte : UInt8) : Prop :=
  range.1 ≤ byte.toNat ∧ byte.toNat ≤ range.2

theorem one_more {low high : Nat} {rest : Bytes}
    (within : List.Forall₂ InRange [(low, high)] rest) :
    ∃ byte, rest = [byte] ∧ low ≤ byte.toNat ∧ byte.toNat ≤ high := by
  cases within with
  | cons here later =>
    cases later
    exact ⟨_, rfl, here⟩

theorem two_more {low high : Nat} {range : Nat × Nat} {rest : Bytes}
    (within : List.Forall₂ InRange [(low, high), range] rest) :
    ∃ byte last, rest = [byte, last] ∧ (low ≤ byte.toNat ∧ byte.toNat ≤ high) ∧
      range.1 ≤ last.toNat ∧ last.toNat ≤ range.2 := by
  cases within with
  | cons here later =>
    obtain ⟨last, rfl, there⟩ := one_more later
    exact ⟨_, last, rfl, here, there⟩

theorem three_more {low high : Nat} {range next : Nat × Nat} {rest : Bytes}
    (within : List.Forall₂ InRange [(low, high), range, next] rest) :
    ∃ byte middle last, rest = [byte, middle, last] ∧ (low ≤ byte.toNat ∧ byte.toNat ≤ high) ∧
      (range.1 ≤ middle.toNat ∧ middle.toNat ≤ range.2) ∧
      next.1 ≤ last.toNat ∧ last.toNat ≤ next.2 := by
  cases within with
  | cons here later =>
    obtain ⟨middle, last, rfl, there⟩ := two_more later
    exact ⟨_, middle, last, rfl, here, there⟩

/-- The ranges leave out what shorter encodings cover, the surrogates and what lies
above the last character. -/
theorem lead_cases {first bits : Nat} {due : List (Nat × Nat)}
    (lead : utf8Lead first = some (bits, due)) :
    first < 0x80 ∧ due = [] ∨
    (0xC2 ≤ first ∧ first < 0xE0) ∧ due = [(0x80, 0xBF)] ∨
    (0xE0 ≤ first ∧ first < 0xF0) ∧
      due = [(if first = 0xE0 then 0xA0 else 0x80, if first = 0xED then 0x9F else 0xBF),
        (0x80, 0xBF)] ∨
    (0xF0 ≤ first ∧ first < 0xF5) ∧
      due = [(if first = 0xF0 then 0x90 else 0x80, if first = 0xF4 then 0x8F else 0xBF),
        (0x80, 0xBF), (0x80, 0xBF)] := by
  unfold utf8Lead at lead
  -- One range at a time: the table has nine rows.
  rcases Nat.lt_or_ge first 0xE0 with below | atLeast
  · grind
  rcases Nat.lt_or_ge first 0xF0 with below | atLeast'
  · grind
  · grind

/-- A first byte with the bytes that are due after it encodes a character. -/
theorem lead_encodes {first : UInt8} {bits : Nat} {due : List (Nat × Nat)} {rest : Bytes}
    (lead : utf8Lead first.toNat = some (bits, due)) (within : List.Forall₂ InRange due rest) :
    ∃ ch, String.utf8EncodeChar ch = first :: rest := by
  rcases lead_cases lead with ⟨small, rfl⟩ | ⟨two, rfl⟩ | ⟨three, rfl⟩ | ⟨four, rfl⟩
  · cases within
    exact ⟨_, encode_one small rfl⟩
  · obtain ⟨second, rfl, tail⟩ := one_more within
    have range : 0x80 ≤ (first.toNat - 0xC0) * 64 + (second.toNat - 0x80) ∧
        (first.toNat - 0xC0) * 64 + (second.toNat - 0x80) < 0x800 := by omega
    exact ⟨_, encode_two range (by omega) (by omega)⟩
  · obtain ⟨second, third, rfl, middle, tail⟩ := two_more within
    have continues : 0x80 ≤ second.toNat ∧ second.toNat ≤ 0xBF := by grind
    have overlong : first.toNat = 0xE0 → 0xA0 ≤ second.toNat := by grind
    have surrogate : first.toNat = 0xED → second.toNat ≤ 0x9F := by grind
    have range : 0x800 ≤ (first.toNat - 0xE0) * 4096 + (second.toNat - 0x80) * 64 +
          (third.toNat - 0x80) ∧
        (first.toNat - 0xE0) * 4096 + (second.toNat - 0x80) * 64 + (third.toNat - 0x80) <
          0x10000 := by
      omega
    refine ⟨_, encode_three range ?_ (by omega) (by omega) (by omega)⟩
    unfold Nat.isValidChar
    omega
  · obtain ⟨second, third, fourth, rfl, next, middle, tail⟩ := three_more within
    have continues : 0x80 ≤ second.toNat ∧ second.toNat ≤ 0xBF := by grind
    have overlong : first.toNat = 0xF0 → 0x90 ≤ second.toNat := by grind
    have last : first.toNat = 0xF4 → second.toNat ≤ 0x8F := by grind
    have range : 0x10000 ≤ (first.toNat - 0xF0) * 262144 + (second.toNat - 0x80) * 4096 +
          (third.toNat - 0x80) * 64 + (fourth.toNat - 0x80) ∧
        (first.toNat - 0xF0) * 262144 + (second.toNat - 0x80) * 4096 +
          (third.toNat - 0x80) * 64 + (fourth.toNat - 0x80) < 0x110000 := by
      omega
    exact ⟨_, encode_four range (by omega) (by omega) (by omega) (by omega)⟩

def Inhabited (range : Nat × Nat) : Prop :=
  range.1 ≤ range.2 ∧ range.1 < 256

theorem ranges_inhabited {first bits : Nat} {due : List (Nat × Nat)}
    (lead : utf8Lead first = some (bits, due)) : ∀ range ∈ due, Inhabited range := by
  unfold Inhabited
  rcases lead_cases lead with ⟨_, rfl⟩ | ⟨_, rfl⟩ | ⟨_, rfl⟩ | ⟨_, rfl⟩ <;> grind

theorem all_inhabited {due : List (Nat × Nat)} (inhabited : ∀ range ∈ due, Inhabited range) :
    ∃ conts, List.Forall₂ InRange due conts := by
  induction due with
  | nil => exact ⟨[], .nil⟩
  | cons range due ih =>
    obtain ⟨ordered, byte⟩ := inhabited range List.mem_cons_self
    obtain ⟨conts, all⟩ := ih fun later mem => inhabited later (List.mem_cons_of_mem _ mem)
    refine ⟨UInt8.ofNat range.1 :: conts, .cons ?_ all⟩
    unfold InRange
    rw [UInt8.toNat_ofNat', Nat.mod_eq_of_lt byte]
    exact ⟨Nat.le_refl _, ordered⟩

/-- Bytes that are due are all there, or the scan stops at the start of the character;
it stops without a length where the bytes end too early. -/
theorem scan_due (due : List (Nat × Nat)) (bytes : Bytes) (range : Nat × Nat) (read : Nat)
    (inhabited : ∀ later ∈ range :: due, Inhabited later) :
    (∃ rest rest', bytes = rest ++ rest' ∧ List.Forall₂ InRange (range :: due) rest) ∨
      ∃ len, (len = none → ∃ more, List.Forall₂ InRange (range :: due) (bytes ++ more)) ∧
        ∀ start bits, utf8Scan start read bits (range :: due) bytes = .error ⟨start, len⟩ := by
  induction bytes generalizing due range read with
  | nil =>
    have extended := all_inhabited inhabited
    exact .inr ⟨none, fun _ => extended, fun start bits => by rw [utf8Scan]⟩
  | cons byte rest ih =>
    by_cases within : range.1 ≤ byte.toNat ∧ byte.toNat ≤ range.2
    · cases due with
      | nil => exact .inl ⟨[byte], rest, rfl, .cons within .nil⟩
      | cons next due =>
        have later := fun range mem => inhabited range (List.mem_cons_of_mem _ mem)
        rcases ih due next (read + 1) later with ⟨conts, rest', rfl, all⟩ | ⟨len, short, stops⟩
        · exact .inl ⟨byte :: conts, rest', rfl, .cons within all⟩
        · refine .inr ⟨len, fun none => ?_, fun start bits => ?_⟩
          · obtain ⟨more, all⟩ := short none
            exact ⟨more, .cons within all⟩
          · rw [utf8Scan, if_pos within]
            exact stops start _
    · exact .inr ⟨some read, by simp, fun _ _ => by rw [utf8Scan, if_neg within]⟩

/-- The scan goes past a character, or it stops at its start. -/
theorem scan_first (first : UInt8) (rest : Bytes) :
    (∃ ch rest', first :: rest = String.utf8EncodeChar ch ++ rest') ∨
      ∃ len, (len = none → ∃ ch, first :: rest <+: String.utf8EncodeChar ch) ∧
        ∀ start read bits, utf8Scan start read bits [] (first :: rest) = .error ⟨start, len⟩ := by
  cases lead : utf8Lead first.toNat with
  | none => exact .inr ⟨some 1, by simp, fun start read bits => by rw [utf8Scan, lead]⟩
  | some found =>
    obtain ⟨bits, due⟩ := found
    cases due with
    | nil =>
      obtain ⟨ch, encodes⟩ := lead_encodes lead .nil
      exact .inl ⟨ch, rest, by rw [encodes, List.singleton_append]⟩
    | cons range due =>
      rcases scan_due due rest range 1 (ranges_inhabited lead) with
        ⟨conts, rest', rfl, all⟩ | ⟨len, short, stops⟩
      · obtain ⟨ch, encodes⟩ := lead_encodes lead all
        exact .inl ⟨ch, rest', by rw [encodes, List.cons_append]⟩
      · refine .inr ⟨len, fun none => ?_, fun start read bits' => ?_⟩
        · obtain ⟨more, all⟩ := short none
          obtain ⟨ch, encodes⟩ := lead_encodes lead all
          exact ⟨ch, more, by rw [encodes, List.cons_append]⟩
        · rw [utf8Scan_lead lead]
          exact stops start bits

theorem scan_encoded (s : Str) (rest : Bytes) (start : Nat) :
    utf8Scan start 0 0 [] (encoded s ++ rest) =
      (utf8Scan (start + (encoded s).length) 0 0 [] rest).map (s ++ ·) := by
  induction s generalizing start with
  | nil =>
    have empty : encoded [] = [] := rfl
    rw [empty, List.nil_append, List.length_nil, Nat.add_zero]
    cases utf8Scan start 0 0 [] rest <;> rfl
  | cons ch s ih =>
    rw [encoded_cons, List.append_assoc, utf8Scan_encodeChar, ih, List.length_append,
      String.length_utf8EncodeChar, Nat.add_assoc]
    cases utf8Scan (start + (ch.utf8Size + (encoded s).length)) 0 0 [] rest <;> rfl

theorem map_error {ε α β : Type} {f : α → β} {result : Except ε α} {e : ε}
    (failed : result.map f = .error e) : result = .error e := by
  cases result with
  | error e' =>
    cases failed
    rfl
  | ok a => cases failed

/-- What the scan has gone past is valid. -/
theorem scan_error_start {start read bits : Nat} {due : List (Nat × Nat)} {bytes : Bytes}
    {e : Utf8Error} (failed : utf8Scan start read bits due bytes = .error e) :
    start ≤ e.validUpTo := by
  fun_induction utf8Scan start read bits due bytes with
  | case1 => cases failed
  | case2 | case3 | case8 =>
    cases failed
    rfl
  | case4 _ _ _ _ _ _ _ ih =>
    have after := ih (map_error failed)
    omega
  | case5 _ _ _ _ _ _ _ _ _ ih | case7 _ _ _ _ _ _ _ _ _ _ _ ih => exact ih failed
  | case6 _ _ _ _ _ _ _ _ _ ih =>
    have after := ih (map_error failed)
    omega

/-- Bytes that no text but the empty one starts. -/
def StartsNoCharacter (rest : Bytes) : Prop :=
  ∀ ch, ¬ String.utf8EncodeChar ch <+: rest

theorem encode_pos (ch : Char) : 0 < (String.utf8EncodeChar ch).length := by
  rw [String.length_utf8EncodeChar]
  exact ch.utf8Size_pos

/-- Where the scan stops, no character is encoded. -/
theorem scan_stops {rest : Bytes} {len : Option Nat}
    (stops : utf8Scan 0 0 0 [] rest = .error ⟨0, len⟩) : StartsNoCharacter rest := by
  intro ch starts
  obtain ⟨later, rfl⟩ := starts
  rw [utf8Scan_encodeChar] at stops
  have pos := ch.utf8Size_pos
  have after := scan_error_start (map_error stops)
  dsimp only at after
  omega

/-- Nothing that follows mends an error with a length. -/
theorem scan_broken {start read bits : Nat} {due : List (Nat × Nat)} {bytes : Bytes}
    {e : Utf8Error} (more : Bytes) (failed : utf8Scan start read bits due bytes = .error e)
    (broken : e.errorLen ≠ none) : utf8Scan start read bits due (bytes ++ more) = .error e := by
  fun_induction utf8Scan start read bits due bytes with
  | case1 => cases failed
  | case2 =>
    cases failed
    contradiction
  | case3 _ _ _ _ _ none =>
    rw [List.cons_append, utf8Scan, none]
    exact failed
  | case4 _ _ _ _ _ _ lead ih =>
    rw [List.cons_append, utf8Scan_single lead, ih (map_error failed)]
    rfl
  | case5 _ _ _ _ _ _ due due_some lead ih =>
    cases due with
    | nil => exact absurd rfl due_some
    | cons range due =>
      rw [List.cons_append, utf8Scan_lead lead]
      exact ih failed
  | case6 _ _ _ _ _ _ _ within _ ih =>
    rw [List.cons_append, utf8Scan, if_pos within]
    dsimp only
    rw [ih (map_error failed)]
    rfl
  | case7 _ _ _ _ _ _ _ within _ due due_some ih =>
    cases due with
    | nil => exact absurd rfl due_some
    | cons range due =>
      rw [List.cons_append, utf8Scan, if_pos within]
      exact ih failed
  | case8 _ _ _ _ _ _ _ _ outside =>
    rw [List.cons_append, utf8Scan, if_neg outside]
    exact failed

/-- The bytes end inside a character. -/
def EndsEarly (rest : Bytes) : Prop :=
  ∃ ch, rest <+: String.utf8EncodeChar ch

theorem broken_not_early {rest : Bytes} {length : Nat}
    (stops : utf8Scan 0 0 0 [] rest = .error ⟨0, some length⟩) : ¬ EndsEarly rest := by
  rintro ⟨ch, more, whole⟩
  have failed := scan_broken more stops (by simp)
  have read := utf8Scan_encodeChar ch 0 0 0 []
  rw [List.append_nil, ← whole, failed] at read
  cases read

/-- Bytes are a text and a rest that the scan stops at, if there is one. -/
theorem scan_splits (bytes : Bytes) :
    ∃ s rest, bytes = encoded s ++ rest ∧
      (rest = [] ∨ ∃ len, (len = none ↔ EndsEarly rest) ∧ StartsNoCharacter rest ∧
        ∀ start, utf8Scan start 0 0 [] rest = .error ⟨start, len⟩) := by
  induction size : bytes.length using Nat.strong_induction_on generalizing bytes with
  | _ n ih =>
    cases bytes with
    | nil => exact ⟨[], [], rfl, .inl rfl⟩
    | cons first rest =>
      rcases scan_first first rest with ⟨ch, later, split⟩ | ⟨len, short, stops⟩
      · have pos := encode_pos ch
        have shorter : later.length < n := by
          rw [← size, split, List.length_append]
          omega
        obtain ⟨s, rest', rfl, ends⟩ := ih _ shorter later rfl
        exact ⟨ch :: s, rest', by rw [split, encoded_cons, List.append_assoc], ends⟩
      · have early : EndsEarly (first :: rest) → len = none := by
          intro early
          cases len with
          | none => rfl
          | some length => exact absurd early (broken_not_early (stops 0 0 0))
        exact ⟨[], first :: rest, rfl,
          .inr ⟨len, ⟨short, early⟩, scan_stops (stops 0 0 0), fun start => stops start 0 0⟩⟩

theorem fromUtf8_splits (bytes : Bytes) :
    ∃ s rest, bytes = encoded s ++ rest ∧
      (rest = [] ∧ fromUtf8 bytes = .ok s ∨
        StartsNoCharacter rest ∧ ∃ e, fromUtf8 bytes = .error e ∧
          e.validUpTo = (encoded s).length ∧ (e.errorLen = none ↔ EndsEarly rest)) := by
  obtain ⟨s, rest, rfl, rfl | ⟨len, early, starts, stops⟩⟩ := scan_splits bytes
  · refine ⟨s, [], rfl, .inl ⟨rfl, ?_⟩⟩
    rw [List.append_nil]
    exact fromUtf8_encoded s
  · refine ⟨s, rest, rfl, .inr ⟨starts, ⟨(encoded s).length, len⟩, ?_, rfl, early⟩⟩
    rw [fromUtf8, scan_encoded, stops, Nat.zero_add]
    rfl

section Reading

variable {decoders : Decoders} {headers : HeaderMap} {body : Option BodyFrames}

theorem text_of_error {b : Bytes} {e : Utf8Error}
    (read : bytes decoders headers body = some (.ok b)) (failed : fromUtf8 b = .error e) :
    text decoders headers body =
      some (.error (.decode ("response body is not valid UTF-8: ".toList ++ e.display))) := by
  unfold text
  rw [read, Option.map_some]
  dsimp only
  rw [failed]
  rfl

end Reading

/-- The bytes are a text and a rest that starts no character; the error is about the rest. -/
def Refused (b : Bytes) (e : Utf8Error) : Prop :=
  ∃ s rest, b = encoded s ++ rest ∧ StartsNoCharacter rest ∧
    e.validUpTo = (encoded s).length ∧ (e.errorLen = none ↔ EndsEarly rest)

/-- A text is returned exactly when the bytes of the body are its encoding. Where they are
no text, the error says how much of them is one, and whether they end inside a character. -/
theorem text_decodes_exactly (decoders : Decoders) (headers : HeaderMap)
    (body : Option BodyFrames) :
    (∀ s, text decoders headers body = some (.ok s) ↔
      bytes decoders headers body = some (.ok (encoded s))) ∧
    (∀ b, bytes decoders headers body = some (.ok b) → (∀ s, b ≠ encoded s) →
      ∃ e, Refused b e ∧ text decoders headers body =
        some (.error (.decode ("response body is not valid UTF-8: ".toList ++ e.display)))) ∧
    (∀ e, bytes decoders headers body = some (.error e) →
      text decoders headers body = some (.error e)) ∧
    (bytes decoders headers body = none → text decoders headers body = none) := by
  have refused : ∀ b, bytes decoders headers body = some (.ok b) → (∀ s, b ≠ encoded s) →
      ∃ e, Refused b e ∧ text decoders headers body =
        some (.error (.decode ("response body is not valid UTF-8: ".toList ++ e.display))) := by
    intro b read unlike
    obtain ⟨s, rest, split, ⟨rfl, _⟩ | ⟨starts, e, failed, upTo, early⟩⟩ := fromUtf8_splits b
    · rw [List.append_nil] at split
      exact absurd split (unlike s)
    · exact ⟨e, ⟨s, rest, split, starts, upTo, early⟩, text_of_error read failed⟩
  have failed : ∀ e, bytes decoders headers body = some (.error e) →
      text decoders headers body = some (.error e) := by
    intro e read
    rw [text, read]
    rfl
  have panicked : bytes decoders headers body = none → text decoders headers body = none := by
    intro read
    rw [text, read]
    rfl
  refine ⟨fun s => ⟨fun same => ?_, fun read => text_of_bytes read⟩, refused, failed, panicked⟩
  cases read : bytes decoders headers body with
  | none =>
    rw [panicked read] at same
    cases same
  | some result =>
    cases result with
    | error e =>
      rw [failed e read] at same
      cases same
    | ok b =>
      by_cases like : ∃ s', b = encoded s'
      · obtain ⟨s', rfl⟩ := like
        rw [text_of_bytes read] at same
        cases same
        rfl
      · have unlike : ∀ s', b ≠ encoded s' := fun s' same => like ⟨s', same⟩
        obtain ⟨_, _, error⟩ := refused b read unlike
        rw [error] at same
        cases same

end MechanicsHttpClient.Guarantees
