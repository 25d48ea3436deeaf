import Mathlib.Data.List.Basic
import Mathlib.Data.List.Infix

/-!
# Self-delimiting formats and their readers

A format relates streams to their contents. No complete stream is the beginning
of another one, so a sequence of streams (of members, in gzip's words) can be cut
in one way only. A reader that stops after the first member reads a whole
sequence exactly when the members after the first are empty.
-/

namespace MechanicsHttpClient.Data

structure StreamFormat (α : Type) where
  encodes : List α → List α → Prop
  nonempty : ∀ stream content, encodes stream content → stream ≠ []
  functional : ∀ stream content content', encodes stream content → encodes stream content' →
    content = content'
  selfDelimiting : ∀ stream content stream' content', encodes stream content →
    encodes stream' content' → stream <+: stream' → stream = stream'

variable {α ε : Type}

/-- The bytes of streams that are given with their contents. -/
def streamsOf (members : List (List α × List α)) : List α := members.flatMap Prod.fst

def contentsOf (members : List (List α × List α)) : List α := members.flatMap Prod.snd

@[simp] theorem streamsOf_nil : streamsOf ([] : List (List α × List α)) = [] := rfl

@[simp] theorem contentsOf_nil : contentsOf ([] : List (List α × List α)) = [] := rfl

@[simp] theorem streamsOf_cons (member : List α × List α) (members : List (List α × List α)) :
    streamsOf (member :: members) = member.1 ++ streamsOf members := rfl

@[simp] theorem contentsOf_cons (member : List α × List α) (members : List (List α × List α)) :
    contentsOf (member :: members) = member.2 ++ contentsOf members := rfl

namespace StreamFormat

variable (F : StreamFormat α)

def Valid (members : List (List α × List α)) : Prop :=
  ∀ member ∈ members, F.encodes member.1 member.2

/-- The reader reports the content of the first stream and ignores what follows. -/
def StopsAtFirst (read : List α → Except ε (List α)) : Prop :=
  ∀ stream content rest, F.encodes stream content → read (stream ++ rest) = .ok content

/-- `bytes` are one or more members with `content` in them. -/
def IsSequence (bytes content : List α) : Prop :=
  ∃ member members, F.Valid (member :: members) ∧ bytes = streamsOf (member :: members) ∧
    content = contentsOf (member :: members)

/-- A sequence whose members after the first are empty. -/
def OneFilledMember (bytes : List α) : Prop :=
  ∃ member members, F.Valid (member :: members) ∧ bytes = streamsOf (member :: members) ∧
    contentsOf members = []

/-- Whatever the reader reports is the content of all members, and a sequence of
members is read. -/
def ReadsSequences (read : List α → Except ε (List α)) (bytes : List α) : Prop :=
  (∀ content, read bytes = .ok content → F.IsSequence bytes content) ∧
    ∀ content, F.IsSequence bytes content → read bytes = .ok content

/-- The same of one stream that has to be all of the bytes. -/
def ReadsStream (read : List α → Except ε (List α)) (bytes : List α) : Prop :=
  (∀ content, read bytes = .ok content → F.encodes bytes content) ∧
    ∀ content, F.encodes bytes content → read bytes = .ok content

variable {F}

theorem valid_cons (member : List α × List α) (members : List (List α × List α)) :
    F.Valid (member :: members) ↔ F.encodes member.1 member.2 ∧ F.Valid members := by
  simp [Valid]

/-- Two streams that some bytes both begin with are the same. -/
theorem same_start {stream content rest stream' content' rest' : List α}
    (h : F.encodes stream content) (h' : F.encodes stream' content')
    (same : stream ++ rest = stream' ++ rest') : stream = stream' ∧ rest = rest' := by
  have starts : stream <+: stream ++ rest := List.prefix_append _ _
  have starts' : stream' <+: stream ++ rest := same ▸ List.prefix_append _ _
  have equal : stream = stream' := by
    rcases List.prefix_or_prefix_of_prefix starts starts' with first | first
    · exact F.selfDelimiting _ _ _ _ h h' first
    · exact (F.selfDelimiting _ _ _ _ h' h first).symm
  subst equal
  exact ⟨rfl, List.append_cancel_left same⟩

/-- A sequence of streams can be cut in one way only. -/
theorem contents_unique {members : List (List α × List α)} (valid : F.Valid members) :
    ∀ {members' : List (List α × List α)}, F.Valid members' →
      streamsOf members = streamsOf members' → contentsOf members = contentsOf members' := by
  induction members with
  | nil =>
    intro members' valid' same
    cases members' with
    | nil => rfl
    | cons member' rest' =>
      have filled := F.nonempty _ _ ((valid_cons _ _).mp valid').1
      exact absurd (List.append_eq_nil_iff.mp same.symm).1 filled
  | cons member rest ih =>
    intro members' valid' same
    obtain ⟨encoded, valid⟩ := (valid_cons _ _).mp valid
    cases members' with
    | nil => exact absurd (List.append_eq_nil_iff.mp same).1 (F.nonempty _ _ encoded)
    | cons member' rest' =>
      obtain ⟨encoded', valid'⟩ := (valid_cons _ _).mp valid'
      obtain ⟨first, later⟩ := same_start encoded encoded' same
      have content : member.2 = member'.2 := F.functional _ _ _ encoded (first ▸ encoded')
      rw [contentsOf_cons, contentsOf_cons, content, ih valid valid' later]

theorem IsSequence.unique {bytes content content' : List α} (h : F.IsSequence bytes content)
    (h' : F.IsSequence bytes content') : content = content' := by
  obtain ⟨_, _, valid, rfl, rfl⟩ := h
  obtain ⟨_, _, valid', same, rfl⟩ := h'
  exact contents_unique valid valid' same

section Reader

variable {read : List α → Except ε (List α)}

theorem StopsAtFirst.members (stops : F.StopsAtFirst read) {member : List α × List α}
    {members : List (List α × List α)} (valid : F.Valid (member :: members)) :
    read (streamsOf (member :: members)) = .ok member.2 :=
  stops _ _ _ ((valid_cons _ _).mp valid).1

/-- A reader that stops at the first member reads exactly the sequences with one
filled member, and the bytes it rejects. -/
theorem readsSequences_iff (stops : F.StopsAtFirst read) (bytes : List α) :
    F.ReadsSequences read bytes ↔ F.OneFilledMember bytes ∨ ∃ err, read bytes = .error err := by
  constructor
  · rintro ⟨sound, -⟩
    cases result : read bytes with
    | error err => exact .inr ⟨err, rfl⟩
    | ok content =>
      obtain ⟨member, members, valid, rfl, whole⟩ := sound content result
      rw [stops.members valid] at result
      cases result
      rw [contentsOf_cons, List.self_eq_append_right] at whole
      exact .inl ⟨member, members, valid, rfl, whole⟩
  · rintro (⟨member, members, valid, rfl, silent⟩ | ⟨err, failed⟩)
    · have first := stops.members valid
      have whole : F.IsSequence (streamsOf (member :: members)) member.2 :=
        ⟨member, members, valid, rfl, by rw [contentsOf_cons, silent, List.append_nil]⟩
      constructor
      · intro content reported
        rw [first] at reported
        cases reported
        exact whole
      · intro content sequence
        rw [first, whole.unique sequence]
    · constructor
      · intro content reported
        rw [failed] at reported
        cases reported
      · rintro content ⟨member, members, valid, rfl, -⟩
        rw [stops.members valid] at failed
        cases failed

theorem StopsAtFirst.stream (stops : F.StopsAtFirst read) {stream content : List α}
    (encoded : F.encodes stream content) : read stream = .ok content := by
  have first := stops stream content [] encoded
  rwa [List.append_nil] at first

theorem readsStream_iff (stops : F.StopsAtFirst read) (bytes : List α) :
    F.ReadsStream read bytes ↔
      (∃ content, F.encodes bytes content) ∨ ∃ err, read bytes = .error err := by
  have reads : ∀ content, F.encodes bytes content → read bytes = .ok content :=
    fun _ encoded => stops.stream encoded
  constructor
  · rintro ⟨sound, -⟩
    cases result : read bytes with
    | error err => exact .inr ⟨err, rfl⟩
    | ok content => exact .inl ⟨content, sound content result⟩
  · rintro (⟨content, encoded⟩ | ⟨err, failed⟩)
    · refine ⟨?_, reads⟩
      intro content' reported
      rw [reads content encoded] at reported
      cases reported
      exact encoded
    · refine ⟨?_, reads⟩
      intro content reported
      rw [failed] at reported
      cases reported

end Reader

section Table

variable [DecidableEq α]

/-- Streams of a table do not begin with one another and have one content each. -/
def Separate (table : List (List α × List α)) : Prop :=
  (∀ row ∈ table, row.1 ≠ []) ∧ ∀ row ∈ table, ∀ row' ∈ table, row.1 <+: row'.1 → row = row'

instance (table : List (List α × List α)) : Decidable (Separate table) := by
  unfold Separate
  infer_instance

def ofTable (table : List (List α × List α)) (separate : Separate table) : StreamFormat α where
  encodes stream content := (stream, content) ∈ table
  nonempty _ _ mem := separate.1 _ mem
  functional _ _ _ mem mem' := congrArg Prod.snd (separate.2 _ mem _ mem' (List.prefix_refl _))
  selfDelimiting _ _ _ _ mem mem' start := congrArg Prod.fst (separate.2 _ mem _ mem' start)

/-- Look up the stream that the bytes begin with. -/
def readTable (err : ε) (table : List (List α × List α)) (bytes : List α) :
    Except ε (List α) :=
  match table.find? fun row => row.1.isPrefixOf bytes with
  | some row => .ok row.2
  | none => .error err

theorem readTable_stopsAtFirst (err : ε) (table : List (List α × List α))
    (separate : Separate table) : (ofTable table separate).StopsAtFirst (readTable err table) := by
  intro stream content rest mem
  have starts : stream <+: stream ++ rest := List.prefix_append _ _
  unfold readTable
  cases found : table.find? fun row => row.1.isPrefixOf (stream ++ rest) with
  | none =>
    have missed := List.find?_eq_none.mp found _ mem
    exact absurd (List.isPrefixOf_iff_prefix.mpr starts) missed
  | some row =>
    have found_start : row.1.isPrefixOf (stream ++ rest) = true := by
      simpa using List.find?_some found
    have starts' : row.1 <+: stream ++ rest := List.isPrefixOf_iff_prefix.mp found_start
    have listed := List.mem_of_find?_eq_some found
    have same : row = (stream, content) := by
      rcases List.prefix_or_prefix_of_prefix starts starts' with first | first
      · exact (separate.2 _ mem _ listed first).symm
      · exact separate.2 _ listed _ mem first
    rw [same]

end Table

end StreamFormat

end MechanicsHttpClient.Data
