import MechanicsHttpClient.Source.Text
import MechanicsHttpClient.Source.Time

/-!
# split_quoted: the quote-aware iterator of the Alt-Svc parser

src/alt_svc.rs:111-146. `SplitQuoted` is the iterator with its byte offset;
`next` slices as the source does and can fail where the source would panic.
`pieces` is the independent description: cut at the separators outside quotes,
by recursion over the characters. `splitQuoted_eq` says that the iterator
yields exactly those pieces, so no slice fails and the loop ends.
-/

namespace MechanicsHttpClient.Source

structure SplitQuoted where
  raw : Str
  separator : Char
  offset : Nat

namespace SplitQuoted

/-- The loop over `char_indices`: the relative offset of the first separator
outside quotes. -/
def scan (separator : Char) : Str → Nat → Bool → Option Nat
  | [], _, _ => none
  | ch :: rest, relative, quoted =>
    if ch = '"' then scan separator rest (relative + ch.utf8Size) (!quoted)
    else if ch = separator ∧ quoted = false then some relative
    else scan separator rest (relative + ch.utf8Size) quoted

/-- `Iterator::next`, with the iterator it leaves behind. -/
def next (it : SplitQuoted) : Except Panic (Option (Str × SplitQuoted)) :=
  if it.raw.len < it.offset then .ok none
  else
    match Str.sliceFrom it.offset it.raw with
    | none => .error .sliceOutOfBounds
    | some tail =>
      match scan it.separator tail 0 false with
      | some relative =>
        let stop := it.offset + relative
        match it.raw.slice it.offset stop with
        | none => .error .sliceOutOfBounds
        | some piece => .ok (some (piece, { it with offset := stop + it.separator.utf8Size }))
      | none => .ok (some (tail, { it with offset := it.raw.len + 1 }))

/-- A `for` loop over the iterator, run at most `bound` times. -/
def collect : Nat → SplitQuoted → Except Panic (List Str)
  | 0, _ => .error .loopBound
  | bound + 1, it =>
    match it.next with
    | .error panic => .error panic
    | .ok none => .ok []
    | .ok (some (piece, rest)) =>
      match collect bound rest with
      | .error panic => .error panic
      | .ok more => .ok (piece :: more)

end SplitQuoted

/-- All items of the iterator. Every piece but the last ends at a character of
`raw`, so there are at most `raw.length + 1` of them. -/
def splitQuoted (raw : Str) (separator : Char) : Except Panic (List Str) :=
  SplitQuoted.collect (raw.length + 2) ⟨raw, separator, 0⟩

/-- The first piece of `s` and the pieces after it, when the text before `s`
leaves an open quote or none. -/
def pieces (separator : Char) : Bool → Str → Str × List Str
  | _, [] => ([], [])
  | quoted, ch :: rest =>
    if ch = '"' then
      (ch :: (pieces separator (!quoted) rest).1, (pieces separator (!quoted) rest).2)
    else if ch = separator ∧ quoted = false then
      ([], (pieces separator false rest).1 :: (pieces separator false rest).2)
    else (ch :: (pieces separator quoted rest).1, (pieces separator quoted rest).2)

namespace Str

@[simp] theorem len_nil : Str.len [] = 0 := rfl

@[simp] theorem len_cons (ch : Char) (rest : Str) :
    Str.len (ch :: rest) = ch.utf8Size + Str.len rest := rfl

@[simp] theorem len_append (a b : Str) : Str.len (a ++ b) = Str.len a + Str.len b := by
  induction a with
  | nil => simp
  | cons ch rest ih => simp only [List.cons_append, len_cons, ih, Nat.add_assoc]

/-- Slicing at a boundary that was reached character by character succeeds. -/
theorem sliceFrom_len (a b : Str) : Str.sliceFrom (Str.len a) (a ++ b) = some b := by
  induction a with
  | nil => cases b <;> rfl
  | cons ch rest ih =>
    have pos := ch.utf8Size_pos
    obtain ⟨n, width⟩ : ∃ n, ch.utf8Size + Str.len rest = n + 1 := ⟨_, (Nat.succ_pred (by omega)).symm⟩
    simp only [List.cons_append, len_cons, width, Str.sliceFrom]
    rw [if_pos (by omega), ← width, Nat.add_sub_cancel_left]
    exact ih

theorem sliceTo_len (a b : Str) : Str.sliceTo (Str.len a) (a ++ b) = some a := by
  induction a with
  | nil => cases b <;> rfl
  | cons ch rest ih =>
    have pos := ch.utf8Size_pos
    obtain ⟨n, width⟩ : ∃ n, ch.utf8Size + Str.len rest = n + 1 := ⟨_, (Nat.succ_pred (by omega)).symm⟩
    simp only [List.cons_append, len_cons, width, Str.sliceTo]
    rw [if_pos (by omega), ← width, Nat.add_sub_cancel_left, ih]
    rfl

theorem slice_append (a b c : Str) :
    Str.slice (a ++ (b ++ c)) (Str.len a) (Str.len a + Str.len b) = some b := by
  unfold Str.slice
  rw [if_pos (Nat.le_add_right _ _), sliceFrom_len, Nat.add_sub_cancel_left]
  exact sliceTo_len b c

end Str

namespace SplitQuoted

/-- What the scan finds is where the first piece ends. -/
theorem scan_spec (separator : Char) (s : Str) :
    ∀ (relative : Nat) (quoted : Bool),
      (scan separator s relative quoted = none ∧ pieces separator quoted s = (s, [])) ∨
      (∃ piece rest, s = piece ++ separator :: rest ∧
        scan separator s relative quoted = some (relative + Str.len piece) ∧
        pieces separator quoted s =
          (piece, (pieces separator false rest).1 :: (pieces separator false rest).2)) := by
  induction s with
  | nil => exact fun _ _ => .inl ⟨rfl, rfl⟩
  | cons ch rest ih =>
    intro relative quoted
    -- a character that does not end the piece, with the quote state after it
    have extend : ∀ quoted', pieces separator quoted (ch :: rest) =
          (ch :: (pieces separator quoted' rest).1, (pieces separator quoted' rest).2) →
        scan separator (ch :: rest) relative quoted =
          scan separator rest (relative + ch.utf8Size) quoted' →
        (scan separator (ch :: rest) relative quoted = none ∧
          pieces separator quoted (ch :: rest) = (ch :: rest, [])) ∨
        (∃ piece more, ch :: rest = piece ++ separator :: more ∧
          scan separator (ch :: rest) relative quoted = some (relative + Str.len piece) ∧
          pieces separator quoted (ch :: rest) =
            (piece, (pieces separator false more).1 :: (pieces separator false more).2)) := by
      intro quoted' cut scanned
      rcases ih (relative + ch.utf8Size) quoted' with ⟨none, all⟩ | ⟨piece, more, split, found, cut'⟩
      · exact .inl ⟨by rw [scanned, none], by rw [cut, all]⟩
      · refine .inr ⟨ch :: piece, more, by rw [split]; rfl, ?_, by rw [cut, cut']⟩
        rw [scanned, found, Str.len_cons, Nat.add_assoc]
    by_cases quote : ch = '"'
    · exact extend (!quoted) (by simp [pieces, quote]) (by simp [scan, quote])
    · by_cases ends : ch = separator ∧ quoted = false
      · refine .inr ⟨[], rest, by rw [ends.1]; rfl, ?_, ?_⟩
        · simp only [scan, if_neg quote, if_pos ends, Str.len_nil, Nat.add_zero]
        · simp only [pieces, if_neg quote, if_pos ends]
      · exact extend quoted (by simp only [pieces, if_neg quote, if_neg ends])
          (by simp only [scan, if_neg quote, if_neg ends])

/-- A call of `next` on an iterator that has consumed `done` takes the first piece
of what is left, and moves behind its separator or the end. -/
theorem next_spec (separator : Char) (done tail : Str) :
    (pieces separator false tail = (tail, []) ∧
      next ⟨done ++ tail, separator, Str.len done⟩ =
        .ok (some (tail, ⟨done ++ tail, separator, Str.len (done ++ tail) + 1⟩))) ∨
    (∃ piece rest, tail = piece ++ separator :: rest ∧
      pieces separator false tail =
        (piece, (pieces separator false rest).1 :: (pieces separator false rest).2) ∧
      next ⟨done ++ tail, separator, Str.len done⟩ =
        .ok (some (piece, ⟨(done ++ (piece ++ [separator])) ++ rest, separator,
          Str.len (done ++ (piece ++ [separator]))⟩))) := by
  have inside : ¬ Str.len (done ++ tail) < Str.len done := by simp
  rcases scan_spec separator tail 0 false with ⟨last, all⟩ | ⟨piece, rest, split, found, cut⟩
  · refine .inl ⟨all, ?_⟩
    simp only [next, if_neg inside, Str.sliceFrom_len, last]
  · refine .inr ⟨piece, rest, split, cut, ?_⟩
    subst split
    have whole :
        (done ++ (piece ++ [separator])) ++ rest = done ++ (piece ++ separator :: rest) := by
      simp
    have moved : Str.len done + Str.len piece + separator.utf8Size =
        Str.len (done ++ (piece ++ [separator])) := by
      simp [Nat.add_assoc]
    rw [whole]
    simp only [next, if_neg inside, Str.sliceFrom_len, found, Nat.zero_add, Str.slice_append, moved]

/-- After the end `next` only returns `None`. -/
theorem next_spent (raw : Str) (separator : Char) :
    next ⟨raw, separator, Str.len raw + 1⟩ = .ok none := if_pos (Nat.lt_succ_self _)

/-- An iterator that has consumed `done` yields the pieces of what is left, and
needs one round for each piece and one to see the end. -/
theorem collect_spec (separator : Char) :
    ∀ (bound : Nat) (done tail : Str), tail.length + 2 ≤ bound →
      collect bound ⟨done ++ tail, separator, Str.len done⟩ =
        .ok ((pieces separator false tail).1 :: (pieces separator false tail).2) := by
  intro bound
  induction bound with
  | zero => intro done tail h; omega
  | succ bound ih =>
    intro done tail enough
    rcases next_spec separator done tail with ⟨all, last⟩ | ⟨piece, rest, split, cut, moves⟩
    · obtain ⟨bound, rfl⟩ : ∃ n, bound = n + 1 := ⟨bound - 1, by omega⟩
      simp only [collect, last, next_spent, all]
    · have shorter : rest.length + 2 ≤ bound := by
        rw [split] at enough
        simp only [List.length_append, List.length_cons] at enough
        omega
      simp only [collect, moves, cut]
      rw [ih _ rest shorter]

end SplitQuoted

theorem splitQuoted_eq (raw : Str) (separator : Char) :
    splitQuoted raw separator =
      .ok ((pieces separator false raw).1 :: (pieces separator false raw).2) :=
  SplitQuoted.collect_spec separator _ [] raw (Nat.le_refl _)

/-- A quote and the state before it weigh as much as the state after it. -/
theorem quotes_flip (n : Nat) (quoted : Bool) :
    (n + 1 + quoted.toNat) % 2 = (n + (!quoted).toNat) % 2 := by
  cases quoted with
  | true =>
    simp only [Bool.toNat_true, Bool.not_true, Bool.toNat_false]
    omega
  | false => simp only [Bool.toNat_false, Bool.not_false, Bool.toNat_true, Nat.add_zero]

/-- A separator outside quotes cuts a text in two, whatever follows. -/
theorem pieces_append (separator : Char) (other : separator ≠ '"') (rest : Str) (s : Str) :
    ∀ quoted : Bool, (s.count '"' + quoted.toNat) % 2 = 0 →
      pieces separator quoted (s ++ separator :: rest) =
        ((pieces separator quoted s).1, (pieces separator quoted s).2 ++
          (pieces separator false rest).1 :: (pieces separator false rest).2) := by
  induction s with
  | nil =>
    intro quoted balanced
    cases quoted with
    | true => cases balanced
    | false => simp [pieces, other]
  | cons ch tail ih =>
    intro quoted balanced
    by_cases quote : ch = '"'
    · subst quote
      have flipped : (tail.count '"' + (!quoted).toNat) % 2 = 0 := by
        rw [← quotes_flip]
        simpa using balanced
      simp only [List.cons_append, pieces, if_true, ih _ flipped]
    · rw [List.count_cons_of_ne (by simpa using quote)] at balanced
      by_cases ends : ch = separator ∧ quoted = false
      · obtain ⟨rfl, rfl⟩ := ends
        have later := ih false balanced
        simp only [List.cons_append, pieces, if_neg quote, true_and, if_true, later,
          List.cons_append]
      · simp only [List.cons_append, pieces, if_neg quote, if_neg ends, ih quoted balanced]

/-- The quotes of `s` are balanced, and no separator stands outside of them. -/
def Inert (separator : Char) (s : Str) : Prop :=
  ∀ rest, pieces separator false (s ++ rest) =
    (s ++ (pieces separator false rest).1, (pieces separator false rest).2)

namespace Inert

variable {separator : Char} {s t : Str}

theorem nil : Inert separator [] := fun _ => rfl

theorem append (h : Inert separator s) (h' : Inert separator t) : Inert separator (s ++ t) := by
  intro rest
  rw [List.append_assoc, h, h', List.append_assoc]

theorem of_plain (plain : ∀ ch ∈ s, ch ≠ '"' ∧ ch ≠ separator) : Inert separator s := by
  induction s with
  | nil => exact nil
  | cons ch tail ih =>
    intro rest
    obtain ⟨noQuote, noSeparator⟩ := plain ch List.mem_cons_self
    have later := ih (fun c mem => plain c (List.mem_cons_of_mem _ mem)) rest
    simp only [List.cons_append, pieces, if_neg noQuote, noSeparator, false_and, if_false, later]

/-- Inside quotes separators do not count. -/
theorem quoted {text : Str} (plain : '"' ∉ text) : Inert separator ('"' :: text ++ ['"']) := by
  intro rest
  have inside : ∀ u : Str, '"' ∉ u → pieces separator true (u ++ '"' :: rest) =
      (u ++ '"' :: (pieces separator false rest).1, (pieces separator false rest).2) := by
    intro u
    induction u with
    | nil => exact fun _ => by simp [pieces]
    | cons ch tail ih =>
      intro absent
      simp only [List.mem_cons, not_or] at absent
      have open_quote : ¬ (ch = separator ∧ true = false) := by simp
      simp only [List.cons_append, pieces, if_neg (Ne.symm absent.1), if_neg open_quote,
        ih absent.2]
  have opened := inside text plain
  simp only [List.cons_append, List.append_assoc, List.nil_append, pieces, if_true, Bool.not_false,
    opened]

theorem whole (h : Inert separator s) : pieces separator false s = (s, []) := by
  simpa [pieces] using h []

theorem before_separator (h : Inert separator s) (other : separator ≠ '"') (rest : Str) :
    pieces separator false (s ++ separator :: rest) =
      (s, (pieces separator false rest).1 :: (pieces separator false rest).2) := by
  rw [h]
  simp [pieces, other]

end Inert

end MechanicsHttpClient.Source
