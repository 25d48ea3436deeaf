import MechanicsHttpClient.Source.SplitQuoted

/-!
# split_quoted loses nothing

src/alt_svc.rs:111-146. Each piece starts outside quotes. The invariant over the
earlier pieces is that a piece ends where an even number of quotes precedes it in
the whole text.
-/

namespace MechanicsHttpClient.Guarantees

open MechanicsHttpClient.Source

/-- Where the separators stand when the pieces are joined. -/
def joints : List Str → List Nat
  | [] => []
  | [_] => []
  | piece :: next :: more =>
    piece.length :: (joints (next :: more)).map (piece.length + 1 + ·)

/-- A longer first piece moves every joint. -/
theorem joints_extend (ch : Char) (piece : Str) (more : List Str) :
    joints ((ch :: piece) :: more) = (joints (piece :: more)).map (· + 1) := by
  cases more with
  | nil => rfl
  | cons next more =>
    simp only [joints, List.length_cons, List.map_cons, List.map_map]
    congr 1
    apply List.map_congr_left
    intro joint _
    simp only [Function.comp_apply]
    omega

section Pieces

variable {separator : Char}

theorem pieces_joined (s : Str) : ∀ quoted : Bool,
    List.intercalate [separator]
      ((pieces separator quoted s).1 :: (pieces separator quoted s).2) = s := by
  induction s with
  | nil => exact fun _ => rfl
  | cons ch rest ih =>
    intro quoted
    -- the character stays in the first piece
    have extend : ∀ quoted', List.intercalate [separator]
        ((ch :: (pieces separator quoted' rest).1) :: (pieces separator quoted' rest).2) =
          ch :: rest := by
      intro quoted'
      have later := ih quoted'
      cases more : (pieces separator quoted' rest).2 with
      | nil =>
        rw [more] at later
        simpa using later
      | cons next more' =>
        rw [more] at later
        simpa using later
    by_cases quote : ch = '"'
    · simp only [pieces, if_pos quote]
      exact extend (!quoted)
    · by_cases ends : ch = separator ∧ quoted = false
      · have later := ih false
        obtain ⟨rfl, rfl⟩ := ends
        simp only [pieces, if_neg quote, true_and, if_true]
        rw [List.intercalate_cons_cons, List.nil_append, later]
        rfl
      · simp only [pieces, if_neg quote, if_neg ends]
        exact extend quoted

/-- The text is cut at the separators that an even number of quotes precedes,
counting one for an open quote before the text. -/
theorem mem_joints (other : separator ≠ '"') (s : Str) : ∀ (quoted : Bool) (i : Nat),
    i ∈ joints ((pieces separator quoted s).1 :: (pieces separator quoted s).2) ↔
      s[i]? = some separator ∧ ((s.take i).count '"' + quoted.toNat) % 2 = 0 := by
  induction s with
  | nil => simp [pieces, joints]
  | cons ch rest ih =>
    intro quoted i
    by_cases quote : ch = '"'
    · subst quote
      simp only [pieces, if_true, joints_extend, List.mem_map]
      cases i with
      | zero => simp [Ne.symm other]
      | succ j =>
        simp only [Nat.add_right_cancel_iff, exists_eq_right, ih, List.getElem?_cons_succ,
          List.take_succ_cons, List.count_cons_self, quotes_flip]
    · by_cases ends : ch = separator ∧ quoted = false
      · obtain ⟨rfl, rfl⟩ := ends
        simp only [pieces, if_neg quote, true_and, if_true, joints, List.length_nil, Nat.zero_add,
          List.mem_cons, List.mem_map]
        cases i with
        | zero => simp
        | succ j =>
          simp only [Nat.add_comm 1, Nat.add_right_cancel_iff, exists_eq_right, ih,
            List.getElem?_cons_succ, List.take_succ_cons,
            List.count_cons_of_ne quote]
          simp
      · simp only [pieces, if_neg quote, if_neg ends, joints_extend, List.mem_map]
        cases i with
        | zero =>
          cases quoted with
          | true => simp
          | false =>
            have apart : ch ≠ separator := fun same => ends ⟨same, rfl⟩
            simp [apart]
        | succ j =>
          simp only [Nat.add_right_cancel_iff, exists_eq_right, ih, List.getElem?_cons_succ,
            List.take_succ_cons, List.count_cons_of_ne quote]

end Pieces

/-- What call number `n` of `next` returns, the first being number zero. -/
def callAt : Nat → SplitQuoted → Except Panic (Option Str)
  | 0, it => it.next.map (Option.map Prod.fst)
  | n + 1, it =>
    match it.next with
    | .error panic => .error panic
    | .ok none => callAt n it
    | .ok (some (_, rest)) => callAt n rest

theorem callAt_spent (raw : Str) (separator : Char) (n : Nat) :
    callAt n ⟨raw, separator, Str.len raw + 1⟩ = .ok none := by
  induction n with
  | zero => simp [callAt, SplitQuoted.next_spent, Except.map]
  | succ n ih => simp only [callAt, SplitQuoted.next_spent, ih]

theorem callAt_eq (separator : Char) (n : Nat) : ∀ done tail : Str,
    callAt n ⟨done ++ tail, separator, Str.len done⟩ =
      .ok ((pieces separator false tail).1 :: (pieces separator false tail).2)[n]? := by
  induction n with
  | zero =>
    intro done tail
    rcases SplitQuoted.next_spec separator done tail with
      ⟨all, last⟩ | ⟨piece, rest, -, cut, moves⟩
    · simp [callAt, last, all, Except.map]
    · simp [callAt, moves, cut, Except.map]
  | succ n ih =>
    intro done tail
    rcases SplitQuoted.next_spec separator done tail with
      ⟨all, last⟩ | ⟨piece, rest, -, cut, moves⟩
    · simp only [callAt, last, callAt_spent, all, List.getElem?_cons_succ, List.getElem?_nil]
    · simp only [callAt, moves, cut, ih, List.getElem?_cons_succ]

/-- The iterator is a lossless split: no call panics, the calls return the pieces
and then `None` for ever, joined with the separator the pieces are the text, and
they are cut at the separators with an even number of quotes before them. -/
theorem splitQuoted_lossless (raw : Str) {separator : Char} (other : separator ≠ '"') :
    ∃ pieces : List Str, splitQuoted raw separator = .ok pieces ∧ pieces ≠ [] ∧
      (∀ n, callAt n ⟨raw, separator, 0⟩ = .ok pieces[n]?) ∧
      List.intercalate [separator] pieces = raw ∧
      (∀ i, i ∈ joints pieces ↔
        raw[i]? = some separator ∧ (raw.take i).count '"' % 2 = 0) ∧
      ∀ before, raw = before ++ [separator] → before.count '"' % 2 = 0 →
        pieces.getLast? = some [] := by
  refine ⟨_, splitQuoted_eq raw separator, List.cons_ne_nil _ _, fun n => ?_,
    pieces_joined raw false, fun i => mem_joints other raw false i, ?_⟩
  · exact callAt_eq separator n [] raw
  · intro before ends balanced
    subst ends
    rw [pieces_append separator other [] before false balanced, ← List.cons_append]
    exact List.getLast?_concat

/-- A text with a separator inside quotes, and one at its end. -/
theorem splitQuoted_lossless_quoted :
    ∃ pieces : List Str, splitQuoted "a,\"b,c\",".toList ',' = .ok pieces ∧
      (∀ i, i ∈ joints pieces ↔ "a,\"b,c\",".toList[i]? = some ',' ∧
        ("a,\"b,c\",".toList.take i).count '"' % 2 = 0) ∧ pieces.getLast? = some [] := by
  obtain ⟨pieces, all, -, -, -, cut, trailing⟩ :=
    splitQuoted_lossless "a,\"b,c\",".toList (show ',' ≠ '"' by decide)
  exact ⟨pieces, all, cut, trailing "a,\"b,c\"".toList rfl (by decide)⟩

end MechanicsHttpClient.Guarantees
