import Mathlib.Algebra.Group.Nat.Defs
import Mathlib.Data.List.DropRight
import Mathlib.Data.List.Infix

/-!
# str: the slices and searches the parsers use

A `&str` is its list of characters; byte offsets are sums of UTF-8 widths, so
slicing at an offset that is not a character boundary, or past the end, fails
as it does in Rust.
-/

namespace MechanicsHttpClient.Source

abbrev Str := List Char

/-- What evaluation finds of each character of a given text. -/
theorem Str.forall_of_all {P : Char → Prop} [DecidablePred P] {text : Str}
    (all : text.all (fun ch => decide (P ch)) = true) : ∀ ch ∈ text, P ch := by
  intro ch mem
  exact of_decide_eq_true (List.all_eq_true.mp all ch mem)

/-- `str::len`: bytes, not characters. -/
def Str.len : Str → Nat
  | [] => 0
  | ch :: rest => ch.utf8Size + Str.len rest

/-- `&s[start..]`. -/
def Str.sliceFrom : Nat → Str → Option Str
  | 0, s => some s
  | _ + 1, [] => none
  | n + 1, ch :: rest =>
    if ch.utf8Size ≤ n + 1 then Str.sliceFrom (n + 1 - ch.utf8Size) rest else none

/-- `&s[..end]`. -/
def Str.sliceTo : Nat → Str → Option Str
  | 0, _ => some []
  | _ + 1, [] => none
  | n + 1, ch :: rest =>
    if ch.utf8Size ≤ n + 1 then (Str.sliceTo (n + 1 - ch.utf8Size) rest).map (ch :: ·) else none

/-- `&s[start..stop]`. -/
def Str.slice (s : Str) (start stop : Nat) : Option Str :=
  if start ≤ stop then (Str.sliceFrom start s).bind (Str.sliceTo (stop - start)) else none

/-- `char::is_whitespace`: the Unicode White_Space property. -/
def isWhitespace (ch : Char) : Bool :=
  let n := ch.toNat
  (9 ≤ n && n ≤ 13) || n == 32 || n == 0x85 || n == 0xA0 || n == 0x1680 ||
    (0x2000 ≤ n && n ≤ 0x200A) || n == 0x2028 || n == 0x2029 || n == 0x202F || n == 0x205F ||
    n == 0x3000

/-- `str::trim_matches` with a character predicate. -/
def Str.trimMatches (p : Char → Bool) (s : Str) : Str := (s.dropWhile p).rdropWhile p

/-- `str::trim`. -/
def Str.trim (s : Str) : Str := s.trimMatches isWhitespace

/-- Trimming takes characters that satisfy the predicate, from both ends. -/
theorem Str.trimMatches_split (p : Char → Bool) (s : Str) :
    ∃ before later, s = before ++ s.trimMatches p ++ later ∧ (∀ ch ∈ before, p ch = true) ∧
      ∀ ch ∈ later, p ch = true := by
  refine ⟨s.takeWhile p, (s.dropWhile p).rtakeWhile p, ?_, ?_, ?_⟩
  · rw [List.append_assoc, Str.trimMatches, List.rdropWhile_append_rtakeWhile,
      List.takeWhile_append_dropWhile]
  · exact fun ch mem => List.mem_takeWhile_imp mem
  · exact fun ch mem => List.mem_rtakeWhile_imp mem

theorem Str.mem_trimMatches {p : Char → Bool} {ch : Char} {s : Str} (mem : ch ∈ s)
    (kept : p ch = false) : ch ∈ s.trimMatches p := by
  obtain ⟨before, later, split, first, last⟩ := Str.trimMatches_split p s
  rw [split] at mem
  rcases List.mem_append.mp mem with mem | mem
  · rcases List.mem_append.mp mem with mem | mem
    · rw [first ch mem] at kept
      cases kept
    · exact mem
  · rw [last ch mem] at kept
    cases kept

/-- `str::split_once` at the first occurrence. -/
def Str.splitOnce (sep : Char) : Str → Option (Str × Str)
  | [] => none
  | ch :: rest =>
    if ch = sep then some ([], rest)
    else (Str.splitOnce sep rest).map fun parts => (ch :: parts.1, parts.2)

/-- `str::rsplit_once` at the last occurrence. -/
def Str.rsplitOnce (sep : Char) : Str → Option (Str × Str)
  | [] => none
  | ch :: rest =>
    match Str.rsplitOnce sep rest with
    | some parts => some (ch :: parts.1, parts.2)
    | none => if ch = sep then some ([], rest) else none

/-- `str::strip_prefix` with a character. -/
def Str.stripPrefix (ch : Char) : Str → Option Str
  | first :: rest => if first = ch then some rest else none
  | [] => none

/-- `str::strip_suffix` with a character. -/
def Str.stripSuffix (ch : Char) (s : Str) : Option Str :=
  if s.getLast? = some ch then some s.dropLast else none

def toAsciiLowercase (ch : Char) : Char :=
  if 65 ≤ ch.toNat ∧ ch.toNat ≤ 90 then Char.ofNat (ch.toNat + 32) else ch

/-- `str::eq_ignore_ascii_case`. -/
def Str.eqIgnoreAsciiCase (s t : Str) : Bool :=
  decide (s.map toAsciiLowercase = t.map toAsciiLowercase)

/-- `str::contains` with a string pattern. -/
def Str.contains (s pattern : Str) : Bool := decide (pattern <:+: s)

def decimalDigit (ch : Char) : Option Nat :=
  if 48 ≤ ch.toNat ∧ ch.toNat ≤ 57 then some (ch.toNat - 48) else none

/-- Digits folded from the left; `none` at the first character that is not one. -/
def decimalValue : Nat → Str → Option Nat
  | acc, [] => some acc
  | acc, ch :: rest =>
    match decimalDigit ch with
    | some digit => decimalValue (acc * 10 + digit) rest
    | none => none

/-- `str::parse` at an unsigned type of `bits` bits: one leading `+` is allowed,
the rest must be at least one digit, and the value must fit. -/
def Str.parseUnsigned (bits : Nat) (s : Str) : Option Nat :=
  let digits := match s with
    | '+' :: rest => rest
    | _ => s
  if digits = [] then none
  else match decimalValue 0 digits with
    | some value => if value < 2 ^ bits then some value else none
    | none => none

def Str.parseU16 (s : Str) : Option UInt16 := (s.parseUnsigned 16).map UInt16.ofNat

def Str.parseU64 (s : Str) : Option UInt64 := (s.parseUnsigned 64).map UInt64.ofNat

theorem Str.trimMatches_append {p : Char → Bool} {before later : Str}
    (first : ∀ ch ∈ before, p ch = true) (last : ∀ ch ∈ later, p ch = true) (s : Str) :
    Str.trimMatches p (before ++ s ++ later) = s.trimMatches p := by
  have dropped : ∀ t : Str, (t ++ later).rdropWhile p = t.rdropWhile p := by
    intro t
    have reversed : ∀ ch ∈ later.reverse, p ch = true := by simpa using last
    simp only [List.rdropWhile, List.reverse_append, List.dropWhile_append_of_pos reversed]
  unfold Str.trimMatches
  rw [List.append_assoc, List.dropWhile_append_of_pos first, List.dropWhile_append]
  split
  · rename_i blank
    have none_left : s.dropWhile p = [] := by simpa using blank
    have none_later : later.dropWhile p = [] := List.dropWhile_eq_nil_iff.mpr last
    rw [none_left, none_later]
  · exact dropped _

theorem Str.trimMatches_bare {p : Char → Bool} {s : Str} (first : ∀ ch ∈ s.head?, p ch = false)
    (last : ∀ ch ∈ s.getLast?, p ch = false) : s.trimMatches p = s := by
  have kept : s.dropWhile p = s := by
    cases s with
    | nil => rfl
    | cons ch rest => simp [first ch (by simp)]
  unfold Str.trimMatches
  rw [kept, List.rdropWhile_eq_self_iff]
  intro filled
  simpa using last (s.getLast filled) (List.getLast?_eq_some_getLast filled)

theorem Str.splitOnce_eq_some {sep : Char} {s first rest : Str} :
    Str.splitOnce sep s = some (first, rest) ↔ s = first ++ sep :: rest ∧ sep ∉ first := by
  induction s generalizing first with
  | nil => simp [Str.splitOnce]
  | cons ch tail ih =>
    unfold Str.splitOnce
    by_cases here : ch = sep
    · subst here
      cases first with
      | nil => simp
      | cons other more =>
        simp only [if_true, Option.some.injEq, Prod.mk.injEq, reduceCtorEq, false_and,
          List.cons_append, List.cons.injEq, List.mem_cons, not_or, false_iff, not_and]
        rintro ⟨same, -⟩ different
        exact absurd same different
    · rw [if_neg here]
      cases first with
      | nil => simp [here]
      | cons other more =>
        simp only [Option.map_eq_some_iff, Prod.exists, Prod.mk.injEq, List.cons.injEq,
          List.cons_append, List.mem_cons, not_or]
        constructor
        · rintro ⟨part, left, found, ⟨rfl, rfl⟩, rfl⟩
          obtain ⟨split, absent⟩ := ih.mp found
          exact ⟨⟨rfl, split⟩, Ne.symm here, absent⟩
        · rintro ⟨⟨rfl, split⟩, -, absent⟩
          exact ⟨more, rest, ih.mpr ⟨split, absent⟩, ⟨rfl, rfl⟩, rfl⟩

theorem Str.rsplitOnce_eq_none {sep : Char} {s : Str} :
    Str.rsplitOnce sep s = none ↔ sep ∉ s := by
  induction s with
  | nil => simp [Str.rsplitOnce]
  | cons ch rest ih =>
    unfold Str.rsplitOnce
    cases found : Str.rsplitOnce sep rest with
    | some parts =>
      have inside : sep ∈ rest := by
        by_contra absent
        rw [ih.mpr absent] at found
        cases found
      simp [inside]
    | none =>
      have absent := ih.mp found
      by_cases here : ch = sep
      · simp [here]
      · simp [here, absent, Ne.symm here]

theorem Str.rsplitOnce_eq_some {sep : Char} {s first rest : Str} :
    Str.rsplitOnce sep s = some (first, rest) ↔ s = first ++ sep :: rest ∧ sep ∉ rest := by
  induction s generalizing first with
  | nil => simp [Str.rsplitOnce]
  | cons ch tail ih =>
    unfold Str.rsplitOnce
    cases found : Str.rsplitOnce sep tail with
    | some parts =>
      have inside : sep ∈ tail := by
        by_contra absent
        rw [Str.rsplitOnce_eq_none.mpr absent] at found
        cases found
      cases first with
      | nil =>
        simp only [Option.some.injEq, Prod.mk.injEq, reduceCtorEq, false_and, List.nil_append,
          List.cons.injEq, false_iff, not_and]
        rintro ⟨-, rfl⟩ absent
        exact absent inside
      | cons other more =>
        simp only [Option.some.injEq, Prod.mk.injEq, List.cons.injEq, List.cons_append, and_assoc]
        constructor
        · rintro ⟨rfl, rfl, rfl⟩
          exact ⟨rfl, ih.mp found⟩
        · rintro ⟨rfl, split, absent⟩
          have same := ih.mpr ⟨split, absent⟩
          rw [found, Option.some.injEq] at same
          rw [same]
          exact ⟨rfl, rfl, rfl⟩
    | none =>
      have absent := Str.rsplitOnce_eq_none.mp found
      cases first with
      | nil =>
        by_cases here : ch = sep
        · subst here
          simp only [if_true, Option.some.injEq, Prod.mk.injEq, true_and, List.nil_append,
            List.cons.injEq]
          constructor
          · rintro rfl
            exact ⟨rfl, absent⟩
          · exact fun h => h.1
        · simp [here]
      | cons other more =>
        have elsewhere : tail ≠ more ++ sep :: rest := by
          rintro rfl
          simp at absent
        by_cases here : ch = sep
        · simp [here, elsewhere]
        · simp [here, elsewhere]

theorem Str.stripPrefix_eq_some {ch : Char} {s rest : Str} :
    Str.stripPrefix ch s = some rest ↔ s = ch :: rest := by
  unfold Str.stripPrefix
  split
  · split
    · rename_i same
      simp [same]
    · rename_i different
      simp [different]
  · simp

theorem Str.stripSuffix_eq_some {ch : Char} {s rest : Str} :
    Str.stripSuffix ch s = some rest ↔ s = rest ++ [ch] := by
  unfold Str.stripSuffix
  constructor
  · intro h
    split at h
    · rename_i last
      cases h
      exact (List.dropLast_append_getLast? ch last).symm
    · cases h
  · rintro rfl
    simp

/-- A pattern without the separator lies on one side of it. -/
theorem Str.contains_separated {sep : Char} {pattern before later : Str} (absent : sep ∉ pattern) :
    Str.contains (before ++ sep :: later) pattern =
      (Str.contains before pattern || Str.contains later pattern) := by
  rw [Bool.eq_iff_iff, Bool.or_eq_true]
  simp only [Str.contains, decide_eq_true_eq]
  constructor
  · rintro ⟨start, rest, whole⟩
    rcases List.append_eq_append_iff.mp whole with ⟨more, inBefore, -⟩ | ⟨taken, reaches, left⟩
    · exact .inl ⟨start, more, inBefore.symm⟩
    · cases taken with
      | nil => exact .inl ⟨start, [], by simpa using reaches⟩
      | cons first taken =>
        obtain ⟨same, inLater⟩ := List.cons.inj left
        subst same
        -- The separator is reached before the pattern begins.
        rcases List.append_eq_append_iff.mp reaches with ⟨begun, -, crosses⟩ | ⟨gap, -, begins⟩
        · exact absurd (by simp [crosses]) absent
        · cases gap with
          | nil =>
            rw [List.nil_append] at begins
            exact absurd (by simp [← begins]) absent
          | cons other gap =>
            obtain ⟨-, tail⟩ := List.cons.inj begins
            refine .inr ⟨gap, rest, ?_⟩
            rw [inLater, tail]
            rfl
  · rintro (inBefore | inLater)
    · exact inBefore.trans List.infix_append_left
    · have tail : later <:+: sep :: later := ⟨[sep], [], by simp⟩
      exact (inLater.trans tail).trans List.infix_append_right

def isDecimalDigit (ch : Char) : Bool := decide (48 ≤ ch.toNat ∧ ch.toNat ≤ 57)

/-- The value of a text of digits. -/
def decimalOf (digits : Str) : Nat :=
  digits.foldl (fun value ch => value * 10 + (ch.toNat - 48)) 0

theorem decimalValue_eq (s : Str) : ∀ acc : Nat,
    decimalValue acc s =
      if s.all isDecimalDigit then
        some (s.foldl (fun value ch => value * 10 + (ch.toNat - 48)) acc)
      else none := by
  induction s with
  | nil => exact fun acc => rfl
  | cons ch rest ih =>
    intro acc
    unfold decimalValue decimalDigit
    by_cases digit : 48 ≤ ch.toNat ∧ ch.toNat ≤ 57
    · have isDigit : isDecimalDigit ch = true := decide_eq_true digit
      simp only [if_pos digit, ih, List.all_cons, isDigit, Bool.true_and, List.foldl_cons]
    · have noDigit : isDecimalDigit ch = false := decide_eq_false digit
      simp [if_neg digit, noDigit]

/-- A number is digits, after at most one `+`. -/
theorem Str.parseUnsigned_eq_some {bits value : Nat} {s : Str} :
    s.parseUnsigned bits = some value ↔
      ∃ digits, (s = digits ∨ s = '+' :: digits) ∧ digits ≠ [] ∧
        digits.all isDecimalDigit = true ∧ decimalOf digits = value ∧ value < 2 ^ bits := by
  have plus : isDecimalDigit '+' = false := by decide
  have number : ∀ digits : Str,
      (if digits = [] then none
        else match decimalValue 0 digits with
          | some v => if v < 2 ^ bits then some v else none
          | none => none) = some value ↔
        digits ≠ [] ∧ digits.all isDecimalDigit = true ∧ decimalOf digits = value ∧
          value < 2 ^ bits := by
    intro digits
    rw [decimalValue_eq]
    by_cases empty : digits = []
    · simp [empty]
    · by_cases all : digits.all isDecimalDigit = true
      · rw [if_neg empty, if_pos all]
        dsimp only
        change (if decimalOf digits < 2 ^ bits then some (decimalOf digits) else none) = _ ↔ _
        rw [Option.ite_none_right_eq_some, Option.some.injEq]
        constructor
        · rintro ⟨fits, rfl⟩
          exact ⟨empty, all, rfl, fits⟩
        · rintro ⟨-, -, rfl, fits⟩
          exact ⟨fits, rfl⟩
      · simp [empty, all]
  unfold Str.parseUnsigned
  dsimp only
  rw [number]
  split
  · rename_i rest
    constructor
    · exact fun h => ⟨rest, .inr rfl, h⟩
    · rintro ⟨digits, same | same, filled, all, h⟩
      · subst same
        simp [plus] at all
      · cases same
        exact ⟨filled, all, h⟩
  · rename_i noPlus
    constructor
    · exact fun h => ⟨s, .inl rfl, h⟩
    · rintro ⟨digits, rfl | same, h⟩
      · exact h
      · exact absurd same (noPlus digits)

end MechanicsHttpClient.Source
