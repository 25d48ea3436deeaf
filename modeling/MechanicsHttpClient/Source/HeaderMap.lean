import MechanicsHttpClient.Source.Text
import Mathlib.Data.List.Nodup

/-!
# http: header names, values and the multi-map

The parts of the `http` crate the client relies on. A name is a lower-cased
token, a value is a byte string without control characters, and `HeaderMap`
keeps for every name its values in insertion order. Both builders fill such
maps: `insert` replaces all values of a name, `append` adds one. The size limit
of the crate's table is not modelled.
-/

namespace MechanicsHttpClient.Source

/-- Characters of a normalised header name. -/
def isHeaderNameChar (ch : Char) : Bool :=
  (97 ≤ ch.toNat && ch.toNat ≤ 122) || (48 ≤ ch.toNat && ch.toNat ≤ 57) ||
    "!#$%&'*+-.^_`|~".toList.contains ch

structure HeaderName where
  text : Str
  wellFormed : text ≠ [] ∧ text.all isHeaderNameChar = true
  deriving DecidableEq

/-- `HeaderName::try_from(&str)`: upper case is folded, other characters reject. -/
def HeaderName.fromStr (s : Str) : Option HeaderName :=
  let folded := s.map toAsciiLowercase
  if h : folded ≠ [] ∧ folded.all isHeaderNameChar = true then some ⟨folded, h⟩ else none

namespace HeaderName

def authorization : HeaderName := ⟨"authorization".toList, by decide⟩

def contentType : HeaderName := ⟨"content-type".toList, by decide⟩

def userAgent : HeaderName := ⟨"user-agent".toList, by decide⟩

def altSvc : HeaderName := ⟨"alt-svc".toList, by decide⟩

end HeaderName

/-- `is_valid` of header values: no control byte except the tab. -/
def isHeaderValueByte (b : UInt8) : Bool := (32 ≤ b && b != 127) || b == 9

structure HeaderValue where
  bytes : List UInt8
  wellFormed : bytes.all isHeaderValueByte = true
  deriving DecidableEq

/-- `HeaderValue::try_from` on text, through its UTF-8 bytes. -/
def HeaderValue.fromStr (s : Str) : Option HeaderValue :=
  let bytes := s.flatMap String.utf8EncodeChar
  if h : bytes.all isHeaderValueByte = true then some ⟨bytes, h⟩ else none

def isVisibleAscii (b : UInt8) : Bool := (32 ≤ b && b < 127) || b == 9

/-- `HeaderValue::to_str`: only visible ASCII is text. -/
def HeaderValue.toStr (value : HeaderValue) : Option Str :=
  if value.bytes.all isVisibleAscii then some (value.bytes.map fun b => Char.ofNat b.toNat)
  else none

/-- One bucket per name, each with at least one value. -/
structure HeaderMap where
  buckets : List (HeaderName × List HeaderValue)
  nodup : (buckets.map Prod.fst).Nodup
  nonempty : ∀ bucket ∈ buckets, bucket.2 ≠ []
  deriving DecidableEq

namespace HeaderMap

/-- The values of a name in a list of buckets. -/
def valuesOf (name : HeaderName) : List (HeaderName × List HeaderValue) → List HeaderValue
  | [] => []
  | bucket :: rest => if bucket.1 = name then bucket.2 else valuesOf name rest

/-- Replace the values of `name` by what `f` makes of them, in place, or open a
bucket at the end. -/
def updateBuckets (name : HeaderName) (f : List HeaderValue → List HeaderValue) :
    List (HeaderName × List HeaderValue) → List (HeaderName × List HeaderValue)
  | [] => [(name, f [])]
  | bucket :: rest =>
    if bucket.1 = name then (name, f bucket.2) :: rest else bucket :: updateBuckets name f rest

theorem mem_names_updateBuckets {name other : HeaderName}
    {f : List HeaderValue → List HeaderValue} {buckets : List (HeaderName × List HeaderValue)}
    (h : other ∈ (updateBuckets name f buckets).map Prod.fst) :
    other = name ∨ other ∈ buckets.map Prod.fst := by
  induction buckets with
  | nil => simpa [updateBuckets] using h
  | cons bucket rest ih =>
    simp only [updateBuckets] at h
    split at h
    · simp only [List.map_cons, List.mem_cons] at h ⊢
      tauto
    · simp only [List.map_cons, List.mem_cons] at h ⊢
      tauto

theorem nodup_updateBuckets (name : HeaderName) (f : List HeaderValue → List HeaderValue)
    (buckets : List (HeaderName × List HeaderValue)) (h : (buckets.map Prod.fst).Nodup) :
    ((updateBuckets name f buckets).map Prod.fst).Nodup := by
  induction buckets with
  | nil => simp [updateBuckets]
  | cons bucket rest ih =>
    obtain ⟨fresh, tail⟩ := List.nodup_cons.mp h
    simp only [updateBuckets]
    split
    · rename_i same
      subst same
      exact List.nodup_cons.mpr ⟨fresh, tail⟩
    · rename_i different
      refine List.nodup_cons.mpr ⟨fun again => ?_, ih tail⟩
      rcases mem_names_updateBuckets again with same | old
      · exact different same
      · exact fresh old

theorem nonempty_updateBuckets (name : HeaderName) (f : List HeaderValue → List HeaderValue)
    (kept : ∀ values, f values ≠ []) (buckets : List (HeaderName × List HeaderValue))
    (h : ∀ bucket ∈ buckets, bucket.2 ≠ []) :
    ∀ bucket ∈ updateBuckets name f buckets, bucket.2 ≠ [] := by
  induction buckets with
  | nil => simp [updateBuckets, kept]
  | cons bucket rest ih =>
    have tail := ih fun b mem => h b (List.mem_cons_of_mem _ mem)
    simp only [updateBuckets]
    split
    · intro b mem
      rcases List.mem_cons.mp mem with rfl | old
      · exact kept _
      · exact h b (List.mem_cons_of_mem _ old)
    · intro b mem
      rcases List.mem_cons.mp mem with rfl | old
      · exact h b List.mem_cons_self
      · exact tail b old

def empty : HeaderMap := ⟨[], by simp, by simp⟩

/-- `HeaderMap::get_all`, the values of a name in insertion order. -/
def getAll (m : HeaderMap) (name : HeaderName) : List HeaderValue := valuesOf name m.buckets

/-- `HeaderMap::get`, the first of several values. -/
def get (m : HeaderMap) (name : HeaderName) : Option HeaderValue := (m.getAll name).head?

def containsKey (m : HeaderMap) (name : HeaderName) : Bool := (m.buckets.map Prod.fst).contains name

/-- `HeaderMap::insert`: the new value replaces all earlier ones. -/
def insert (m : HeaderMap) (name : HeaderName) (value : HeaderValue) : HeaderMap :=
  ⟨updateBuckets name (fun _ => [value]) m.buckets, nodup_updateBuckets _ _ _ m.nodup,
    nonempty_updateBuckets _ _ (by simp) _ m.nonempty⟩

/-- `HeaderMap::append`: the new value joins the earlier ones. -/
def append (m : HeaderMap) (name : HeaderName) (value : HeaderValue) : HeaderMap :=
  ⟨updateBuckets name (· ++ [value]) m.buckets, nodup_updateBuckets _ _ _ m.nodup,
    nonempty_updateBuckets _ _ (by simp) _ m.nonempty⟩

/-- `HeaderMap::iter`: bucket by bucket, each value with its name. -/
def iter (m : HeaderMap) : List (HeaderName × HeaderValue) :=
  m.buckets.flatMap fun bucket => bucket.2.map fun value => (bucket.1, value)

/-- A loop that appends every pair of an iteration. -/
def appendAll (m : HeaderMap) (pairs : List (HeaderName × HeaderValue)) : HeaderMap :=
  pairs.foldl (fun acc pair => acc.append pair.1 pair.2) m

theorem valuesOf_updateBuckets (name other : HeaderName)
    (f : List HeaderValue → List HeaderValue)
    (buckets : List (HeaderName × List HeaderValue)) :
    valuesOf other (updateBuckets name f buckets) =
      if name = other then f (valuesOf name buckets) else valuesOf other buckets := by
  induction buckets with
  | nil =>
    by_cases same : name = other
    · simp [updateBuckets, valuesOf, same]
    · simp [updateBuckets, valuesOf, same]
  | cons bucket rest ih =>
    by_cases here : bucket.1 = name
    · by_cases same : name = other
      · simp [updateBuckets, valuesOf, here, same]
      · simp [updateBuckets, valuesOf, here, same]
    · by_cases same : name = other
      · subst same
        simp only [updateBuckets, if_neg here, valuesOf, ih, if_true]
      · simp only [updateBuckets, if_neg here, valuesOf, ih, if_neg same]

@[simp] theorem getAll_empty (name : HeaderName) : empty.getAll name = [] := rfl

theorem getAll_append (m : HeaderMap) (name other : HeaderName) (value : HeaderValue) :
    (m.append name value).getAll other =
      if name = other then m.getAll name ++ [value] else m.getAll other :=
  valuesOf_updateBuckets name other (· ++ [value]) m.buckets

theorem getAll_insert (m : HeaderMap) (name other : HeaderName) (value : HeaderValue) :
    (m.insert name value).getAll other = if name = other then [value] else m.getAll other :=
  valuesOf_updateBuckets name other (fun _ => [value]) m.buckets

/-- The values that a list of pairs gives to a name, in order. -/
def pairedWith (name : HeaderName) (pairs : List (HeaderName × HeaderValue)) : List HeaderValue :=
  pairs.filterMap fun pair => if pair.1 = name then some pair.2 else none

theorem getAll_appendAll (pairs : List (HeaderName × HeaderValue)) :
    ∀ (m : HeaderMap) (name : HeaderName),
      (m.appendAll pairs).getAll name = m.getAll name ++ pairedWith name pairs := by
  induction pairs with
  | nil =>
    intro m name
    simp [appendAll, pairedWith]
  | cons pair rest ih =>
    intro m name
    have step : m.appendAll (pair :: rest) = (m.append pair.1 pair.2).appendAll rest := rfl
    rw [step, ih, getAll_append]
    by_cases same : pair.1 = name
    · simp [pairedWith, same]
    · simp [pairedWith, same]

theorem pairedWith_bucket (name other : HeaderName) (values : List HeaderValue) :
    pairedWith name (values.map fun value => (other, value)) =
      if other = name then values else [] := by
  by_cases same : other = name
  · simp [pairedWith, same, List.filterMap_map]
  · simp [pairedWith, same, List.filterMap_map]

theorem valuesOf_eq_nil {name : HeaderName} {buckets : List (HeaderName × List HeaderValue)}
    (h : name ∉ buckets.map Prod.fst) : valuesOf name buckets = [] := by
  induction buckets with
  | nil => rfl
  | cons bucket rest ih =>
    simp only [List.map_cons, List.mem_cons, not_or] at h
    simp only [valuesOf, if_neg (Ne.symm h.1)]
    exact ih h.2

/-- Iterating a map gives every name its values, in order. -/
theorem pairedWith_iter (m : HeaderMap) (name : HeaderName) :
    pairedWith name m.iter = m.getAll name := by
  have buckets : ∀ buckets : List (HeaderName × List HeaderValue), (buckets.map Prod.fst).Nodup →
      pairedWith name (buckets.flatMap fun bucket => bucket.2.map fun value => (bucket.1, value)) =
        valuesOf name buckets := by
    intro buckets
    induction buckets with
    | nil => exact fun _ => rfl
    | cons bucket rest ih =>
      intro nodup
      obtain ⟨fresh, tail⟩ := List.nodup_cons.mp nodup
      have split : pairedWith name ((bucket :: rest).flatMap
            fun bucket => bucket.2.map fun value => (bucket.1, value)) =
          pairedWith name (bucket.2.map fun value => (bucket.1, value)) ++
            pairedWith name (rest.flatMap
              fun bucket => bucket.2.map fun value => (bucket.1, value)) := by
        simp [pairedWith, List.flatMap_cons, List.filterMap_append]
      rw [split, pairedWith_bucket, ih tail]
      by_cases same : bucket.1 = name
      · rw [if_pos same, ← same, valuesOf_eq_nil fresh]
        simp [valuesOf]
      · simp [valuesOf, same]
  exact buckets m.buckets m.nodup

/-- A name is in the map exactly when it has a value. -/
theorem containsKey_iff (m : HeaderMap) (name : HeaderName) :
    m.containsKey name = true ↔ m.getAll name ≠ [] := by
  have buckets : ∀ buckets : List (HeaderName × List HeaderValue),
      (∀ bucket ∈ buckets, bucket.2 ≠ []) →
      (name ∈ buckets.map Prod.fst ↔ valuesOf name buckets ≠ []) := by
    intro buckets
    induction buckets with
    | nil => simp [valuesOf]
    | cons bucket rest ih =>
      intro nonempty
      have tail := ih fun b mem => nonempty b (List.mem_cons_of_mem _ mem)
      by_cases same : bucket.1 = name
      · have here := nonempty bucket List.mem_cons_self
        simp [valuesOf, same, here]
      · simp only [List.map_cons, List.mem_cons, valuesOf, if_neg same, ← tail]
        exact ⟨fun mem => mem.resolve_left (Ne.symm same), Or.inr⟩
  have names := buckets m.buckets m.nonempty
  unfold containsKey
  rw [List.contains_iff_mem]
  exact names

end HeaderMap

end MechanicsHttpClient.Source
