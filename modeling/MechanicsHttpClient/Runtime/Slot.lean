import Mathlib.Data.List.Induction

/-!
# A slot that is written, and purged on the way

One key of a shared cache, seen through the operations of all tasks: an
operation stores a value, evicts the present one if it meets a condition, or
does nothing. The content of the slot is a function of the history, and
`Slot.after_eq_some_iff` says which one: the value of the last store, unless an
operation after it has evicted that value.
-/

namespace MechanicsHttpClient.Runtime

/-- What one operation does to the slot. -/
inductive SlotAct (β : Type) where
  | store (value : β)
  | evict (stale : β → Bool)
  | keep

variable {β ε : Type}

namespace SlotAct

def apply : SlotAct β → Option β → Option β
  | .store value, _ => some value
  | .evict stale, some value => if stale value then none else some value
  | .evict _, none => none
  | .keep, content => content

/-- The act leaves a slot that holds `value` as it is. -/
def Spares (value : β) : SlotAct β → Prop
  | .store _ => False
  | .evict stale => stale value = false
  | .keep => True

/-- An act that is no store, on what value or none it finds. -/
theorem apply_eq_some_iff {act : SlotAct β} {content : Option β} {value : β} :
    act.apply content = some value ↔
      act = .store value ∨ (content = some value ∧ act.Spares value) := by
  cases act with
  | store stored => simp [apply, Spares]
  | keep => simp [apply, Spares]
  | evict stale =>
    cases content with
    | none => simp [apply]
    | some held =>
      simp only [apply, Spares, reduceCtorEq, false_or]
      by_cases gone : stale held = true
      · simp only [if_pos gone]
        constructor
        · intro h
          cases h
        · rintro ⟨same, spared⟩
          cases same
          rw [gone] at spared
          cases spared
      · simp only [if_neg gone]
        constructor
        · intro h
          cases h
          exact ⟨rfl, by simpa using gone⟩
        · exact fun h => h.1

end SlotAct

/-- The slot after a history of operations, from some content on. -/
def Slot.resume (act : ε → SlotAct β) (content : Option β) (history : List ε) : Option β :=
  history.foldl (fun content e => (act e).apply content) content

/-- The slot after a history of operations, starting empty. -/
def Slot.after (act : ε → SlotAct β) (history : List ε) : Option β := Slot.resume act none history

theorem Slot.after_append (act : ε → SlotAct β) (before later : List ε) :
    Slot.after act (before ++ later) = Slot.resume act (Slot.after act before) later := by
  simp [Slot.after, Slot.resume]

theorem Slot.after_append_singleton (act : ε → SlotAct β) (history : List ε) (e : ε) :
    Slot.after act (history ++ [e]) = (act e).apply (Slot.after act history) :=
  Slot.after_append act history [e]

/-- Operations that keep the slot may be left out. -/
theorem Slot.resume_filter (act : ε → SlotAct β) (relevant : ε → Bool) (history : List ε)
    (keeps : ∀ e ∈ history, relevant e = false → act e = .keep) :
    ∀ content, Slot.resume act content (history.filter relevant) =
      Slot.resume act content history := by
  induction history with
  | nil => exact fun _ => rfl
  | cons e rest ih =>
    intro content
    have later := ih (fun e' mem => keeps e' (List.mem_cons_of_mem _ mem)) ((act e).apply content)
    cases here : relevant e with
    | true =>
      rw [List.filter_cons_of_pos here]
      exact later
    | false =>
      rw [keeps e List.mem_cons_self here] at later
      rw [List.filter_cons_of_neg (by simp [here])]
      simpa [Slot.resume, keeps e List.mem_cons_self here, SlotAct.apply] using later

theorem Slot.after_filter (act : ε → SlotAct β) (relevant : ε → Bool) (history : List ε)
    (keeps : ∀ e ∈ history, relevant e = false → act e = .keep) :
    Slot.after act (history.filter relevant) = Slot.after act history :=
  Slot.resume_filter act relevant history keeps none

/-- The history specification: the last store decides, until it is evicted. -/
theorem Slot.after_eq_some_iff (act : ε → SlotAct β) (history : List ε) (value : β) :
    Slot.after act history = some value ↔
      ∃ before e later, history = before ++ e :: later ∧ act e = .store value ∧
        ∀ e' ∈ later, (act e').Spares value := by
  induction history using List.reverseRecOn with
  | nil => simp [Slot.after, Slot.resume]
  | append_singleton history last ih =>
    rw [Slot.after_append_singleton, SlotAct.apply_eq_some_iff, ih]
    constructor
    · rintro (stored | ⟨⟨before, e, later, split, stored, spared⟩, spares⟩)
      · exact ⟨history, last, [], rfl, stored, by simp⟩
      · refine ⟨before, e, later ++ [last], by simp [split], stored, ?_⟩
        intro e' mem
        rcases List.mem_append.mp mem with old | new
        · exact spared e' old
        · rw [List.mem_singleton.mp new]
          exact spares
    · rintro ⟨before, e, later, split, stored, spared⟩
      rcases List.eq_nil_or_concat later with rfl | ⟨later, last', rfl⟩
      · obtain ⟨-, same⟩ := List.append_inj' split rfl
        cases same
        exact .inl stored
      · rw [List.concat_eq_append, ← List.cons_append, ← List.append_assoc] at split
        obtain ⟨rest, same⟩ := List.append_inj' split rfl
        cases same
        refine .inr ⟨⟨before, e, later, rest, stored, ?_⟩, ?_⟩
        · intro e' mem
          exact spared e' (by simp [mem])
        · exact spared last (by simp)

/-- A slot that was stored into keeps holding a value of some kind, if later
stores are of that kind and nothing of the kind is evicted. -/
theorem Slot.after_of_kind (act : ε → SlotAct β) (kind : β → Prop) {before later : List ε} {e : ε}
    {value : β} (stored : act e = .store value) (first : kind value)
    (stores : ∀ e' ∈ later, ∀ v, act e' = .store v → kind v)
    (evicts : ∀ e' ∈ later, ∀ stale, act e' = .evict stale → ∀ v, kind v → stale v = false) :
    ∃ held, Slot.after act (before ++ e :: later) = some held ∧ kind held := by
  induction later using List.reverseRecOn with
  | nil =>
    refine ⟨value, ?_, first⟩
    rw [Slot.after_append_singleton, stored]
    rfl
  | append_singleton later last ih =>
    obtain ⟨held, content, good⟩ := ih
      (fun e' mem => stores e' (List.mem_append_left _ mem))
      (fun e' mem => evicts e' (List.mem_append_left _ mem))
    have whole : before ++ e :: (later ++ [last]) = (before ++ e :: later) ++ [last] := by simp
    rw [whole, Slot.after_append_singleton, content]
    cases lasts : act last with
    | store v => exact ⟨v, rfl, stores last (by simp) v lasts⟩
    | keep => exact ⟨held, rfl, good⟩
    | evict stale =>
      have spared := evicts last (by simp) stale lasts held good
      exact ⟨held, by simp [SlotAct.apply, spared], good⟩

end MechanicsHttpClient.Runtime
