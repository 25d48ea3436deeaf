import Mathlib.Data.List.Basic

/-!
# Builders configured by a chain of calls

A chain method takes a builder and returns it changed, so a chain is a left fold.
What it leaves in one part of the builder follows from how a single call treats
that part: it keeps the first report, replaces the value, or adds to a list.
-/

namespace MechanicsHttpClient.Data

variable {β κ α : Type} {step : β → κ → β}

/-- A part that keeps what it holds ends with the report of the earliest call
that has one. -/
theorem foldl_earliest {part : β → Option α} {report : κ → Option α}
    (each : ∀ builder call, part (step builder call) = (part builder).or (report call))
    (calls : List κ) :
    ∀ builder, part (calls.foldl step builder) = (part builder).or (calls.findSome? report) := by
  induction calls with
  | nil => simp
  | cons call rest ih =>
    intro builder
    rw [List.foldl_cons, ih, each, Option.or_assoc]
    cases here : report call with
    | none => simp [here]
    | some reported => simp [here]

/-- A part that is replaced ends with the value of the last call that sets it. -/
theorem foldl_latest {part : β → Option α} {setting : κ → Option α}
    (each : ∀ builder call, part (step builder call) = (setting call).or (part builder))
    (calls : List κ) :
    ∀ builder, part (calls.foldl step builder) =
      ((calls.filterMap setting).getLast?).or (part builder) := by
  induction calls with
  | nil => simp
  | cons call rest ih =>
    intro builder
    rw [List.foldl_cons, ih, each]
    cases here : setting call with
    | none => simp [here]
    | some value => simp [here, List.getLast?_cons, Option.or_some]

/-- A list that is only added to holds what all calls have added, in order. -/
theorem foldl_gathered {part : β → List α} {added : κ → List α}
    (each : ∀ builder call, part (step builder call) = part builder ++ added call)
    (calls : List κ) :
    ∀ builder, part (calls.foldl step builder) = part builder ++ calls.flatMap added := by
  induction calls with
  | nil => simp
  | cons call rest ih =>
    intro builder
    rw [List.foldl_cons, ih, each]
    simp

end MechanicsHttpClient.Data
