import MechanicsHttpClient.Guarantees.Footprint

/-!
# Which HTTPS record is chosen

src/https_rr.rs:32-57. The loop of `lookup` returns at the first record that
advertises h3, and else with the first record of all. The priority of a record
is never read, so the choice follows the order of the answer.
-/

namespace MechanicsHttpClient.Guarantees

open MechanicsHttpClient.Runtime
open MechanicsHttpClient.Source
open MechanicsHttpClient.Source.HttpsRr

def advertisesH3 (record : HttpsRecord) : Bool := record.hasAlpn "h3".toList

/-- The record that the loop makes its entry of. -/
def chosenRecord (records : List HttpsRecord) : Option HttpsRecord :=
  (records.find? advertisesH3).or records.head?

/-- Closed form of the loop, with what it remembers. -/
theorem selectRecord_eq (port : UInt16) (records : List HttpsRecord) :
    ∀ best, selectRecord port best records =
      ((records.find? advertisesH3).map fun record => parseHttpsRecord record port).or
        (best.or (records.head?.map fun record => parseHttpsRecord record port)) := by
  induction records with
  | nil =>
    intro best
    simp [selectRecord]
  | cons record records ih =>
    intro best
    simp only [selectRecord]
    cases h3 : (parseHttpsRecord record port).hasH3 with
    | true =>
      have here : advertisesH3 record = true := h3
      simp [here]
    | false =>
      have here : advertisesH3 record = false := h3
      simp only [Bool.false_eq_true, if_false, ih, List.find?_cons, here]
      cases best <;> simp

theorem selectRecord_chosen (port : UInt16) (records : List HttpsRecord) :
    selectRecord port none records =
      (chosenRecord records).map fun record => parseHttpsRecord record port := by
  rw [selectRecord_eq, chosenRecord]
  cases records.find? advertisesH3 <;> simp

theorem chosenRecord_eq_none {records : List HttpsRecord} :
    chosenRecord records = none ↔ records = [] := by
  cases records with
  | nil => simp [chosenRecord]
  | cons record records => simp [chosenRecord]

/-- A record with h3 is chosen if there is one, the first of them. -/
theorem chosenRecord_h3 {records : List HttpsRecord} {record : HttpsRecord} :
    records.find? advertisesH3 = some record ↔
      chosenRecord records = some record ∧ advertisesH3 record = true := by
  constructor
  · intro first
    exact ⟨by simp [chosenRecord, first], List.find?_some first⟩
  · rintro ⟨chosen, h3⟩
    cases first : records.find? advertisesH3 with
    | some other => simpa [chosenRecord, first] using chosen
    | none =>
      have head : records.head? = some record := by simpa [chosenRecord, first] using chosen
      have none := List.find?_eq_none.mp first record (List.mem_of_head? head)
      exact absurd h3 none

theorem selectRecord_first {port : UInt16} {records : List HttpsRecord} {record : HttpsRecord}
    (first : records.find? advertisesH3 = some record) :
    selectRecord port none records = some (parseHttpsRecord record port) := by
  rw [selectRecord_chosen, (chosenRecord_h3.mp first).1]
  rfl

/-- An entry with h3 was made of the first record with it. -/
theorem selectRecord_made {port : UInt16} {records : List HttpsRecord} {entry : HttpsRrEntry}
    (selected : selectRecord port none records = some entry) (h3 : entry.hasH3 = true) :
    ∃ record, records.find? advertisesH3 = some record ∧ entry = parseHttpsRecord record port := by
  rw [selectRecord_chosen] at selected
  obtain ⟨record, chosen, made⟩ := Option.map_eq_some_iff.mp selected
  subst made
  exact ⟨record, chosenRecord_h3.mpr ⟨chosen, h3⟩, rfl⟩

/-- One record with h3 is enough to be selected with it. -/
theorem selectRecord_hasH3 (port : UInt16) (records : List HttpsRecord) :
    (selectRecord port none records).any HttpsRrEntry.hasH3 = records.any advertisesH3 := by
  rw [selectRecord_chosen]
  cases first : records.find? advertisesH3 with
  | some record =>
    have chosen := chosenRecord_h3.mp first
    have here : (parseHttpsRecord record port).hasH3 = true := chosen.2
    have some : records.any advertisesH3 = true :=
      List.any_eq_true.mpr ⟨record, List.mem_of_find?_eq_some first, chosen.2⟩
    simp [chosen.1, here, some]
  | none =>
    have none := List.find?_eq_none.mp first
    have nowhere : records.any advertisesH3 = false := by simpa using none
    have plain : ∀ record, chosenRecord records = some record →
        (parseHttpsRecord record port).hasH3 = false := by
      intro record chosen
      have head : records.head? = some record := by simpa [chosenRecord, first] using chosen
      have here : advertisesH3 record = false := by
        simpa using none record (List.mem_of_head? head)
      exact here
    rw [nowhere]
    cases chosen : chosenRecord records with
    | none => rfl
    | some record => simpa using plain record chosen

/-- `lookup`, once the resolver has been asked and has answered. -/
def lookupAnswered (origin : Origin) (records : List HttpsRecord) :
    Option (Prog sig (Except Error (Option HttpsRrEntry))) :=
  ((lookup origin).step 0 (.issue (.lookupHttps origin.host))).bind fun asked =>
    asked.step 0 (.done (.lookupHttps origin.host) (.ok records))

theorem lookupAnswered_eq (origin : Origin) (records : List HttpsRecord) :
    lookupAnswered origin records = some (.ret (.ok (selectRecord origin.port none records))) := by
  simp [lookupAnswered, lookup, Prog.suspend, Prog.bind, Prog.step]

/-- Whatever the resolver answers, `lookup` returns no entry iff the answer is
empty, one with h3 iff some record advertises it, and then the entry of the first
such record; of the smallest priority, if they come in this order. Another order
of the answer changes neither whether there is an entry nor whether it has h3. -/
theorem lookup_takes_first_h3 (origin : Origin) (records : List HttpsRecord) :
    ∃ found, lookupAnswered origin records = some (.ret (.ok found)) ∧
      (found = none ↔ records = []) ∧
      (found.any HttpsRrEntry.hasH3 = true ↔ ∃ record ∈ records, advertisesH3 record = true) ∧
      (∀ record, records.find? advertisesH3 = some record →
        found = some (parseHttpsRecord record origin.port) ∧
        ((records.filter advertisesH3).Pairwise (fun r r' => r.priority ≤ r'.priority) →
          ∀ other ∈ records, advertisesH3 other = true → record.priority ≤ other.priority)) ∧
      ∀ reordered : List HttpsRecord, reordered.Perm records →
        ∃ found', lookupAnswered origin reordered = some (.ret (.ok found')) ∧
          (found' = none ↔ found = none) ∧
          found'.any HttpsRrEntry.hasH3 = found.any HttpsRrEntry.hasH3 := by
  have empty : ∀ records, selectRecord origin.port none records = none ↔ records = [] := by
    intro records
    rw [selectRecord_chosen, Option.map_eq_none_iff, chosenRecord_eq_none]
  refine ⟨_, lookupAnswered_eq origin records, empty records, ?_, ?_, ?_⟩
  · rw [selectRecord_hasH3, List.any_eq_true]
  · intro record first
    refine ⟨selectRecord_first first, ?_⟩
    · intro sorted other listed h3
      have leads : (records.filter advertisesH3).head? = some record := by
        rw [List.head?_filter, first]
      obtain ⟨rest, split⟩ : ∃ rest, records.filter advertisesH3 = record :: rest := by
        cases whole : records.filter advertisesH3 with
        | nil => simp [whole] at leads
        | cons head rest => exact ⟨rest, by simpa [whole] using leads⟩
      have mem : other ∈ record :: rest := split ▸ List.mem_filter.mpr ⟨listed, h3⟩
      rw [split] at sorted
      rcases List.mem_cons.mp mem with same | later
      · rw [same]
        exact UInt16.le_refl _
      · exact (List.pairwise_cons.mp sorted).1 other later
  · intro reordered perm
    refine ⟨_, lookupAnswered_eq origin reordered, ?_, ?_⟩
    · rw [empty, empty]
      exact ⟨fun none => (none ▸ perm).nil_eq.symm, fun none => (none ▸ perm).eq_nil⟩
    · rw [selectRecord_hasH3, selectRecord_hasH3, Bool.eq_iff_iff, List.any_eq_true,
        List.any_eq_true]
      simp only [perm.mem_iff]

namespace Example

/-- A backup endpoint that the resolver happens to name first. -/
def backupRecord : HttpsRecord := { h3Record with priority := 2, port := some 8443 }

end Example

/-- The backup is taken although a record with h3 and a smaller priority follows. -/
theorem lookup_takes_backup :
    lookupAnswered Example.origin [Example.backupRecord, Example.h3Record] =
      some (.ret (.ok (some (parseHttpsRecord Example.backupRecord 443)))) ∧
    ∀ record ∈ [Example.backupRecord, Example.h3Record], advertisesH3 record = true →
      (∀ other ∈ [Example.backupRecord, Example.h3Record], advertisesH3 other = true →
        record.priority ≤ other.priority) →
      parseHttpsRecord Example.backupRecord 443 ≠ parseHttpsRecord record 443 := by
  refine ⟨rfl, ?_⟩
  intro record listed _ smallest
  have first : record.priority ≤ 1 := smallest Example.h3Record (by simp) (by decide)
  have primary : record = Example.h3Record := by
    rcases List.mem_cons.mp listed with backup | last
    · rw [backup] at first
      exact absurd first (by decide)
    · exact List.mem_singleton.mp last
  rw [primary]
  decide

end MechanicsHttpClient.Guarantees
