import LocaleSite.Proofs.KeyMap
import LocaleSite.Proofs.Value.JsonRoundTrip

/-!
# Faithful writers

A writer of document values is faithful if it writes plain values and no two things alike. This
carries over to lists and to maps. A record leaves absent fields out and still tells what each of
its fields holds: `Value.ofFields_inj`.
-/

namespace LocaleSite

namespace Value

universe u

variable {α : Type u}

/-- A way to write things as plain values that writes no two things alike. -/
structure Faithful (write : α → Value) : Prop where
  plain : ∀ thing, (write thing).Plain
  inj : Function.Injective write

theorem faithful_string : Faithful Value.string where
  plain := .string
  inj := by
    intro left right same
    exact Value.string.inj same

theorem Faithful.eq_iff {write : α → Value} (faithful : Faithful write) {left right : α} :
    write left = write right ↔ left = right :=
  faithful.inj.eq_iff

theorem Faithful.option_eq_iff {write : α → Value} (faithful : Faithful write)
    {left right : Option α} : left.map write = right.map write ↔ left = right :=
  (Option.map_injective faithful.inj).eq_iff

/-! ## Lists and maps -/

/-- Lists with the same image are equal if no member of the one shares its image. -/
theorem eq_of_map_eq {β : Type u} {write : α → β} {left right : List α}
    (each : ∀ thing ∈ left, ∀ other, write thing = write other → thing = other)
    (same : left.map write = right.map write) : left = right := by
  induction left generalizing right with
  | nil => exact (List.map_eq_nil_iff.1 same.symm).symm
  | cons thing rest ih =>
      cases right with
      | nil => simp at same
      | cons other others =>
          rw [List.map_cons, List.map_cons, List.cons.injEq] at same
          have sameRest : rest = others :=
            ih (fun thing mem => each thing (List.mem_cons_of_mem _ mem)) same.2
          rw [each thing List.mem_cons_self other same.1, sameRest]

theorem Faithful.list {write : α → Value} (faithful : Faithful write) :
    Faithful fun things : List α => .list (things.map write) where
  plain := by
    intro things
    apply Plain.list
    intro value value_mem
    rcases List.mem_map.1 value_mem with ⟨thing, _, rfl⟩
    exact faithful.plain thing
  inj := by
    intro left right same
    exact faithful.inj.list_map (Value.list.inj same)

theorem plain_table_mapValues {write : α → Value} (plain : ∀ thing, (write thing).Plain)
    (map : KeyMap α) : (table (map.mapValues write).entries).Plain := by
  apply Plain.table (map.mapValues write).ascending.nodup_keys
  intro entry entry_mem
  rcases List.mem_map.1 entry_mem with ⟨source, _, rfl⟩
  exact plain source.2

theorem Faithful.keyMap {write : α → Value} (faithful : Faithful write) :
    Faithful fun map : KeyMap α => .table (map.mapValues write).entries where
  plain := plain_table_mapValues faithful.plain
  inj := by
    intro left right same
    have entryInj : Function.Injective fun entry : String × α => (entry.1, write entry.2) := by
      intro entry other sameEntry
      rw [Prod.mk.injEq] at sameEntry
      exact Prod.ext sameEntry.1 (faithful.inj sameEntry.2)
    exact KeyMap.ext (entryInj.list_map (Value.table.inj same))

/-! ## Records -/

/-- The fields that hold something. -/
def heldFields (fields : List (String × Option Value)) : List (String × Value) :=
  fields.filterMap fun field => field.2.map (field.1, ·)

theorem ofFields_eq_table (fields : List (String × Option Value)) :
    ofFields fields = .table (heldFields fields) := rfl

@[simp]
theorem heldFields_cons_none (name : String) (rest : List (String × Option Value)) :
    heldFields ((name, none) :: rest) = heldFields rest := rfl

@[simp]
theorem heldFields_cons_some (name : String) (value : Value)
    (rest : List (String × Option Value)) :
    heldFields ((name, some value) :: rest) = (name, value) :: heldFields rest := rfl

theorem keys_heldFields_sublist (fields : List (String × Option Value)) :
    ((heldFields fields).map Prod.fst).Sublist (fields.map Prod.fst) := by
  induction fields with
  | nil => exact .slnil
  | cons field rest ih =>
      rcases field with ⟨name, _ | value⟩
      · rw [heldFields_cons_none]
        exact ih.cons name
      · rw [heldFields_cons_some]
        exact ih.cons_cons name

theorem plain_ofFields {fields : List (String × Option Value)}
    (nodup : (fields.map Prod.fst).Nodup)
    (each : ∀ field ∈ fields, ∀ value ∈ field.2, value.Plain) : (ofFields fields).Plain := by
  rw [ofFields_eq_table]
  apply Plain.table (nodup.sublist (keys_heldFields_sublist fields))
  intro entry entry_mem
  rcases List.mem_filterMap.1 entry_mem with ⟨field, field_mem, present⟩
  rcases Option.map_eq_some_iff.1 present with ⟨value, held, rfl⟩
  exact each field field_mem value held

/-- Where the names differ, what is held tells of each field what it holds, if anything. -/
theorem heldFields_inj {left right : List (String × Option Value)}
    (names : left.map Prod.fst = right.map Prod.fst) (nodup : (left.map Prod.fst).Nodup)
    (same : heldFields left = heldFields right) : left = right := by
  induction left generalizing right with
  | nil => exact (List.map_eq_nil_iff.1 names.symm).symm
  | cons field rest ih =>
      rcases field with ⟨name, held⟩
      cases right with
      | nil => simp at names
      | cons other others =>
          rcases other with ⟨otherName, otherHeld⟩
          rw [List.map_cons, List.map_cons, List.cons.injEq] at names
          rcases names with ⟨rfl, restNames⟩
          rw [List.map_cons, List.nodup_cons] at nodup
          have restFresh : name ∉ (heldFields rest).map Prod.fst := fun name_mem =>
            nodup.1 ((keys_heldFields_sublist rest).subset name_mem)
          have othersFresh : name ∉ (heldFields others).map Prod.fst := fun name_mem =>
            nodup.1 (restNames ▸ (keys_heldFields_sublist others).subset name_mem)
          -- a field that one side alone holds would come again among the later fields of the other
          cases held with
          | none =>
              cases otherHeld with
              | none => rw [ih restNames nodup.2 same]
              | some value =>
                  rw [heldFields_cons_none, heldFields_cons_some] at same
                  exact absurd (by simp [same]) restFresh
          | some value =>
              cases otherHeld with
              | none =>
                  rw [heldFields_cons_none, heldFields_cons_some] at same
                  exact absurd (by simp [← same]) othersFresh
              | some otherValue =>
                  rw [heldFields_cons_some, heldFields_cons_some, List.cons.injEq,
                    Prod.mk.injEq] at same
                  rw [same.1.2, ih restNames nodup.2 same.2]

theorem ofFields_inj {left right : List (String × Option Value)}
    (same : ofFields left = ofFields right) (names : left.map Prod.fst = right.map Prod.fst)
    (nodup : (left.map Prod.fst).Nodup) : left = right :=
  heldFields_inj names nodup (Value.table.inj same)

end Value

end LocaleSite
